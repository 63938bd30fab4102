import Mathlib.Data.Finset.Card
import Mathlib.Order.Interval.Finset.Nat
import Playground.Gate.Bounds
import Playground.Gate.Schedule

/-! The gate behind a `TcpServer` that keeps at most as many sockets open as the table has slots. -/

namespace Playground.Gate

open Framing Component Transition

def Event.counts : Event → Int
  | .newConnection _ => 1
  | .connectionClosed _ => -1
  | _ => 0

private theorem checkConnxFree_counters (env : Env) (gate : GateServerHandler) (idx : Nat) :
    (gate.checkConnxFree env idx).schedule.size = gate.schedule.size ∧
      (gate.checkConnxFree env idx).schedule.iAlivedConnections = gate.schedule.iAlivedConnections := by
  rw [GateServerHandler.schedule_checkConnxFree]
  split
  · exact ⟨rfl, rfl⟩
  · split
    · exact ⟨rfl, rfl⟩
    · split <;> exact ⟨rfl, rfl⟩

theorem step_counters (idle : gate.Idle) (stepped : EventStep env gate ev next) :
    next.size = gate.size ∧ next.iAlivedConnections = gate.iAlivedConnections + ev.counts := by
  cases ev with
  | newConnection client =>
    obtain ⟨result, returned, rfl⟩ := Option.map_eq_some_iff.mp stepped
    obtain ⟨i, _, same | same | same⟩ := GateServerHandler.schedule_onNewConnection env gate client returned
    · exact ⟨congrArg Schedule.size same, congrArg Schedule.iAlivedConnections same⟩
    · exact ⟨congrArg Schedule.size same, congrArg Schedule.iAlivedConnections same⟩
    · split at same
      · exact ⟨congrArg Schedule.size same, congrArg Schedule.iAlivedConnections same⟩
      · exact ⟨congrArg Schedule.size same, congrArg Schedule.iAlivedConnections same⟩
  | clientDataRecv fd chunk =>
    cases stepped
    have kept := (GateServerHandler.schedule_onClientDataRecv env gate fd chunk idle).counters
    exact ⟨kept.1, kept.2.trans (Int.add_zero _).symm⟩
  | connectionClosed fd =>
    cases stepped
    exact (GateServerHandler.schedule_onConnectionClosed env gate fd).counters
  | checkConnxFree idx =>
    cases stepped
    have kept := checkConnxFree_counters env gate idx
    exact ⟨kept.1, kept.2.trans (Int.add_zero _).symm⟩
  | agentMessage ggc csmsg =>
    cases stepped
    have kept := (GateServerHandler.schedule_dispatchMessage env gate ggc csmsg).counters
    exact ⟨kept.1, kept.2.trans (Int.add_zero _).symm⟩
  | closing reason notifinum =>
    cases stepped
    have kept := (GateServerHandler.schedule_onClosing env gate reason notifinum).counters
    exact ⟨kept.1, kept.2.trans (Int.add_zero _).symm⟩
  | clock curTime timeStampNow curMsTime =>
    cases stepped
    exact ⟨rfl, (Int.add_zero _).symm⟩

/-- The gate with the sockets that the server has open. -/
structure Server where
  gate : GateServerHandler
  sockets : Finset Int

def Server.init (env : Env) (iMaxConnections : Nat) (curMsTime : UInt64) (junk : Nat → UInt32) :
    Server where
  gate := .init env iMaxConnections curMsTime junk
  sockets := ∅

/-- One call of the handler by a server that accepts while there is room, and tells of every socket once. -/
def ServerStep (env : Env) (server : Server) (ev : Event) (next : Server) : Prop :=
  EventStep env server.gate ev next.gate ∧
  match ev with
  | .newConnection client =>
    client.fd ∉ server.sockets ∧ server.sockets.card < server.gate.size ∧
      next.sockets = insert client.fd server.sockets
  | .connectionClosed fd => fd ∈ server.sockets ∧ next.sockets = server.sockets.erase fd
  | _ => next.sockets = server.sockets

/-- The counter counts the open sockets, and every live slot has one of its own. -/
structure Server.Counted (server : Server) : Prop where
  idle : server.gate.Idle
  mapped : server.gate.table.Mapped
  owned : server.gate.table.Owned
  alive : server.gate.iAlivedConnections = server.sockets.card
  held : ∀ i, server.gate.table.Live i → (server.gate.table.slots i).socket.fd ∈ server.sockets

theorem socket_of_steps (steps : Steps (ActStep env) table acts next)
    (keeps : ∀ act ∈ acts, act.taken = none)
    (j : Nat) : (next.slots j).socket = (table.slots j).socket := by
  induction steps with
  | nil => rfl
  | cons first rest ih =>
    have later := ih fun act member => keeps act (List.mem_cons_of_mem _ member)
    exact later.trans (Table.socket_step first (keeps _ List.mem_cons_self) j)

private theorem socket_of_taken {act : Act} (env : Env) (table : Table) (taken : act.taken = some (i, client)) :
    ((table.apply env act).slots i).socket = client := by
  cases act with
  | accept j other written | refuse j other written =>
    obtain ⟨rfl, rfl⟩ := Prod.mk.inj (Option.some.inj taken)
    simp [Table.apply]
  | _ => cases taken

namespace Server.Counted

variable {env : Env} {server next : Server} {ev : Event}

theorem fresh (counted : server.Counted) (stepped : ServerStep env server ev next) :
    FreshSocket server.gate ev := by
  cases ev with
  | newConnection client =>
    intro j live same
    exact stepped.2.1 (same ▸ counted.held j live)
  | _ => trivial

theorem held_newConnection (counted : server.Counted)
    (stepped : ServerStep env server (.newConnection client) next) (live : next.gate.table.Live j) :
    (next.gate.table.slots j).socket.fd ∈ next.sockets := by
  obtain ⟨accepted, _, _, sockets⟩ := stepped
  obtain ⟨result, returned, same⟩ := Option.map_eq_some_iff.mp accepted
  obtain ⟨act, takes, _, acted, _⟩ := GateServerHandler.onNewConnection_acts env server.gate client returned
  rw [same] at acted
  rw [sockets]
  rcases takes with rfl | ⟨i, taken, _⟩
  · rw [Table.socket_step acted rfl j]
    exact Finset.mem_insert_of_mem (counted.held j (live_of_step acted rfl live))
  · rw [← acted.2] at live ⊢
    by_cases own : j = i
    · subst own
      rw [socket_of_taken env _ taken]
      exact Finset.mem_insert_self _ _
    · have apart : act.slot ≠ some j := by
        rw [Act.slot_of_taken taken]
        exact fun same => own (Option.some.inj same).symm
      rw [Table.Live, Table.apply_slots_other env _ j act apart] at live
      rw [Table.apply_slots_other env _ j act apart]
      exact Finset.mem_insert_of_mem (counted.held j live)

private theorem held_connectionClosed (counted : server.Counted)
    (stepped : ServerStep env server (.connectionClosed fd) next) (before : server.gate.table.Live j)
    (live : next.gate.table.Live j) : (server.gate.table.slots j).socket.fd ≠ fd := by
  rintro rfl
  obtain ⟨positive, bounded, _, entry⟩ := counted.owned j before
  have found : server.gate.table.byFD (server.gate.table.slots j).socket.fd = some j :=
    Table.byFD_of_live entry positive bounded before
  obtain ⟨closed, _⟩ := stepped
  have removed : next.gate.schedule = ((server.gate.countAlive (-1)).schedule).remove j := by
    rw [← Option.some.inj closed, GateServerHandler.onConnectionClosed]
    have resolved : (server.gate.countAlive (-1)).getConnectionByFD (server.gate.table.slots j).socket.fd =
        some j := (GateServerHandler.getConnectionByFD_eq _ _).trans found
    rw [resolved]
    exact GateServerHandler.schedule_removeConnection env _ j _
  rw [← GateServerHandler.schedule_live_iff, removed] at live
  simp [Schedule.remove] at live

theorem step (stepped : ServerStep env server ev next) (counted : server.Counted) : next.Counted := by
  have called := stepped.1
  obtain ⟨acts, acted⟩ := step_acts counted.idle called
  obtain ⟨mapped, owned⟩ := acted.owned (counted.fresh stepped) counted.mapped counted.owned
  obtain ⟨_, alive⟩ := step_counters counted.idle called
  rw [counted.alive] at alive
  -- away from an accept the live slots and their sockets were there before
  have earlier : (∀ client, ev ≠ .newConnection client) → ∀ j, next.gate.table.Live j →
      server.gate.table.Live j ∧ (next.gate.table.slots j).socket = (server.gate.table.slots j).socket := by
    intro other j live
    have keeps : ∀ act ∈ acts, act.taken = none := by
      intro act member
      cases takes : act.taken with
      | none => rfl
      | some taken => exact absurd (acted.taken act member taken.1 taken.2 takes).1 (other _)
    exact ⟨live_of_steps acted.steps keeps live, socket_of_steps acted.steps keeps j⟩
  cases ev with
  | newConnection client =>
    refine ⟨acted.idle, mapped, owned, ?_, fun j live => counted.held_newConnection stepped live⟩
    rw [stepped.2.2.2, Finset.card_insert_of_notMem stepped.2.1, alive]
    simp [Event.counts]
  | connectionClosed fd =>
    refine ⟨acted.idle, mapped, owned, ?_, fun j live => ?_⟩
    · have some := Finset.card_pos.mpr ⟨fd, stepped.2.1⟩
      rw [stepped.2.2, Finset.card_erase_of_mem stepped.2.1, alive]
      simp only [Event.counts]
      omega
    · obtain ⟨before, same⟩ := earlier (by simp) j live
      rw [stepped.2.2, same]
      exact Finset.mem_erase.mpr ⟨counted.held_connectionClosed stepped before live, counted.held j before⟩
  | _ =>
    refine ⟨acted.idle, mapped, owned, ?_, fun j live => ?_⟩
    · rw [show next.sockets = server.sockets from stepped.2, alive]
      simp [Event.counts]
    · obtain ⟨before, same⟩ := earlier (by simp) j live
      rw [show next.sockets = server.sockets from stepped.2, same]
      exact counted.held j before

theorem exists_free (counted : server.Counted) (room : server.sockets.card + 1 < server.gate.size) :
    ∃ i, 1 ≤ i ∧ i < server.gate.size ∧ (server.gate.vecConnections i).bState = .invalid := by
  by_contra none
  have live : ∀ i ∈ Finset.Ico 1 server.gate.size, server.gate.table.Live i := by
    intro i member
    obtain ⟨positive, bounded⟩ := Finset.mem_Ico.mp member
    exact fun invalid => none ⟨i, positive, bounded, invalid⟩
  have fewer := Finset.card_le_card_of_injOn (fun i => (server.gate.table.slots i).socket.fd)
    (fun i member => counted.held i (live i member))
    (fun i left j right same => counted.owned.distinct (live i left) (live j right) same)
  rw [Nat.card_Ico] at fewer
  omega

end Server.Counted

private theorem server_init_counted (env : Env) (iMaxConnections : Nat) (curMsTime : UInt64) (junk : Nat → UInt32) :
    (Server.init env iMaxConnections curMsTime junk).Counted where
  idle := idle_init env iMaxConnections curMsTime junk
  mapped := (sound_init env iMaxConnections curMsTime junk).mapped
  owned _ live := absurd rfl live
  alive := rfl
  held _ live := absurd rfl live

/-- `OnNewConnection` returns and works on a free slot of the table. -/
def GateServerHandler.AcceptsSafely (env : Env) (gate : GateServerHandler) (client : TcpSocket) : Prop :=
  ∃ i result, (gate.countAlive 1).getNextIdx = some i ∧ 1 ≤ i ∧ i < gate.size ∧
    (gate.vecConnections i).bState = .invalid ∧ gate.onNewConnection env client = some result

theorem acceptsSafely_iff_getNextIdx (env : Env) (gate : GateServerHandler) (client : TcpSocket) :
    gate.AcceptsSafely env client ↔ (gate.countAlive 1).getNextIdx ≠ none := by
  constructor
  · rintro ⟨i, _, found, _⟩ none
    cases found.symm.trans none
  · intro some
    obtain ⟨i, found⟩ := Option.ne_none_iff_exists'.mp some
    obtain ⟨positive, bounded, free⟩ := GateServerHandler.getNextIdx_some _ found
    have invalid : (gate.vecConnections i).bState = .invalid := not_not.mp free
    exact ⟨i, _, found, positive, bounded, invalid,
      by rw [GateServerHandler.onNewConnection, found, Option.map_some]⟩

/-- With as many sockets open as the table has slots, the last one that the server lets in finds no
slot: `GetNextIdx` counts it already and skips slot 0, and `OnNewConnection` indexes the table
with -1. Every other accept takes a free slot. -/
theorem accepts_safely_iff
    (run : Steps (ServerStep env) (Server.init env iMaxConnections curMsTime junk) events server)
    (client : TcpSocket) :
    server.gate.AcceptsSafely env client ↔ server.sockets.card + 1 < iMaxConnections := by
  have keeps : ∀ {server ev next}, ServerStep env server ev next →
      server.Counted ∧ server.gate.size = iMaxConnections → next.Counted ∧ next.gate.size = iMaxConnections := by
    rintro server ev next stepped ⟨counted, size⟩
    exact ⟨counted.step stepped, (step_counters counted.idle stepped.1).1.trans size⟩
  obtain ⟨counted, size⟩ := run.invariant keeps ⟨server_init_counted env _ curMsTime junk, rfl⟩
  have alive : (server.gate.countAlive 1).iAlivedConnections = server.sockets.card + 1 :=
    congrArg (· + 1) counted.alive
  rw [acceptsSafely_iff_getNextIdx]
  unfold GateServerHandler.getNextIdx
  rw [alive, show (server.gate.countAlive 1).size = iMaxConnections from size]
  constructor
  · intro found
    by_contra full
    exact found (if_pos (by omega))
  · intro below
    obtain ⟨i, positive, bounded, invalid⟩ := counted.exists_free (size ▸ below)
    rw [if_neg (by omega), Ne, List.find?_eq_none]
    intro none
    have member : i ∈ List.range' 1 (iMaxConnections - 1) := List.mem_range'_1.mpr ⟨positive, by omega⟩
    exact none i member (decide_eq_true invalid)

def oneOpen (iMaxConnections : Nat) (accepts : (step soleArea (.init soleArea iMaxConnections 0 fun _ => 0)
    (.newConnection { fd := 5 })).isSome) : Server where
  gate := (step soleArea (.init soleArea iMaxConnections 0 fun _ => 0) (.newConnection { fd := 5 })).get accepts
  sockets := {5}

theorem oneOpen_run (accepts : (step soleArea (.init soleArea iMaxConnections 0 fun _ => 0)
      (.newConnection { fd := 5 })).isSome) (some : 0 < iMaxConnections) :
    Steps (ServerStep soleArea) (Server.init soleArea iMaxConnections 0 fun _ => 0)
      [.newConnection { fd := 5 }] (oneOpen iMaxConnections accepts) :=
  .single ⟨(Option.some_get _).symm, by simp [Server.init], some, rfl⟩

theorem accepts_safely_third : (oneOpen 3 (by decide)).gate.AcceptsSafely soleArea { fd := 6 } :=
  (accepts_safely_iff (oneOpen_run (by decide) (by decide)) { fd := 6 }).mpr (by decide)

/-- Two clients are configured, one socket is open, and the server accepts the second. -/
theorem last_accept_outside_table :
    Steps (ServerStep soleArea) (Server.init soleArea 2 0 fun _ => 0) [.newConnection { fd := 5 }]
        (oneOpen 2 (by decide)) ∧
      6 ∉ (oneOpen 2 (by decide)).sockets ∧ (oneOpen 2 (by decide)).sockets.card < 2 ∧
      ((oneOpen 2 (by decide)).gate.countAlive 1).getNextIdx = none ∧
      ¬ (oneOpen 2 (by decide)).gate.AcceptsSafely soleArea { fd := 6 } := by
  have none : ((oneOpen 2 (by decide)).gate.countAlive 1).getNextIdx = none := by decide
  refine ⟨oneOpen_run (by decide) (by decide), by decide, by decide, none, ?_⟩
  exact fun safe => (acceptsSafely_iff_getNextIdx soleArea _ { fd := 6 }).mp safe none

end Playground.Gate
