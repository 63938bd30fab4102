import Playground.Gate.Invariants

/-! What holds of every run of the gate. -/

namespace Playground.Gate

open Framing Component Transition

/-- A call of the handler whose behaviour is defined. -/
def EventStep (env : Env) (gate : GateServerHandler) (ev : Event) (next : GateServerHandler) : Prop :=
  step env gate ev = some next

def smallGate : GateServerHandler := GateServerHandler.init soleArea 4 0 fun _ => 0

def login : List Event := [.newConnection { fd := 5 }, .clientDataRecv 5 [0, 2, 7, 1]]

/-- The invariants of the table and its log that need no assumption on sockets. -/
structure Sound (env : Env) (table : Table) : Prop where
  mapped : table.Mapped
  occupied : ∀ i, Occupied env table i
  announced : Justified (DataRule env) table.log
  numbered : ∀ i dst msg data, Effect.report i dst msg data ∈ table.log → msg.event = .connected → msg.idx ≠ 0

theorem Sound.step (stepped : ActStep env table act next) (sound : Sound env table) : Sound env next := by
  refine ⟨sound.mapped.step stepped, Occupied.step stepped sound.mapped sound.occupied,
    dataRule_step stepped sound.mapped sound.occupied sound.announced, ?_⟩
  intro i dst msg data member event
  obtain ⟨enabled, rfl⟩ := stepped
  rcases report_mem_apply member with old | ⟨_, idx, uid, area, written, rfl⟩ | ⟨isData, _⟩ | ⟨isClose, _⟩
  · exact sound.numbered i dst msg data old event
  · have positive := (sound.mapped.routed enabled.2.1).2.1
    rw [idx, sound.mapped.idxOf enabled.2.1]
    omega
  · rw [isData] at event
    cases event
  · rw [isClose] at event
    cases event

section Runs

variable (env : Env) (iMaxConnections : Nat) (curMsTime : UInt64) (junk : Nat → UInt32)

theorem sound_init : Sound env (GateServerHandler.init env iMaxConnections curMsTime junk).table where
  mapped fd i entry := by cases entry
  occupied i := Occupied.dead rfl
  announced := trivial
  numbered i dst msg data member := by cases member

theorem idle_init : (GateServerHandler.init env iMaxConnections curMsTime junk).Idle := fun _ => rfl

variable {env} {iMaxConnections} {curMsTime} {junk}

theorem run_keeps {Inv : Table → Prop}
    (keeps : ∀ {table act next}, ActStep env table act next → Inv table → Inv next)
    (run : Steps (EventStep env) gate events final) (idle : gate.Idle) (initial : Inv gate.table) :
    final.Idle ∧ Inv final.table := by
  have stepKeeps : ∀ {gate ev next}, EventStep env gate ev next →
      gate.Idle ∧ Inv gate.table → next.Idle ∧ Inv next.table := by
    rintro gate ev next stepped ⟨idle, holds⟩
    obtain ⟨acts, acted⟩ := step_acts idle stepped
    exact ⟨acted.idle, acted.steps.invariant keeps holds⟩
  exact run.invariant stepKeeps ⟨idle, initial⟩

theorem run_sound
    (run : Steps (EventStep env) (GateServerHandler.init env iMaxConnections curMsTime junk) events final) :
    final.Idle ∧ Sound env final.table :=
  run_keeps Sound.step run (idle_init env _ _ _) (sound_init env _ _ _)

/-- No client data before authorization: every data event stands behind the one connect
event of the same occupancy, no close event is between them, and both name the same channel,
index, account and area; the area is served by that channel. -/
theorem data_follows_connected
    (run : Steps (EventStep env) (GateServerHandler.init env iMaxConnections curMsTime junk) events final)
    (split : final.out = later ++ Effect.report i dst msg data :: earlier) (isData : msg.event = .data) :
    ∃ conn, (occupancy i earlier).filter (fun report => report.2.event = .connected) = [(dst, conn)] ∧
      (∀ report ∈ occupancy i earlier, report.2.event ≠ .close) ∧
      conn.idx = msg.idx ∧ conn.uid = msg.uid ∧ conn.area = msg.area ∧
      env.mpAreaID2ChannelID msg.area = some dst := by
  obtain ⟨_, sound⟩ := run_sound run
  have justified : Justified (DataRule env) (later ++ Effect.report i dst msg data :: earlier) :=
    split ▸ sound.announced
  exact justified.split isData

def forwardedGate : GateServerHandler :=
  (runAll (step soleArea) smallGate (login ++ [.clientDataRecv 5 [0, 1, 9]])).get (by decide)

theorem data_follows_connected_after_login :
    ∃ conn : GateSSMsg, (occupancy 1 forwardedGate.out.tail).filter
      (fun report => report.2.event = .connected) = [(9, conn)] ∧ conn.idx = 1 ∧ conn.uid = 7 := by
  have split : forwardedGate.out = [] ++ Effect.report 1 9 { event := .data, idx := 1, uid := 7, area := 1 }
      (some [9]) :: forwardedGate.out.tail := by decide
  obtain ⟨conn, once, _, idx, uid, _⟩ :=
    data_follows_connected (steps_of_runAll (Option.some_get _).symm) split rfl
  exact ⟨conn, once, idx, uid⟩

/-- At most one close event in each occupancy of slot `i`, behind its connect event and with the same
data. -/
def CloseReporting (i : Nat) (log : List Effect) : Prop :=
  ∀ later dst msg data earlier, log = later ++ Effect.report i dst msg data :: earlier → msg.event = .close →
    (∀ report ∈ occupancy i earlier, report.2.event ≠ .close) ∧
    ∃ conn, (dst, conn) ∈ occupancy i earlier ∧ conn.event = .connected ∧
      conn.idx = msg.idx ∧ conn.uid = msg.uid ∧ conn.area = msg.area

/-- No call of the run removes a connection of the slot. -/
def NeverRemoved (env : Env) (i : Nat) (gate : GateServerHandler) (events : List Event)
    (final : GateServerHandler) : Prop :=
  ∀ before ev after middle next, events = before ++ ev :: after →
    Steps (EventStep env) gate before middle → EventStep env middle ev next →
    Steps (EventStep env) next after final → ¬ Removes env middle i ev

private theorem close_mem_of_neverRemoved (run : Steps (EventStep env) gate events final) (idle : gate.Idle)
    (never : NeverRemoved env i gate events final)
    (member : Effect.report i dst msg data ∈ final.out) (event : msg.event = .close) :
    Effect.report i dst msg data ∈ gate.out := by
  induction run with
  | nil => exact member
  | @cons gate ev next events final first rest ih =>
    obtain ⟨acts, acted⟩ := step_acts idle first
    have kept : ¬ Removal i acts := by
      rw [acted.removal]
      exact never [] ev events gate next rfl .nil first rest
    have later : NeverRemoved env i next events final := by
      intro before ev' after middle next' same left stepped right
      exact never (ev :: before) ev' after middle next' (congrArg _ same) (.cons first left) stepped right
    exact close_mem_of_kept acted.steps kept (ih acted.idle later member) event

/-- The close event carries the index 0 that `ReportEvent` finds in the map after the
erase, so close reporting works for a slot exactly as long as nothing in it is removed. -/
theorem closeReporting_iff_neverRemoved
    (run : Steps (EventStep env) (GateServerHandler.init env iMaxConnections curMsTime junk) events final)
    (i : Nat) :
    CloseReporting i final.out ↔
      NeverRemoved env i (GateServerHandler.init env iMaxConnections curMsTime junk) events final := by
  constructor
  · intro reporting before ev after middle next same left stepped right removes
    obtain ⟨idle, sound⟩ := run_sound left
    obtain ⟨acts, acted⟩ := step_acts idle stepped
    obtain ⟨dst, msg, there, event, idx⟩ := removal_reports acted.steps ((acted.removal i).mpr removes)
    have member : Effect.report i dst msg none ∈ final.table.log :=
      (run_keeps mem_log_step right acted.idle there).2
    obtain ⟨later, earlier, split⟩ := List.append_of_mem member
    obtain ⟨_, conn, reported, connected, number, _⟩ := reporting later dst msg none earlier split event
    obtain ⟨data, found⟩ := mem_of_mem_occupancy reported
    have old : Effect.report i dst conn data ∈ final.table.log := by
      rw [split]
      exact List.mem_append_right _ (List.mem_cons_of_mem _ found)
    exact (run_sound run).2.numbered i dst conn data old connected (number.trans idx)
  · intro never later dst msg data earlier split event
    have member : Effect.report i dst msg data ∈ final.out := by
      rw [split]
      exact List.mem_append_right _ List.mem_cons_self
    cases close_mem_of_neverRemoved run (idle_init env _ _ _) never member event

def closedGate : GateServerHandler :=
  (runAll (step soleArea) smallGate (login ++ [.connectionClosed 5])).get (by decide)

theorem closedGate_run : Steps (EventStep soleArea) smallGate (login ++ [.connectionClosed 5]) closedGate :=
  steps_of_runAll (Option.some_get _).symm

theorem not_closeReporting_closedGate : ¬ CloseReporting 1 closedGate.out := by
  intro reporting
  obtain ⟨_, conn, member, _, idx, _⟩ := reporting [.close 1] 9
    { event := .close, idx := 0, uid := 7, area := 1, reason := some 1 } none (closedGate.out.drop 2)
    (by decide) rfl
  have one : ∀ report ∈ occupancy 1 (closedGate.out.drop 2), report.2.idx = 1 := by decide
  exact absurd (idx.symm.trans (one _ member)) (by decide)

theorem closeReporting_iff_neverRemoved_closedGate :
    ¬ NeverRemoved soleArea 1 smallGate (login ++ [.connectionClosed 5]) closedGate :=
  fun never => not_closeReporting_closedGate ((closeReporting_iff_neverRemoved closedGate_run 1).mpr never)

/-- A login and a close of the client: the agent is told index 1 at the connect and
index 0 at the close. -/
theorem close_event_loses_index :
    ∃ final, Steps (EventStep soleArea) smallGate (login ++ [.connectionClosed 5]) final ∧
      ¬ CloseReporting 1 final.out :=
  ⟨closedGate, closedGate_run, not_closeReporting_closedGate⟩

/-- An accepted socket is not the socket of a connection that is still open. -/
def FreshSocket (gate : GateServerHandler) : Event → Prop
  | .newConnection client => ∀ j, (gate.vecConnections j).bState ≠ .invalid →
      (gate.vecConnections j).cliSocket.fd ≠ client.fd
  | _ => True

def FreshStep (env : Env) (gate : GateServerHandler) (ev : Event) (next : GateServerHandler) : Prop :=
  EventStep env gate ev next ∧ FreshSocket gate ev

theorem StepActs.owned (acted : StepActs env gate ev acts next) (fresh : FreshSocket gate ev)
    (mapped : gate.table.Mapped) (owned : gate.table.Owned) : next.table.Mapped ∧ next.table.Owned := by
  by_cases takes : ∃ act ∈ acts, ∃ i client, act.taken = some (i, client)
  · obtain ⟨act, member, i, client, taken⟩ := takes
    obtain ⟨rfl, rfl, _⟩ := acted.taken act member i client taken
    cases acted.steps with
    | cons first rest =>
      cases rest
      refine ⟨mapped.step first, owned.step first mapped ?_⟩
      intro i' client' taken' j live
      obtain ⟨_, rfl⟩ := Prod.mk.inj (Option.some.inj (taken.symm.trans taken'))
      exact fresh j live
  · have none : ∀ act ∈ acts, ∀ taken, act.taken ≠ some taken :=
      fun act member taken same => takes ⟨act, member, taken.1, taken.2, same⟩
    have keeps : ∀ {table act next}, ActStep env table act next ∧ (∀ taken, act.taken ≠ some taken) →
        table.Mapped ∧ table.Owned → next.Mapped ∧ next.Owned := by
      rintro table act next ⟨stepped, untaken⟩ ⟨mapped, owned⟩
      exact ⟨mapped.step stepped, owned.step stepped mapped fun i client taken => absurd taken (untaken _)⟩
    exact (acted.steps.restrict none).invariant keeps ⟨mapped, owned⟩

private theorem run_owned
    (run : Steps (FreshStep env) (GateServerHandler.init env iMaxConnections curMsTime junk) events final) :
    final.Idle ∧ final.table.Mapped ∧ final.table.Owned := by
  have keeps : ∀ {gate ev next}, FreshStep env gate ev next →
      gate.Idle ∧ gate.table.Mapped ∧ gate.table.Owned → next.Idle ∧ next.table.Mapped ∧ next.table.Owned := by
    rintro gate ev next ⟨stepped, fresh⟩ ⟨idle, mapped, owned⟩
    obtain ⟨acts, acted⟩ := step_acts idle stepped
    exact ⟨acted.idle, acted.owned fresh mapped owned⟩
  refine run.invariant keeps ⟨idle_init env _ _ _, (sound_init env _ _ _).mapped, ?_⟩
  intro i live
  exact absurd rfl live

private theorem unmapped_until_accepted (run : Steps (FreshStep env) gate events final) (idle : gate.Idle)
    (unmapped : gate.table.Unmapped fd) (others : ∀ client, .newConnection client ∈ events → client.fd ≠ fd) :
    final.table.Unmapped fd := by
  have keeps : ∀ {gate ev next},
      (FreshStep env gate ev next ∧ ∀ client, ev = .newConnection client → client.fd ≠ fd) →
      gate.Idle ∧ gate.table.Unmapped fd → next.Idle ∧ next.table.Unmapped fd := by
    rintro gate ev next ⟨⟨stepped, _⟩, other⟩ ⟨idle, unmapped⟩
    obtain ⟨acts, acted⟩ := step_acts idle stepped
    have untaken : ∀ act ∈ acts, ∀ i client, act.taken = some (i, client) → client.fd ≠ fd :=
      fun act member i client taken => other client (acted.taken act member i client taken).1
    have actKeeps : ∀ {table act next}, ActStep env table act next ∧
        (∀ i client, act.taken = some (i, client) → client.fd ≠ fd) → table.Unmapped fd → next.Unmapped fd :=
      fun stepped unmapped => unmapped.step stepped.1 stepped.2
    exact ⟨acted.idle, (acted.steps.restrict untaken).invariant actKeeps unmapped⟩
  have every : ∀ ev ∈ events, ∀ client, ev = .newConnection client → client.fd ≠ fd := by
    rintro ev member client rfl
    exact others client member
  exact ((run.restrict every).invariant keeps ⟨idle, unmapped⟩).2

/-- The table and the socket map agree in every reachable state, and a removed socket
resolves to nothing until it is accepted again. -/
theorem table_consistent
    (run : Steps (FreshStep env) (GateServerHandler.init env iMaxConnections curMsTime junk) events final) :
    (∀ i, (final.vecConnections i).bState ≠ .invalid →
      1 ≤ i ∧ i < final.size ∧ (final.vecConnections i).iIdx = i ∧
      final.mpConnections (final.vecConnections i).cliSocket.fd = some i) ∧
    (∀ i j, (final.vecConnections i).bState ≠ .invalid → (final.vecConnections j).bState ≠ .invalid →
      (final.vecConnections i).cliSocket.fd = (final.vecConnections j).cliSocket.fd → i = j) ∧
    (∀ i, (final.vecConnections i).bState ≠ .invalid →
      final.getConnectionByFD (final.vecConnections i).cliSocket.fd = some i) ∧
    ∀ i ev next after last, Removes env final i ev → FreshStep env final ev next →
      Steps (FreshStep env) next after last →
      (∀ client, .newConnection client ∈ after → client.fd ≠ (final.vecConnections i).cliSocket.fd) →
      last.getConnectionByFD (final.vecConnections i).cliSocket.fd = none := by
  obtain ⟨idle, mapped, owned⟩ := run_owned run
  refine ⟨owned, fun i j left right same => owned.distinct left right same, ?_, ?_⟩
  · intro i live
    obtain ⟨positive, bounded, _, entry⟩ := owned i live
    exact Table.byFD_of_live entry positive bounded live
  · intro i ev next after last removes stepped rest others
    obtain ⟨acts, acted⟩ := step_acts idle stepped.1
    have removed := (acted.removal i).mpr removes
    have untaken : ∀ act ∈ acts, act.taken = none := by
      intro act member
      cases taken : act.taken with
      | none => rfl
      | some pair =>
        obtain ⟨rfl, _⟩ := acted.taken act member pair.1 pair.2 taken
        exact absurd removes id
    have unmapped := Table.unmapped_of_removal acted.steps untaken removed rfl
    exact (unmapped_until_accepted rest acted.idle unmapped others).byFD

def acceptedGate : GateServerHandler :=
  (step soleArea smallGate (.newConnection { fd := 5 })).get (by decide)

def reclosedGate : GateServerHandler :=
  (step soleArea acceptedGate (.connectionClosed 5)).get (by decide)

theorem table_consistent_after_accept :
    acceptedGate.getConnectionByFD 5 = some 1 ∧ reclosedGate.getConnectionByFD 5 = none := by
  have run : Steps (FreshStep soleArea) smallGate [.newConnection { fd := 5 }] acceptedGate :=
    .single ⟨(Option.some_get _).symm, fun j live => absurd rfl live⟩
  obtain ⟨_, _, resolves, removed⟩ := table_consistent run
  have resolved : acceptedGate.getConnectionByFD 5 = some 1 := resolves 1 (by decide)
  refine ⟨resolved, ?_⟩
  exact removed 1 (.connectionClosed 5) reclosedGate [] reclosedGate resolved
    ⟨(Option.some_get _).symm, trivial⟩ .nil (by simp)

end Runs

end Playground.Gate
