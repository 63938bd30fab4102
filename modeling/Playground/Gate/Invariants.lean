import Playground.Gate.Step

/-! The invariants of the connection table, each preserved by every act. -/

namespace Playground.Gate

open Framing Component Transition

namespace Table

/-- Every entry of the socket map but the index 0 leads to the slot of that socket. -/
def Mapped (table : Table) : Prop :=
  ∀ fd i, table.map fd = some i → i ≠ 0 → table.Live i ∧ (table.slots i).socket.fd = fd

variable {table next : Table} {env : Env} {act : Act} {i : Nat}

section

variable (mapped : table.Mapped)

include mapped

theorem Mapped.routed (reached : table.Reached i) :
    table.map (table.slots i).socket.fd = some i ∧ 1 ≤ i ∧ table.Live i := by
  obtain ⟨fd, found⟩ := reached
  obtain ⟨entry, positive, _, live⟩ := byFD_some found
  obtain ⟨_, rfl⟩ := mapped fd i entry (by omega)
  exact ⟨entry, positive, live⟩

theorem Mapped.idxOf (reached : table.Reached i) : table.idxOf i = i := by
  obtain ⟨entry, _⟩ := mapped.routed reached
  rw [Table.idxOf, entry, Option.getD_some]

theorem Mapped.report (env : Env) (i : Nat) (event : EventType) (param : Int)
    (data : Option Bytes) : (table.report env i event param data).Mapped := by
  intro fd j entry nonzero
  rw [report_map] at entry
  rw [Live, report_slots]
  by_cases same : fd = (table.slots i).socket.fd
  · subst same
    rw [Function.update_self, Option.some.injEq, Table.idxOf] at entry
    cases before : table.map (table.slots i).socket.fd with
    | none =>
      rw [before] at entry
      exact absurd entry.symm nonzero
    | some k =>
      rw [before, Option.getD_some] at entry
      exact mapped _ j (entry ▸ before) nonzero
  · rw [Function.update_of_ne same] at entry
    exact mapped fd j entry nonzero

theorem Mapped.setSlot (slot : Slot) (alive : slot.state ≠ .invalid)
    (socket : slot.socket = (table.slots i).socket) : (table.setSlot i slot).Mapped := by
  intro fd j entry nonzero
  obtain ⟨live, owner⟩ := mapped fd j entry nonzero
  by_cases same : j = i
  · subst same
    simp only [Live, setSlot_slots, Function.update_self]
    exact ⟨alive, socket ▸ owner⟩
  · simp only [Live, setSlot_slots, Function.update_of_ne same]
    exact ⟨live, owner⟩

theorem Mapped.replace (free : ¬ table.Live i) (slot : Slot) : (table.setSlot i slot).Mapped := by
  intro fd j entry nonzero
  obtain ⟨live, owner⟩ := mapped fd j entry nonzero
  have other : j ≠ i := by
    rintro rfl
    exact free live
  simp only [Live, setSlot_slots, Function.update_of_ne other]
  exact ⟨live, owner⟩

theorem Mapped.remove (env : Env) (i : Nat) (reason : Int) :
    (table.remove env i reason).Mapped := by
  intro fd j entry nonzero
  rw [remove_map] at entry
  by_cases same : fd = (table.slots i).socket.fd
  · rw [same, Function.update_self] at entry
    exact absurd (Option.some.inj entry).symm nonzero
  · rw [Function.update_of_ne same] at entry
    obtain ⟨live, owner⟩ := mapped fd j entry nonzero
    have other : j ≠ i := by
      rintro rfl
      exact same owner.symm
    simp only [Live, remove_slots, Function.update_of_ne other]
    exact ⟨live, owner⟩

end

theorem Mapped.step (stepped : ActStep env table act next) (mapped : table.Mapped) : next.Mapped := by
  obtain ⟨enabled, rfl⟩ := stepped
  cases act with
  | message i payload => exact mapped
  | write i written => exact mapped
  | closeClient fd => exact mapped
  | accept i client written =>
    obtain ⟨free, positive, _⟩ := enabled
    intro fd j entry nonzero
    have replaced := mapped.replace free
      { table.slots i with state := .connected, socket := client, iIdx := i, uid := 0, dst := 0 }
    by_cases same : fd = client.fd
    · have own : j = i := by simpa [apply, same, eq_comm] using entry
      subst own
      simp [Live, apply, same]
    · have old : table.map fd = some j := by simpa [apply, same] using entry
      exact replaced fd j old nonzero
  | refuse i client written => exact mapped.replace enabled.1 _
  | authorize i uid area dst written =>
    have identified := mapped.setSlot (i := i)
      { table.slots i with state := .authorized, uid, area, dst } (by simp) rfl
    have notified : ((table.setSlot i
      { table.slots i with state := .authorized, uid, area, dst }).writes i written).Mapped := identified
    exact notified.report env i .connected 0 none
  | await i uid area dst => exact mapped.setSlot _ (by simp) rfl
  | forward i data => exact mapped.report env i .data 0 (some data)
  | remove i reason => exact mapped.remove env i reason

/-- Every live slot is numbered and mapped under its own socket. -/
def Owned (table : Table) : Prop :=
  ∀ i, table.Live i → 1 ≤ i ∧ i < table.size ∧ (table.slots i).iIdx = i ∧
    table.map (table.slots i).socket.fd = some i

/-- The socket of an accepted connection is not the socket of a live slot. -/
def FreshTake (table : Table) (act : Act) : Prop :=
  ∀ i client, act.taken = some (i, client) → ∀ j, table.Live j → (table.slots j).socket.fd ≠ client.fd

theorem Owned.distinct (owned : table.Owned) (left : table.Live i) (right : table.Live j)
    (same : (table.slots i).socket.fd = (table.slots j).socket.fd) : i = j := by
  obtain ⟨_, _, _, first⟩ := owned i left
  obtain ⟨_, _, _, second⟩ := owned j right
  rw [same, second] at first
  exact (Option.some.inj first).symm

theorem Owned.frame (owned : table.Owned) (j : Nat) (before : table.Live j) (size : next.size = table.size)
    (idx : (next.slots j).iIdx = (table.slots j).iIdx) (socket : (next.slots j).socket = (table.slots j).socket)
    (map : next.map (table.slots j).socket.fd = table.map (table.slots j).socket.fd) :
    1 ≤ j ∧ j < next.size ∧ (next.slots j).iIdx = j ∧ next.map (next.slots j).socket.fd = some j := by
  rw [size, idx, socket, map]
  exact owned j before

theorem Mapped.report_map_eq (mapped : table.Mapped) (reached : table.Reached i) :
    Function.update table.map (table.slots i).socket.fd (some (table.idxOf i)) = table.map := by
  rw [mapped.idxOf reached, ← (mapped.routed reached).1]
  exact Function.update_eq_self _ _

theorem live_before (connected : (table.slots i).state = .connected)
    (slots : next.slots = Function.update table.slots i slot) (live : next.Live j) : table.Live j := by
  by_cases same : j = i
  · subst same
    simp [Live, connected]
  · simpa [Live, slots, same] using live

theorem Owned.step (stepped : ActStep env table act next) (mapped : table.Mapped) (owned : table.Owned)
    (fresh : table.FreshTake act) : next.Owned := by
  obtain ⟨enabled, rfl⟩ := stepped
  intro j live
  cases act with
  | message i payload => exact owned j live
  | write i written => exact owned j live
  | closeClient fd => exact owned j live
  | accept i client written =>
    by_cases same : j = i
    · subst same
      obtain ⟨_, positive, bounded⟩ := enabled
      simp [apply, positive, bounded]
    · have before : table.Live j := by simpa [Live, apply, same] using live
      have other := fresh i client rfl j before
      exact owned.frame j before rfl (by simp [apply, same]) (by simp [apply, same]) (by simp [apply, other])
  | refuse i client written =>
    have other : j ≠ i := by
      rintro rfl
      simp [Live, apply] at live
    have before : table.Live j := by simpa [Live, apply, other] using live
    exact owned.frame j before rfl (by simp [apply, other]) (by simp [apply, other]) rfl
  | authorize i uid area dst written =>
    obtain ⟨connected, reached, _⟩ := enabled
    have before : table.Live j := live_before connected (apply_authorize_slots ..) live
    refine owned.frame j before (by simp [apply]) ?_ ?_ ?_
    · by_cases same : j = i <;> simp [apply, same]
    · by_cases same : j = i <;> simp [apply, same]
    · rw [apply_authorize_map, mapped.report_map_eq reached]
  | await i uid area dst =>
    have before : table.Live j := live_before enabled.1 rfl live
    refine owned.frame j before rfl ?_ ?_ rfl
    · by_cases same : j = i <;> simp [apply, same]
    · by_cases same : j = i <;> simp [apply, same]
  | forward i data =>
    have before : table.Live j := by simpa [Live, apply] using live
    refine owned.frame j before (by simp [apply]) (by simp [apply]) (by simp [apply]) ?_
    rw [apply, report_map, mapped.report_map_eq enabled.2]
  | remove i reason =>
    have other : j ≠ i := by
      rintro rfl
      simp [Live, apply] at live
    have before : table.Live j := by simpa [Live, apply, other] using live
    have sockets : (table.slots j).socket.fd ≠ (table.slots i).socket.fd := by
      intro same
      exact other (owned.distinct before (byIdx_some enabled).2.2.2 same)
    exact owned.frame j before (by simp [apply]) (by simp [apply, other]) (by simp [apply, other])
      (by simp [apply, sockets])

def Unmapped (table : Table) (fd : Int) : Prop := table.map fd = none ∨ table.map fd = some 0

theorem Unmapped.byFD (unmapped : table.Unmapped fd) : table.byFD fd = none := by
  unfold Table.byFD
  rcases unmapped with absent | zero
  · rw [absent, Option.bind_none]
  · rw [zero]
    exact byIdx_zero table

theorem Unmapped.report (unmapped : table.Unmapped fd) (i : Nat) :
    Function.update table.map (table.slots i).socket.fd (some (table.idxOf i)) fd = none ∨
      Function.update table.map (table.slots i).socket.fd (some (table.idxOf i)) fd = some 0 := by
  by_cases same : fd = (table.slots i).socket.fd
  · subst same
    right
    rw [Function.update_self, Table.idxOf]
    rcases unmapped with absent | zero
    · rw [absent, Option.getD_none]
    · rw [zero, Option.getD_some]
  · rw [Function.update_of_ne same]
    exact unmapped

theorem Unmapped.step (stepped : ActStep env table act next)
    (others : ∀ i client, act.taken = some (i, client) → client.fd ≠ fd) (unmapped : table.Unmapped fd) :
    next.Unmapped fd := by
  obtain ⟨_, rfl⟩ := stepped
  cases act with
  | message i payload => exact unmapped
  | write i written => exact unmapped
  | closeClient fd => exact unmapped
  | accept i client written =>
    have other := Ne.symm (others i client rfl)
    simpa [Unmapped, apply, other] using unmapped
  | refuse i client written => exact unmapped
  | authorize i uid area dst written =>
    rw [Unmapped, apply_authorize_map]
    exact unmapped.report i
  | await i uid area dst => exact unmapped
  | forward i data =>
    rw [Unmapped, apply, report_map]
    exact unmapped.report i
  | remove i reason =>
    rw [Unmapped, apply, remove_map]
    by_cases same : fd = (table.slots i).socket.fd
    · rw [same, Function.update_self]
      exact .inr rfl
    · rw [Function.update_of_ne same]
      exact unmapped

theorem socket_step (stepped : ActStep env table act next) (keeps : act.taken = none) (j : Nat) :
    (next.slots j).socket = (table.slots j).socket := by
  obtain ⟨_, rfl⟩ := stepped
  cases act with
  | message i payload => rfl
  | write i written => rfl
  | closeClient fd => rfl
  | accept i client written => cases keeps
  | refuse i client written => cases keeps
  | authorize i uid area dst written => by_cases same : j = i <;> simp [apply, same]
  | await i uid area dst => by_cases same : j = i <;> simp [apply, same]
  | forward i data => simp [apply]
  | remove i reason => by_cases same : j = i <;> simp [apply, same]

theorem unmapped_of_removal (steps : Steps (ActStep env) table acts next)
    (keeps : ∀ act ∈ acts, act.taken = none) (removed : Removal i acts)
    (socket : (table.slots i).socket.fd = fd) : next.Unmapped fd := by
  obtain ⟨reason, member⟩ := removed
  induction steps with
  | nil => cases member
  | @cons table act middle acts next first rest ih =>
    have later : ∀ act ∈ acts, act.taken = none := fun act old => keeps act (List.mem_cons_of_mem _ old)
    rcases List.mem_cons.mp member with rfl | behind
    · have here : middle.Unmapped fd := by
        rw [← first.2, Unmapped, apply, remove_map, socket, Function.update_self]
        exact .inr rfl
      have keepsUnmapped : ∀ {table act next}, ActStep env table act next ∧ act.taken = none →
          table.Unmapped fd → next.Unmapped fd := by
        rintro table act next ⟨stepped, untaken⟩ unmapped
        refine unmapped.step stepped fun i client taken => ?_
        exact absurd (untaken.symm.trans taken) (by simp)
      exact (rest.restrict later).invariant keepsUnmapped here
    · refine ih later ?_ behind
      rw [socket_step first (keeps act List.mem_cons_self) i, socket]

end Table

/-- The events reported for a slot since it was last taken, latest first. -/
def occupancy (i : Nat) : List Effect → List (Int × GateSSMsg)
  | [] => []
  | .accepted slot _ :: log => if slot = i then [] else occupancy i log
  | .report slot dst msg _ :: log => if slot = i then (dst, msg) :: occupancy i log else occupancy i log
  | .message _ _ :: log => occupancy i log
  | .write _ _ :: log => occupancy i log
  | .close _ :: log => occupancy i log
  | .closeClient _ :: log => occupancy i log

@[simp] theorem occupancy_writes (i j : Nat) (written : List Bytes) (log : List Effect) :
    occupancy i (written.map (Effect.write j) ++ log) = occupancy i log := by
  induction written with
  | nil => rfl
  | cons bytes written ih => simpa [occupancy] using ih

theorem occupancy_of_other (env : Env) (table : Table) (act : Act) (other : act.slot ≠ some i) :
    occupancy i (table.apply env act).log = occupancy i table.log := by
  have apart {j : Nat} (own : act.slot = some j) : j ≠ i := fun same => other (same ▸ own)
  cases act with
  | message | write | closeClient | await => simp [Table.apply, occupancy]
  | accept j | refuse j | authorize j | forward j | remove j =>
    simp [Table.apply, occupancy, apart (j := j) rfl]

theorem mem_of_mem_occupancy (member : (dst, msg) ∈ occupancy i log) :
    ∃ data, Effect.report i dst msg data ∈ log := by
  induction log with
  | nil => simp [occupancy] at member
  | cons effect log ih =>
    have later : (dst, msg) ∈ occupancy i log → ∃ data, Effect.report i dst msg data ∈ effect :: log := by
      intro old
      obtain ⟨data, found⟩ := ih old
      exact ⟨data, List.mem_cons_of_mem _ found⟩
    cases effect with
    | accepted slot fd =>
      simp only [occupancy] at member
      split at member
      · cases member
      · exact later member
    | report slot dst' msg' data =>
      simp only [occupancy] at member
      split at member
      · next same =>
        subst same
        rcases List.mem_cons.mp member with now | old
        · obtain ⟨rfl, rfl⟩ := Prod.mk.inj now
          exact ⟨data, List.mem_cons_self⟩
        · exact later old
      · exact later member
    | message _ _ => exact later member
    | write _ _ => exact later member
    | close _ => exact later member
    | closeClient _ => exact later member

/-- What the log says of the present occupancy of a slot, by its state. -/
structure Occupied (env : Env) (table : Table) (i : Nat) : Prop where
  fresh : (table.slots i).state = .connected ∨ (table.slots i).state = .authing →
    occupancy i table.log = []
  trusted : (table.slots i).state = .authorized → ∃ datas conn,
    occupancy i table.log = datas ++ [((table.slots i).dst, conn)] ∧
    (∀ report ∈ datas, report.2.event = .data) ∧ conn.event = .connected ∧ conn.idx = i ∧
    conn.uid = (table.slots i).uid ∧ conn.area = (table.slots i).area ∧
    env.mpAreaID2ChannelID (table.slots i).area = some (table.slots i).dst

namespace Occupied

variable {table next : Table} {env : Env} {act : Act} {i j : Nat}

theorem frame (occupied : Occupied env table j) (slots : next.slots j = table.slots j)
    (log : occupancy j next.log = occupancy j table.log) : Occupied env next j := by
  constructor
  · rw [slots, log]
    exact occupied.fresh
  · rw [slots, log]
    exact occupied.trusted

theorem dead (invalid : (table.slots i).state = .invalid) : Occupied env table i := by
  constructor
  · intro state
    rw [invalid] at state
    rcases state with absurd | absurd <;> cases absurd
  · intro state
    rw [invalid] at state
    cases state

private theorem authorize (occupied : Occupied env table i) (mapped : table.Mapped)
    (enabled : (Act.authorize i uid area dst written).Enabled env table) :
    Occupied env (table.apply env (.authorize i uid area dst written)) i := by
  obtain ⟨connected, reached, known⟩ := enabled
  have before := occupied.fresh (.inl connected)
  constructor
  · simp [Table.apply]
  · intro _
    refine ⟨[], GateServerHandler.eventMessage .connected i uid area (table.slots i).socket 0, ?_, ?_⟩
    · rw [Table.apply_authorize_log, mapped.idxOf reached]
      simp [occupancy, before, Table.apply]
    · simp [GateServerHandler.eventMessage, Table.apply, known]

private theorem forward (occupied : Occupied env table i) (authorized : (table.slots i).state = .authorized) :
    Occupied env (table.apply env (.forward i data)) i := by
  obtain ⟨datas, conn, reports, only, rest⟩ := occupied.trusted authorized
  constructor
  · simp [Table.apply, authorized]
  · intro _
    refine ⟨((table.slots i).dst, GateServerHandler.eventMessage .data (table.idxOf i)
      (table.slots i).uid (table.slots i).area (table.slots i).socket 0) :: datas, conn, ?_, ?_, ?_⟩
    · rw [Table.apply_forward_log, occupancy, if_pos rfl, reports]
      simp [Table.apply]
    · intro report member
      rcases List.mem_cons.mp member with rfl | old
      · rfl
      · exact only report old
    · simpa [Table.apply] using rest

theorem step (stepped : ActStep env table act next) (mapped : table.Mapped)
    (occupied : ∀ j, Occupied env table j) : ∀ j, Occupied env next j := by
  obtain ⟨enabled, rfl⟩ := stepped
  intro j
  by_cases own : act.slot = some j
  · cases act with
    | closeClient fd => cases own
    | message i payload => exact (occupied j).frame rfl rfl
    | write i written => exact (occupied j).frame rfl (occupancy_writes j i written _)
    | accept i client written =>
      obtain rfl := Option.some.inj own
      constructor
      · simp [Table.apply, occupancy]
      · simp [Table.apply]
    | refuse i client written =>
      obtain rfl := Option.some.inj own
      exact dead (by simp [Table.apply])
    | authorize i uid area dst written =>
      obtain rfl := Option.some.inj own
      exact (occupied i).authorize mapped enabled
    | await i uid area dst =>
      obtain rfl := Option.some.inj own
      constructor
      · simp [Table.apply, (occupied i).fresh (.inl enabled.1)]
      · simp [Table.apply]
    | forward i data =>
      obtain rfl := Option.some.inj own
      exact (occupied i).forward enabled.1
    | remove i reason =>
      obtain rfl := Option.some.inj own
      exact dead (by simp [Table.apply])
  · exact (occupied j).frame (Table.apply_slots_other env table j act own) (occupancy_of_other env table act own)

end Occupied

/-- Data of a slot follows its connect event, which named the same channel, index, account and area. -/
def Announced (env : Env) (earlier : List Effect) (i : Nat) (dst : Int) (msg : GateSSMsg) : Prop :=
  ∃ conn, (occupancy i earlier).filter (fun report => report.2.event = .connected) = [(dst, conn)] ∧
    (∀ report ∈ occupancy i earlier, report.2.event ≠ .close) ∧
    conn.idx = msg.idx ∧ conn.uid = msg.uid ∧ conn.area = msg.area ∧
    env.mpAreaID2ChannelID msg.area = some dst

/-- Data is reported only behind the connect of its occupancy. -/
def DataRule (env : Env) (earlier : List Effect) : Effect → Prop
  | .report i dst msg _ => msg.event = .data → Announced env earlier i dst msg
  | _ => True

section Log

variable {table next : Table} {env : Env} {act : Act} {i : Nat}

theorem Occupied.announced (occupied : Occupied env table i) (mapped : table.Mapped)
    (authorized : (table.slots i).state = .authorized) (reached : table.Reached i) :
    Announced env table.log i (table.slots i).dst (GateServerHandler.eventMessage .data (table.idxOf i)
      (table.slots i).uid (table.slots i).area (table.slots i).socket 0) := by
  obtain ⟨datas, conn, reports, only, event, idx, uid, area, known⟩ := occupied.trusted authorized
  have noConnect : datas.filter (fun report => report.2.event = .connected) = [] := by
    apply List.filter_eq_nil_iff.mpr
    intro report member
    simp [only report member]
  refine ⟨conn, ?_, ?_, ?_, uid, area, known⟩
  · rw [reports, List.filter_append, noConnect]
    simp [event]
  · intro report member
    rw [reports] at member
    rcases List.mem_append.mp member with data | last
    · simp [only report data]
    · rw [List.mem_singleton.mp last]
      simp [event]
  · rw [idx]
    exact (mapped.idxOf reached).symm

private theorem dataRule_writes (justified : Justified (DataRule env) log) (i : Nat) (written : List Bytes) :
    Justified (DataRule env) (written.map (Effect.write i) ++ log) := by
  have keeps : ∀ entry ∈ written.map (Effect.write i), ∀ log, True → DataRule env log entry ∧ True := by
    intro entry member log _
    obtain ⟨bytes, _, rfl⟩ := List.mem_map.mp member
    exact ⟨trivial, trivial⟩
  exact (justified.append keeps trivial).1

theorem dataRule_step (stepped : ActStep env table act next) (mapped : table.Mapped)
    (occupied : ∀ j, Occupied env table j) (justified : Justified (DataRule env) table.log) :
    Justified (DataRule env) next.log := by
  obtain ⟨enabled, rfl⟩ := stepped
  cases act with
  | message i payload => exact ⟨trivial, justified⟩
  | write i written => exact dataRule_writes justified i written
  | closeClient fd => exact ⟨trivial, justified⟩
  | accept i client written =>
    have taken : Justified (DataRule env) (.accepted i client.fd :: table.log) := ⟨trivial, justified⟩
    exact dataRule_writes taken i written
  | refuse i client written =>
    have taken : Justified (DataRule env) (.accepted i client.fd :: table.log) := ⟨trivial, justified⟩
    exact ⟨trivial, dataRule_writes taken i written⟩
  | authorize i uid area dst written =>
    rw [Table.apply_authorize_log]
    exact ⟨by rintro ⟨⟩, dataRule_writes justified i written⟩
  | await i uid area dst => exact justified
  | forward i data =>
    rw [Table.apply_forward_log]
    exact ⟨fun _ => (occupied i).announced mapped enabled.1 enabled.2, justified⟩
  | remove i reason =>
    rw [Table.apply, Table.remove_log]
    exact ⟨trivial, by rintro ⟨⟩, justified⟩

theorem report_mem_apply (member : Effect.report i dst msg data ∈ (table.apply env act).log) :
    Effect.report i dst msg data ∈ table.log ∨
      (msg.event = .connected ∧ msg.idx = table.idxOf i ∧
        ∃ uid area written, act = .authorize i uid area dst written) ∨
      (msg.event = .data ∧ ∃ bytes, act = .forward i bytes) ∨
      (msg.event = .close ∧ ∃ reason, act = .remove i reason) := by
  cases act with
  | message i payload => simpa [Table.apply] using member
  | write i written => simpa [Table.apply] using member
  | closeClient fd => simpa [Table.apply] using member
  | accept i client written => simpa [Table.apply] using member
  | refuse i client written => simpa [Table.apply] using member
  | authorize i uid area dst written =>
    rw [Table.apply_authorize_log] at member
    simp only [List.mem_cons, Effect.report.injEq, List.mem_append, List.mem_map, reduceCtorEq,
      and_false, exists_false, false_or] at member
    rcases member with ⟨rfl, rfl, rfl, _⟩ | old
    · exact .inr (.inl ⟨rfl, rfl, uid, area, written, rfl⟩)
    · exact .inl old
  | await i uid area dst => exact .inl member
  | forward i bytes =>
    rw [Table.apply_forward_log] at member
    simp only [List.mem_cons, Effect.report.injEq] at member
    rcases member with ⟨rfl, rfl, rfl, _⟩ | old
    · exact .inr (.inr (.inl ⟨rfl, bytes, rfl⟩))
    · exact .inl old
  | remove i reason =>
    rw [Table.apply, Table.remove_log] at member
    simp only [List.mem_cons, reduceCtorEq, Effect.report.injEq, false_or] at member
    rcases member with ⟨rfl, rfl, rfl, _⟩ | old
    · exact .inr (.inr (.inr ⟨rfl, reason, rfl⟩))
    · exact .inl old

theorem mem_log_step (stepped : ActStep env table act next) (member : effect ∈ table.log) :
    effect ∈ next.log := by
  obtain ⟨_, rfl⟩ := stepped
  cases act <;> simp [Table.apply, member]

theorem removal_reports (steps : Steps (ActStep env) table acts next) (removed : Removal i acts) :
    ∃ dst msg, Effect.report i dst msg none ∈ next.log ∧ msg.event = .close ∧ msg.idx = 0 := by
  obtain ⟨reason, member⟩ := removed
  induction steps with
  | nil => cases member
  | @cons table act middle acts next first rest ih =>
    rcases List.mem_cons.mp member with rfl | later
    · refine ⟨(table.slots i).dst, GateServerHandler.eventMessage .close 0 (table.slots i).uid
        (table.slots i).area (table.slots i).socket reason, ?_, rfl, rfl⟩
      apply rest.invariant mem_log_step
      rw [← first.2]
      simp [Table.apply]
    · exact ih later

theorem close_mem_of_kept (steps : Steps (ActStep env) table acts next) (kept : ¬ Removal i acts)
    (member : Effect.report i dst msg data ∈ next.log) (event : msg.event = .close) :
    Effect.report i dst msg data ∈ table.log := by
  induction steps with
  | nil => exact member
  | @cons table act middle acts next first rest ih =>
    have later : ¬ Removal i acts := fun ⟨reason, removed⟩ => kept ⟨reason, List.mem_cons_of_mem _ removed⟩
    have there := ih later member
    obtain ⟨_, rfl⟩ := first
    rcases report_mem_apply there with old | ⟨isConnected, _⟩ | ⟨isData, _⟩ | ⟨_, reason, rfl⟩
    · exact old
    · rw [event] at isConnected
      cases isConnected
    · rw [event] at isData
      cases isData
    · exact absurd ⟨reason, List.mem_cons_self⟩ kept

end Log

end Playground.Gate
