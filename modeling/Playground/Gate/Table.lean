import Playground.Transition.Steps
import Playground.Gate.Handler

/-! The connection table as an abstract machine. -/

namespace Playground.Gate

open Framing Transition

/-- A connection without its decoder, statistics and timer. -/
structure Slot where
  state : GateConnectionState
  socket : TcpSocket
  iIdx : Int
  uid : UInt64
  area : UInt32
  dst : Int

/-- The table with what it has sent out. -/
structure Table where
  slots : Nat → Slot
  size : Nat
  map : Int → Option Nat
  log : List Effect
  posted : Int → List Envelope

namespace Table

def Live (table : Table) (i : Nat) : Prop := (table.slots i).state ≠ .invalid

/-- Only this slot changes. -/
def setSlot (table : Table) (i : Nat) (slot : Slot) : Table :=
  { table with slots := Function.update table.slots i slot }

/-- Append effects to the log; the list is in the log's order, latest first. -/
def record (table : Table) (effects : List Effect) : Table := { table with log := effects ++ table.log }

def writes (table : Table) (i : Nat) (written : List Bytes) : Table :=
  table.record (written.map (Effect.write i))

/-- A message that is too long, or has no channel, is dropped. -/
def post (env : Env) (table : Table) (dst : Int) (msg : GateSSMsg) (data : Option Bytes) : Table :=
  if env.byteSize msg + (data.getD []).length + 2 ≥ 65536 then table
  else if env.channelReady dst then
    { table with posted := Function.update table.posted dst (table.posted dst ++ [(msg, data.getD [])]) }
  else table

/-- The index that a report of the slot carries: 0 if its socket is not in the map. -/
def idxOf (table : Table) (i : Nat) : Nat := (table.map (table.slots i).socket.fd).getD 0

def message (table : Table) (i : Nat) (event : EventType) (param : Int) : GateSSMsg :=
  GateServerHandler.eventMessage event (table.idxOf i) (table.slots i).uid (table.slots i).area
    (table.slots i).socket param

/-- Reporting enters the socket into the map, if need be with the index 0. -/
def report (env : Env) (table : Table) (i : Nat) (event : EventType) (param : Int)
    (data : Option Bytes) : Table :=
  let msg := table.message i event param
  let marked := { table with
    map := Function.update table.map (table.slots i).socket.fd (some (table.idxOf i)) }
  (marked.record [.report i (table.slots i).dst msg data]).post env (table.slots i).dst msg data

def remove (env : Env) (table : Table) (i : Nat) (reason : Int) : Table :=
  let erased := { table with map := Function.update table.map (table.slots i).socket.fd none }
  ((erased.report env i .close reason none).record [.close i]).setSlot i
    { table.slots i with state := .invalid, iIdx := -1 }

end Table

/-- Everything a handler call is made of. `written` is what the sockets took. -/
inductive Act where
  | message (i : Nat) (payload : Bytes)
  | write (i : Nat) (written : List Bytes)
  | closeClient (fd : Int)
  | accept (i : Nat) (client : TcpSocket) (written : List Bytes)
  | refuse (i : Nat) (client : TcpSocket) (written : List Bytes)
  | authorize (i : Nat) (uid : UInt64) (area : UInt32) (dst : Int) (written : List Bytes)
  | await (i : Nat) (uid : UInt64) (area : UInt32) (dst : Int)
  | forward (i : Nat) (data : Bytes)
  | remove (i : Nat) (reason : Int)

/-- The slot that an act is about. -/
def Act.slot : Act → Option Nat
  | .message i _ | .write i _ | .accept i _ _ | .refuse i _ _ | .authorize i _ _ _ _ | .await i _ _ _
  | .forward i _ | .remove i _ => some i
  | .closeClient _ => none

/-- What an act does to the table. -/
def Table.apply (env : Env) (table : Table) : Act → Table
  | .message i payload => table.record [.message i payload]
  | .write i written => table.writes i written
  | .closeClient fd => table.record [.closeClient fd]
  | .accept i client written =>
    let taken := ((table.setSlot i
      { table.slots i with state := .connected, socket := client, iIdx := i, uid := 0, dst := 0 }).record
        [.accepted i client.fd]).writes i written
    { taken with map := Function.update taken.map client.fd (some i) }
  | .refuse i client written =>
    (((table.setSlot i
      { table.slots i with state := .invalid, socket := client, iIdx := -1, uid := 0, dst := 0 }).record
        [.accepted i client.fd]).writes i written).record [.close i]
  | .authorize i uid area dst written =>
    ((table.setSlot i { table.slots i with state := .authorized, uid, area, dst }).writes i written).report
      env i .connected 0 none
  | .await i uid area dst => table.setSlot i { table.slots i with state := .authing, uid, area, dst }
  | .forward i data => table.report env i .data 0 (some data)
  | .remove i reason => table.remove env i reason

def Table.byIdx (table : Table) (idx : Nat) : Option Nat :=
  if idx = 0 ∨ table.size ≤ idx then none
  else if (table.slots idx).state = .invalid then none
  else some idx

def Table.byFD (table : Table) (fd : Int) : Option Nat := (table.map fd).bind table.byIdx

/-- Some socket leads to the slot. -/
def Table.Reached (table : Table) (i : Nat) : Prop := ∃ fd, table.byFD fd = some i

/-- When a handler call can contain the act. -/
def Act.Enabled (env : Env) (table : Table) : Act → Prop
  | .message i _ => table.Reached i
  | .write i _ => table.Live i
  | .closeClient _ => True
  | .accept i _ _ => ¬ table.Live i ∧ 1 ≤ i ∧ i < table.size
  | .refuse i _ _ => ¬ table.Live i ∧ 1 ≤ i ∧ i < table.size
  | .authorize i _ area dst _ =>
    (table.slots i).state = .connected ∧ table.Reached i ∧ env.mpAreaID2ChannelID area = some dst
  | .await i _ area dst =>
    (table.slots i).state = .connected ∧ table.Reached i ∧ env.mpAreaID2ChannelID area = some dst
  | .forward i _ => (table.slots i).state = .authorized ∧ table.Reached i
  | .remove i _ => table.byIdx i = some i

def Table.run (env : Env) (table : Table) (acts : List Act) : Table := acts.foldl (Table.apply env) table

/-- A step of the abstract machine. -/
def ActStep (env : Env) (table : Table) (act : Act) (next : Table) : Prop :=
  act.Enabled env table ∧ table.apply env act = next

namespace Table

variable {table : Table} {i : Nat} {fd : Int}

theorem byIdx_zero (table : Table) : table.byIdx 0 = none := by
  simp [byIdx]

theorem byIdx_some (found : table.byIdx idx = some i) :
    i = idx ∧ 1 ≤ idx ∧ idx < table.size ∧ table.Live idx := by
  unfold byIdx at found
  split at found
  · cases found
  · split at found
    · cases found
    · cases found
      exact ⟨rfl, by omega, by omega, by assumption⟩

theorem byIdx_of_live (positive : 1 ≤ i) (bounded : i < table.size) (live : table.Live i) :
    table.byIdx i = some i := by
  have inside : ¬ (i = 0 ∨ table.size ≤ i) := by omega
  simp only [byIdx, if_neg inside]
  exact if_neg live

theorem byFD_some (found : table.byFD fd = some i) :
    table.map fd = some i ∧ 1 ≤ i ∧ i < table.size ∧ table.Live i := by
  unfold byFD at found
  obtain ⟨idx, mapped, resolved⟩ := Option.bind_eq_some_iff.mp found
  obtain ⟨rfl, positive, bounded, live⟩ := byIdx_some resolved
  exact ⟨mapped, positive, bounded, live⟩

theorem byFD_of_live (mapped : table.map fd = some i) (positive : 1 ≤ i) (bounded : i < table.size)
    (live : table.Live i) : table.byFD fd = some i := by
  rw [byFD, mapped]
  exact byIdx_of_live positive bounded live

section Projections

variable (env : Env) (table : Table) (dst : Int) (msg : GateSSMsg) (data : Option Bytes)
  (i : Nat) (event : EventType) (param reason : Int) (effects : List Effect) (written : List Bytes)
  (slot : Slot)

@[simp] theorem record_slots : (table.record effects).slots = table.slots := rfl

@[simp] theorem record_size : (table.record effects).size = table.size := rfl

@[simp] theorem record_map : (table.record effects).map = table.map := rfl

@[simp] theorem record_log : (table.record effects).log = effects ++ table.log := rfl

@[simp] theorem writes_slots : (table.writes i written).slots = table.slots := rfl

@[simp] theorem writes_size : (table.writes i written).size = table.size := rfl

@[simp] theorem writes_map : (table.writes i written).map = table.map := rfl

@[simp] theorem writes_log : (table.writes i written).log = written.map (Effect.write i) ++ table.log := rfl

@[simp] theorem setSlot_slots : (table.setSlot i slot).slots = Function.update table.slots i slot := rfl

@[simp] theorem setSlot_size : (table.setSlot i slot).size = table.size := rfl

@[simp] theorem setSlot_map : (table.setSlot i slot).map = table.map := rfl

@[simp] theorem setSlot_log : (table.setSlot i slot).log = table.log := rfl

theorem post_eq : ∃ posted, table.post env dst msg data = { table with posted } := by
  unfold post
  split
  · exact ⟨table.posted, rfl⟩
  · split
    · exact ⟨_, rfl⟩
    · exact ⟨table.posted, rfl⟩

@[simp] theorem post_slots : (table.post env dst msg data).slots = table.slots := by
  obtain ⟨posted, same⟩ := post_eq env table dst msg data
  rw [same]

@[simp] theorem post_size : (table.post env dst msg data).size = table.size := by
  obtain ⟨posted, same⟩ := post_eq env table dst msg data
  rw [same]

@[simp] theorem post_map : (table.post env dst msg data).map = table.map := by
  obtain ⟨posted, same⟩ := post_eq env table dst msg data
  rw [same]

@[simp] theorem post_log : (table.post env dst msg data).log = table.log := by
  obtain ⟨posted, same⟩ := post_eq env table dst msg data
  rw [same]

@[simp] theorem report_slots : (table.report env i event param data).slots = table.slots := by
  simp [report, record]

@[simp] theorem report_size : (table.report env i event param data).size = table.size := by
  simp [report, record]

@[simp] theorem report_map : (table.report env i event param data).map =
    Function.update table.map (table.slots i).socket.fd (some (table.idxOf i)) := by
  simp [report, record]

@[simp] theorem report_log : (table.report env i event param data).log =
    .report i (table.slots i).dst (table.message i event param) data :: table.log := by
  simp [report, record]

@[simp] theorem remove_slots : (table.remove env i reason).slots =
    Function.update table.slots i { table.slots i with state := .invalid, iIdx := -1 } := by
  simp [remove, record, setSlot]

@[simp] theorem remove_size : (table.remove env i reason).size = table.size := by
  simp [remove, record, setSlot]

@[simp] theorem remove_map : (table.remove env i reason).map =
    Function.update table.map (table.slots i).socket.fd (some 0) := by
  simp [remove, record, setSlot, idxOf]

@[simp] theorem remove_log : (table.remove env i reason).log =
    .close i :: .report i (table.slots i).dst
      (GateServerHandler.eventMessage .close 0 (table.slots i).uid (table.slots i).area
        (table.slots i).socket reason) none :: table.log := by
  simp [remove, record, setSlot, message, idxOf]

theorem apply_authorize_log (uid : UInt64) (area : UInt32) :
    (table.apply env (.authorize i uid area dst written)).log =
      .report i dst (GateServerHandler.eventMessage .connected (table.idxOf i) uid area
        (table.slots i).socket 0) none :: (written.map (Effect.write i) ++ table.log) := by
  simp [apply, message, idxOf]

theorem apply_authorize_slots (uid : UInt64) (area : UInt32) :
    (table.apply env (.authorize i uid area dst written)).slots =
      Function.update table.slots i { table.slots i with state := .authorized, uid, area, dst } := by
  simp [apply]

theorem apply_authorize_map (uid : UInt64) (area : UInt32) :
    (table.apply env (.authorize i uid area dst written)).map =
      Function.update table.map (table.slots i).socket.fd (some (table.idxOf i)) := by
  simp [apply, idxOf]

theorem apply_forward_log (bytes : Bytes) :
    (table.apply env (.forward i bytes)).log =
      .report i (table.slots i).dst (GateServerHandler.eventMessage .data (table.idxOf i)
        (table.slots i).uid (table.slots i).area (table.slots i).socket 0) (some bytes) :: table.log := by
  simp [apply, message]

theorem apply_slots_other (act : Act) (other : act.slot ≠ some i) :
    (table.apply env act).slots i = table.slots i := by
  have apart {j : Nat} (own : act.slot = some j) : i ≠ j := fun same => other (same ▸ own)
  cases act with
  | message | write | closeClient | forward => simp [apply]
  | accept j | refuse j | authorize j | await j | remove j => simp [apply, apart (j := j) rfl]

end Projections

theorem byFD_report (env : Env) (table : Table) (i : Nat) (event : EventType) (param : Int)
    (data : Option Bytes) (fd : Int) :
    (table.report env i event param data).byFD fd = table.byFD fd := by
  have resolves : (table.report env i event param data).byIdx = table.byIdx := by
    funext idx
    simp [byIdx]
  rw [byFD, byFD, report_map, resolves]
  by_cases same : fd = (table.slots i).socket.fd
  · subst same
    rw [Function.update_self, idxOf]
    cases table.map (table.slots i).socket.fd with
    | none => exact byIdx_zero table
    | some idx => rfl
  · rw [Function.update_of_ne same]

theorem byFD_setSlot (live : table.Live i) (slot : Slot) (alive : slot.state ≠ .invalid) (fd : Int) :
    (table.setSlot i slot).byFD fd = table.byFD fd := by
  have resolves : (table.setSlot i slot).byIdx = table.byIdx := by
    funext idx
    by_cases same : idx = i
    · subst same
      have before : (table.slots idx).state ≠ .invalid := live
      simp [byIdx, setSlot, alive, before]
    · simp [byIdx, setSlot, same]
  unfold byFD
  rw [resolves]
  rfl

theorem remove_byIdx (env : Env) (table : Table) (i : Nat) (reason : Int) (idx : Nat) :
    (table.remove env i reason).byIdx idx = if idx = i then none else table.byIdx idx := by
  by_cases same : idx = i
  · subst same
    simp [byIdx]
  · simp [byIdx, same]

theorem remove_byFD (env : Env) (found : table.byFD fd = some i) (reason : Int) :
    (table.remove env i reason).byFD fd = none := by
  obtain ⟨mapped, _, _, _⟩ := byFD_some found
  unfold byFD
  by_cases same : fd = (table.slots i).socket.fd
  · rw [remove_map, same, Function.update_self]
    exact byIdx_zero _
  · rw [remove_map, Function.update_of_ne same, mapped]
    show Table.byIdx _ i = none
    simp [byIdx]

end Table

end Playground.Gate
