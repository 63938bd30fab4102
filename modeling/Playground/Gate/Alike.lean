import Playground.Transition.Lockstep
import Playground.Gate.Receive

/-! What the calls of the gate depend on. -/

namespace Playground.Gate

open Framing Component Transition

/-- What is read of a connection that is live. -/
structure ConnectionView where
  cliSocket : TcpSocket
  iDstChannel : Int
  ulUid : UInt64
  tLastActTime : Int
  tLastCheckTime : Int
  iMsgLen : Nat

/-- What the gate depends on in a slot. -/
structure ConnectionCore where
  bState : GateConnectionState
  created : Bool
  iUsed : Nat
  view : Option ConnectionView
  /-- The area, once `Authorizing` has written it. -/
  iArea : Option UInt32

def Connection.view (conn : Connection) : ConnectionView where
  cliSocket := conn.cliSocket
  iDstChannel := conn.iDstChannel
  ulUid := conn.ulUid
  tLastActTime := conn.tLastActTime
  tLastCheckTime := conn.tLastCheckTime
  iMsgLen := conn.receiver.iMsgLen

def Connection.core (conn : Connection) : ConnectionCore where
  bState := conn.bState
  created := conn.receiver.created
  iUsed := conn.receiver.iUsed
  view := if conn.bState = .invalid then none else some conn.view
  iArea := if conn.bState = .authing ∨ conn.bState = .authorized then some conn.iArea else none

/-- What the gate depends on. An entry 0 of the socket map is as good as none. -/
@[ext]
structure GateCore where
  conns : Nat → ConnectionCore
  sockets : Int → Nat
  size : Nat
  iAlivedConnections : Int
  closing : Int
  dwLastClosingIdx : Nat
  curTime : Int
  timeStampNow : Int
  sendRet : Nat → Int
  createRet : Nat → Int

/-- The results of the calls are counted from here on. -/
def GateServerHandler.core (env : Env) (gate : GateServerHandler) : GateCore where
  conns i := (gate.vecConnections i).core
  sockets fd := (gate.mpConnections fd).getD 0
  size := gate.size
  iAlivedConnections := gate.iAlivedConnections
  closing := gate.closing
  dwLastClosingIdx := gate.dwLastClosingIdx
  curTime := gate.curTime
  timeStampNow := gate.timeStampNow
  sendRet n := env.sendRet (gate.sends + n)
  createRet n := env.createRet (gate.creates + n)

/-- The same configuration with other results of the calls that leave the gate. -/
def Env.calls (env : Env) (sendRet createRet : Nat → Int) : Env := { env with sendRet, createRet }

def Effect.slot : Effect → Option Nat
  | .accepted i _ | .message i _ | .write i _ | .report i _ _ _ | .close i => some i
  | .closeClient _ => none

/-- What was sent out about a slot. -/
def slotLog (i : Nat) (log : List Effect) : List Effect := log.filter fun effect => effect.slot = some i

/-- Nothing that a call depends on tells the two gates apart. -/
def Alike (env : Env) (sendRet createRet : Nat → Int) (one two : GateServerHandler) : Prop :=
  two.core (env.calls sendRet createRet) = one.core env

/-- Two gates go on to alike gates, and show the same about slot `i` if and only if `same`. -/
structure Follows (env : Env) (sendRet createRet : Nat → Int) (i : Nat)
    (one two next next' : GateServerHandler) (same : Prop) : Prop where
  alike : Alike env sendRet createRet next next'
  grown : Matches (slotLog i one.out) (slotLog i next.out) (slotLog i two.out) (slotLog i next'.out) same

variable {env : Env} {sendRet createRet : Nat → Int} {i k : Nat} {one two next next' : GateServerHandler}
  {same later : Prop}

namespace Follows

theorem quiet (alike : Alike env sendRet createRet next next') (out : next.out = one.out)
    (out' : next'.out = two.out) : Follows env sendRet createRet i one two next next' True := by
  refine ⟨alike, ?_⟩
  rw [out, out']
  exact .refl _ _

theorem congr (follows : Follows env sendRet createRet i one two next next' same)
    (equivalent : same ↔ later) : Follows env sendRet createRet i one two next next' later :=
  ⟨follows.alike, follows.grown.congr equivalent⟩

theorem trans (follows : Follows env sendRet createRet i one two next next' same)
    (again : Follows env sendRet createRet i next next' final final' later) :
    Follows env sendRet createRet i one two final final' (same ∧ later) :=
  ⟨again.alike, follows.grown.trans again.grown⟩

theorem then_same (follows : Follows env sendRet createRet i one two next next' True)
    (again : Follows env sendRet createRet i next next' final final' same) :
    Follows env sendRet createRet i one two final final' same :=
  (follows.trans again).congr (by simp)

theorem spared (follows : Follows env sendRet createRet i one two next next' True)
    (fails : ¬ condition) : Follows env sendRet createRet i one two next next' (condition → same) :=
  follows.congr (iff_of_true trivial fun holds => absurd holds fails)

theorem emit (alike : Alike env sendRet createRet one two) {effect effect' : Effect}
    (slot : effect'.slot = effect.slot) :
    Follows env sendRet createRet i one two (one.emit effect) (two.emit effect')
      (effect.slot = some i → effect = effect') := by
  refine ⟨alike, ?_⟩
  by_cases own : effect.slot = some i
  · have shown : effect = effect' ↔ (effect.slot = some i → effect = effect') :=
      ⟨fun equal _ => equal, fun equal => equal own⟩
    have grown := (Matches.cons effect effect' (slotLog i one.out) (slotLog i two.out)).congr shown
    simpa only [slotLog, GateServerHandler.emit, List.filter_cons, slot, own, decide_true, ↓reduceIte]
      using grown
  · have hidden : True ↔ (effect.slot = some i → effect = effect') :=
      iff_of_true trivial fun about => absurd about own
    have grown := (Matches.refl (slotLog i one.out) (slotLog i two.out)).congr hidden
    simpa only [slotLog, GateServerHandler.emit, List.filter_cons, slot, own, decide_false, Bool.false_eq_true,
      ↓reduceIte] using grown

theorem emit_same (alike : Alike env sendRet createRet one two) (effect : Effect) :
    Follows env sendRet createRet i one two (one.emit effect) (two.emit effect) True :=
  (emit alike rfl).congr (by simp)

end Follows

/-- What is left behind does not show, but for the identity where the state lets the gate read it. -/
theorem Connection.core_congr {conn conn' : Connection} (state : conn'.bState = conn.bState)
    (created : conn'.receiver.created = conn.receiver.created)
    (used : conn'.receiver.iUsed = conn.receiver.iUsed)
    (view : conn.bState ≠ .invalid → conn'.view = conn.view)
    (area : conn.bState = .authing ∨ conn.bState = .authorized → conn'.iArea = conn.iArea) :
    conn'.core = conn.core := by
  unfold core
  rw [state, created, used]
  congr 1
  · split
    · rfl
    · next live => rw [view live]
  · split
    · next known => rw [area known]
    · rfl

def Connection.closed (conn : Connection) : Connection := { conn with bState := .invalid, iIdx := -1 }

theorem Connection.core_closed {conn conn' : Connection}
    (created : conn'.receiver.created = conn.receiver.created)
    (used : conn'.receiver.iUsed = conn.receiver.iUsed) : conn'.closed.core = conn.closed.core := by
  refine core_congr rfl created used ?_ ?_
  · exact fun live => absurd rfl live
  · exact fun known => by simp [closed] at known

section

variable {conn conn' : Connection} (cores : conn'.core = conn.core)

include cores

theorem Connection.core_view (live : conn.bState ≠ .invalid) : conn'.view = conn.view := by
  have state : conn'.bState = conn.bState := congrArg ConnectionCore.bState cores
  have views : conn'.core.view = conn.core.view := congrArg ConnectionCore.view cores
  simp only [core, state, if_neg live] at views
  exact Option.some.inj views

theorem Connection.core_area (known : conn.bState = .authing ∨ conn.bState = .authorized) :
    conn'.iArea = conn.iArea := by
  have state : conn'.bState = conn.bState := congrArg ConnectionCore.bState cores
  have areas : conn'.core.iArea = conn.core.iArea := congrArg ConnectionCore.iArea cores
  simp only [core, state, if_pos known] at areas
  exact Option.some.inj areas

theorem Connection.core_change (change : Connection → Connection) (update : ConnectionView → ConnectionView)
    (slot : ∀ conn, (change conn).bState = conn.bState ∧ (change conn).iArea = conn.iArea)
    (receiver : ∀ conn, (change conn).receiver = conn.receiver)
    (view : ∀ conn, (change conn).view = update conn.view) : (change conn').core = (change conn).core := by
  apply core_congr
  · rw [(slot conn').1, (slot conn).1]
    exact congrArg ConnectionCore.bState cores
  · rw [receiver conn', receiver conn]
    exact congrArg ConnectionCore.created cores
  · rw [receiver conn', receiver conn]
    exact congrArg ConnectionCore.iUsed cores
  · intro live
    rw [(slot conn).1] at live
    rw [view conn', view conn, core_view cores live]
  · intro known
    rw [(slot conn).1] at known
    rw [(slot conn').2, (slot conn).2, core_area cores known]

theorem Connection.core_updateStat (now : Int) (recv : Bool) :
    (conn'.updateStat now recv).core = (conn.updateStat now recv).core := by
  refine core_change cores (fun conn => conn.updateStat now recv)
    (fun view => { view with tLastActTime := now }) ?_ ?_ ?_
  · intro conn
    have slot := conn.updateStat_slot now recv
    exact ⟨congrArg Slot.state slot, congrArg Slot.area slot⟩
  · intro conn
    exact conn.updateStat_receiver now recv
  · intro conn
    cases recv
    all_goals
      simp only [updateStat, Bool.false_eq_true, ↓reduceIte]
      split <;> rfl

end

namespace GateServerHandler

variable (env : Env) (gate : GateServerHandler)

theorem core_modify (k : Nat) (change : Connection → Connection) : (gate.modify k change).core env =
    { gate.core env with
      conns := Function.update (gate.core env).conns k (change (gate.vecConnections k)).core } := by
  have conns : (fun j => ((gate.modify k change).vecConnections j).core) =
      Function.update (fun j => (gate.vecConnections j).core) k (change (gate.vecConnections k)).core := by
    funext j
    by_cases own : j = k
    · subst own
      simp [modify]
    · simp [modify, own]
  exact congrArg (fun conns => { gate.core env with conns }) conns

theorem core_modify_same (k : Nat) (change : Connection → Connection)
    (same : (change (gate.vecConnections k)).core = (gate.vecConnections k).core) :
    (gate.modify k change).core env = gate.core env := by
  rw [core_modify, same]
  exact congrArg (fun conns => { gate.core env with conns }) (Function.update_eq_self k _)

theorem core_mapped (fd : Int) (entry : Option Nat) :
    { gate with mpConnections := Function.update gate.mpConnections fd entry }.core env =
      { gate.core env with sockets := Function.update (gate.core env).sockets fd (entry.getD 0) } := by
  have sockets : (fun other => (Function.update gate.mpConnections fd entry other).getD 0) =
      Function.update (fun other => (gate.mpConnections other).getD 0) fd (entry.getD 0) := by
    funext other
    by_cases own : other = fd
    · rw [own, Function.update_self, Function.update_self]
    · rw [Function.update_of_ne own, Function.update_of_ne own]
  exact congrArg (fun sockets => { gate.core env with sockets }) sockets

end GateServerHandler

namespace Alike

variable (alike : Alike env sendRet createRet one two)

include alike

theorem conn (j : Nat) : (two.vecConnections j).core = (one.vecConnections j).core :=
  congrFun (congrArg GateCore.conns alike) j

theorem core_eq : two.core (env.calls sendRet createRet) = one.core env := alike

theorem state (j : Nat) : (two.vecConnections j).bState = (one.vecConnections j).bState :=
  congrArg ConnectionCore.bState (alike.conn j)

theorem created (j : Nat) :
    (two.vecConnections j).receiver.created = (one.vecConnections j).receiver.created :=
  congrArg ConnectionCore.created (alike.conn j)

theorem used (j : Nat) : (two.vecConnections j).receiver.iUsed = (one.vecConnections j).receiver.iUsed :=
  congrArg ConnectionCore.iUsed (alike.conn j)

theorem view (live : (one.vecConnections k).bState ≠ .invalid) :
    (two.vecConnections k).view = (one.vecConnections k).view :=
  Connection.core_view (alike.conn k) live

theorem area
    (known : (one.vecConnections k).bState = .authing ∨ (one.vecConnections k).bState = .authorized) :
    (two.vecConnections k).iArea = (one.vecConnections k).iArea :=
  Connection.core_area (alike.conn k) known

theorem byIdx (idx : Nat) : two.getConnectionByIdx idx = one.getConnectionByIdx idx := by
  have size : two.size = one.size := congrArg GateCore.size alike
  rw [GateServerHandler.getConnectionByIdx, GateServerHandler.getConnectionByIdx, size, alike.state]

theorem byFD (fd : Int) : two.getConnectionByFD fd = one.getConnectionByFD fd := by
  have resolve : ∀ gate : GateServerHandler,
      gate.getConnectionByFD fd = gate.getConnectionByIdx ((gate.mpConnections fd).getD 0) := by
    intro gate
    unfold GateServerHandler.getConnectionByFD
    cases gate.mpConnections fd with
    | none => exact (if_pos (.inl rfl)).symm
    | some idx => rfl
  have mapped : (two.mpConnections fd).getD 0 = (one.mpConnections fd).getD 0 :=
    congrFun (congrArg GateCore.sockets alike) fd
  rw [resolve, resolve, mapped, alike.byIdx]

theorem nextIdx : two.getNextIdx = one.getNextIdx := by
  have size : two.size = one.size := congrArg GateCore.size alike
  have alive : two.iAlivedConnections = one.iAlivedConnections := congrArg GateCore.iAlivedConnections alike
  simp only [GateServerHandler.getNextIdx, size, alive, alike.state]

theorem modify (own : (change' (two.vecConnections k)).core = (change (one.vecConnections k)).core) :
    Alike env sendRet createRet (one.modify k change) (two.modify k change') := by
  rw [Alike, GateServerHandler.core_modify, GateServerHandler.core_modify, own,
    alike.core_eq]

private theorem sendRet_eq : sendRet two.sends = env.sendRet one.sends :=
  congrFun (congrArg GateCore.sendRet alike) 0

theorem createRet_eq : createRet two.creates = env.createRet one.creates :=
  congrFun (congrArg GateCore.createRet alike) 0

private theorem sends : Alike env sendRet createRet { one with sends := one.sends + 1 }
    { two with sends := two.sends + 1 } := by
  have shift : ∀ (env : Env) (gate : GateServerHandler), { gate with sends := gate.sends + 1 }.core env =
      { gate.core env with sendRet := fun n => (gate.core env).sendRet (n + 1) } := by
    intro env gate
    simp only [GateServerHandler.core, Nat.add_assoc, Nat.add_comm 1]
  rw [Alike, shift, shift, alike.core_eq]

theorem creates : Alike env sendRet createRet { one with creates := one.creates + 1 }
    { two with creates := two.creates + 1 } := by
  have shift : ∀ (env : Env) (gate : GateServerHandler), { gate with creates :=
    gate.creates + 1 }.core env =
      { gate.core env with createRet := fun n => (gate.core env).createRet (n + 1) } := by
    intro env gate
    simp only [GateServerHandler.core, Nat.add_assoc, Nat.add_comm 1]
  rw [Alike, shift, shift, alike.core_eq]

private theorem socketSend (k : Nat) (bytes : Bytes) :
    Follows env sendRet createRet i one two (one.socketSend env k bytes).1
        (two.socketSend (env.calls sendRet createRet) k bytes).1 True ∧
      (two.socketSend (env.calls sendRet createRet) k bytes).2 = (one.socketSend env k bytes).2 := by
  unfold GateServerHandler.socketSend
  dsimp only
  have ret : (env.calls sendRet createRet).sendRet two.sends = env.sendRet one.sends := alike.sendRet_eq
  rw [ret]
  have counted : Follows env sendRet createRet i one two _ _ True := .quiet alike.sends rfl rfl
  split
  · exact ⟨counted.then_same (.emit_same alike.sends _), rfl⟩
  · exact ⟨counted, rfl⟩

theorem updateStat (k : Nat) (recv : Bool) :
    Alike env sendRet createRet (one.modify k fun conn => conn.updateStat one.curTime recv)
      (two.modify k fun conn => conn.updateStat two.curTime recv) := by
  have time : two.curTime = one.curTime := congrArg GateCore.curTime alike
  rw [time]
  exact alike.modify (Connection.core_updateStat (alike.conn k) one.curTime recv)

theorem sendFrameToClient (k : Nat) (frame : Bytes) :
    Follows env sendRet createRet i one two (one.sendFrameToClient env k frame).1
        (two.sendFrameToClient (env.calls sendRet createRet) k frame).1 True ∧
      (two.sendFrameToClient (env.calls sendRet createRet) k frame).2 =
        (one.sendFrameToClient env k frame).2 := by
  unfold GateServerHandler.sendFrameToClient
  dsimp only
  have counted := alike.updateStat k false
  obtain ⟨head, ret⟩ := counted.socketSend (i := i) k (lengthPrefix (frame.length % 65536))
  have first : Follows env sendRet createRet i one two _ _ True := .then_same (.quiet counted rfl rfl) head
  clear head
  generalize GateServerHandler.socketSend env _ k (lengthPrefix (frame.length % 65536)) = sent at ret first ⊢
  generalize GateServerHandler.socketSend _ _ k (lengthPrefix (frame.length % 65536)) = sent' at ret first ⊢
  rw [ret]
  split
  · exact ⟨first, rfl⟩
  · have sized : Alike env sendRet createRet
        { sent.1 with downloadsize := sent.1.downloadsize + UInt64.ofNat (frame.length % 65536) }
        { sent'.1 with downloadsize := sent'.1.downloadsize + UInt64.ofNat (frame.length % 65536) } := first.alike
    obtain ⟨body, ret'⟩ := sized.socketSend (i := i) k (frame.take (frame.length % 65536))
    exact ⟨first.then_same (.then_same (.quiet sized rfl rfl) body), ret'⟩

theorem sendToClient (k : Nat) (ga : GateCSMsg) :
    Follows env sendRet createRet i one two (one.sendToClient env k ga).1
        (two.sendToClient (env.calls sendRet createRet) k ga).1 True ∧
      (two.sendToClient (env.calls sendRet createRet) k ga).2 = (one.sendToClient env k ga).2 := by
  unfold GateServerHandler.sendToClient
  dsimp only
  have ret : (env.calls sendRet createRet).createRet two.creates = env.createRet one.creates :=
    alike.createRet_eq
  have serialize : (env.calls sendRet createRet).serializeGateCSMsg = env.serializeGateCSMsg := rfl
  rw [ret, serialize]
  have counted : Follows env sendRet createRet i one two _ _ True := .quiet alike.creates rfl rfl
  split
  · exact ⟨counted, rfl⟩
  · cases env.serializeGateCSMsg ga with
    | none => exact ⟨counted, rfl⟩
    | some buffer =>
      obtain ⟨frame, ret'⟩ := alike.creates.sendFrameToClient (i := i) k buffer
      exact ⟨counted.then_same frame, ret'⟩

end Alike

namespace GateServerHandler

private theorem core_sendToAgent (env env' : Env) (gate : GateServerHandler) (dst : Int) (msg : GateSSMsg)
    (data : Option Bytes) : (gate.sendToAgent env dst msg data).core env' = gate.core env' := by
  unfold sendToAgent
  split
  · rfl
  · split <;> rfl

private theorem core_reportEvent (env env' : Env) (gate : GateServerHandler) (k : Nat) (event : EventType)
    (param : Int) (data : Option Bytes) :
    (gate.reportEvent env k event param data).core env' = gate.core env' := by
  unfold reportEvent
  dsimp only
  rw [core_sendToAgent]
  have mapped := core_mapped env' gate (gate.vecConnections k).cliSocket.fd
    (some ((gate.mpConnections (gate.vecConnections k).cliSocket.fd).getD 0))
  refine mapped.trans (congrArg (fun sockets => { gate.core env' with sockets }) ?_)
  exact Function.update_eq_self (gate.vecConnections k).cliSocket.fd (gate.core env').sockets

private theorem out_reportEvent (env : Env) (gate : GateServerHandler) (k : Nat) (event : EventType) (param : Int)
    (data : Option Bytes) : (gate.reportEvent env k event param data).out =
      .report k (gate.vecConnections k).iDstChannel (gate.table.message k event param) data :: gate.out :=
  (congrArg Table.log (table_reportEvent env gate k event param data)).trans
    (Table.report_log env gate.table data k event param)

end GateServerHandler

namespace Alike

variable (alike : Alike env sendRet createRet one two)

include alike

theorem reportEvent (live : (one.vecConnections k).bState ≠ .invalid) (event : EventType) (param : Int)
    (data : Option Bytes) :
    Follows env sendRet createRet i one two (one.reportEvent env k event param data)
      (two.reportEvent (env.calls sendRet createRet) k event param data)
      (k = i → (one.vecConnections k).iArea = (two.vecConnections k).iArea) := by
  have view := alike.view live
  have dst : (two.vecConnections k).iDstChannel = (one.vecConnections k).iDstChannel :=
    congrArg ConnectionView.iDstChannel view
  have socket : (two.table.slots k).socket = (one.table.slots k).socket :=
    congrArg ConnectionView.cliSocket view
  have uid : (two.table.slots k).uid = (one.table.slots k).uid := congrArg ConnectionView.ulUid view
  have idx : two.table.idxOf k = one.table.idxOf k := by
    rw [Table.idxOf, socket]
    exact congrFun (congrArg GateCore.sockets alike) _
  have areas : one.table.message k event param = two.table.message k event param ↔
      (one.vecConnections k).iArea = (two.vecConnections k).iArea := by
    rw [Table.message, Table.message, idx, socket, uid]
    constructor
    · exact congrArg GateSSMsg.area
    · intro equal
      exact congrArg (fun area => GateServerHandler.eventMessage event _ _ area _ param) equal
  let entry (gate : GateServerHandler) : Effect :=
    .report k (one.vecConnections k).iDstChannel (gate.table.message k event param) data
  have slot : (entry two).slot = (entry one).slot := rfl
  have shown : ((entry one).slot = some i → entry one = entry two) ↔
      (k = i → (one.vecConnections k).iArea = (two.vecConnections k).iArea) := by
    simp [entry, Effect.slot, areas]
  refine ⟨?_, ?_⟩
  · rw [Alike, GateServerHandler.core_reportEvent, GateServerHandler.core_reportEvent]
    exact alike
  · rw [GateServerHandler.out_reportEvent, GateServerHandler.out_reportEvent, dst]
    exact (Follows.emit (i := i) alike slot).grown.congr shown

theorem closeConnection (k : Nat) :
    Follows env sendRet createRet i one two (one.closeConnection k) (two.closeConnection k) True := by
  unfold GateServerHandler.closeConnection
  dsimp only
  rw [alike.state k]
  have closed : ∀ {one two : GateServerHandler}, Alike env sendRet createRet one two →
      Follows env sendRet createRet i one two
        (one.modify k fun conn => { conn with bState := .invalid, iIdx := -1 })
        (two.modify k fun conn => { conn with bState := .invalid, iIdx := -1 }) True := by
    intro one two alike
    refine .quiet (alike.modify (Connection.core_closed ?_ ?_)) rfl rfl
    · exact alike.created k
    · exact alike.used k
  split
  · exact closed alike
  · exact (Follows.emit_same alike (.close k)).then_same (closed alike)

private theorem eraseSocket (live : (one.vecConnections k).bState ≠ .invalid) :
    Alike env sendRet createRet (one.eraseSocket k) (two.eraseSocket k) := by
  have socket : (two.vecConnections k).cliSocket = (one.vecConnections k).cliSocket :=
    congrArg ConnectionView.cliSocket (alike.view live)
  unfold GateServerHandler.eraseSocket
  rw [Alike, GateServerHandler.core_mapped, GateServerHandler.core_mapped, socket,
    alike.core_eq]

theorem removeConnection (live : (one.vecConnections k).bState ≠ .invalid) (reason : Int) :
    Follows env sendRet createRet i one two (one.removeConnection env k reason)
      (two.removeConnection (env.calls sendRet createRet) k reason)
      (k = i → (one.vecConnections k).iArea = (two.vecConnections k).iArea) := by
  unfold GateServerHandler.removeConnection
  dsimp only
  have erased : Follows env sendRet createRet i one two (one.eraseSocket k) (two.eraseSocket k) True :=
    .quiet (alike.eraseSocket live) rfl rfl
  have reported := erased.then_same (erased.alike.reportEvent live .close reason none)
  generalize GateServerHandler.reportEvent env _ k .close reason none = told at reported ⊢
  generalize GateServerHandler.reportEvent _ _ k .close reason none = told' at reported ⊢
  have cancelled : Alike env sendRet createRet (told.cancelIdleTimer k) (told'.cancelIdleTimer k) :=
    reported.alike
  have closed := cancelled.closeConnection (i := i) k
  refine (reported.trans (.then_same (.quiet cancelled rfl rfl) closed)).congr ?_
  exact ⟨fun both => both.1, fun areas => ⟨areas, trivial⟩⟩

end Alike

end Playground.Gate
