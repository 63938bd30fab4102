import Playground.Gate.Table

/-! Every handler call is a run of acts on the connection table. -/

namespace Playground.Gate

open Framing Component Transition

def Connection.slot (conn : Connection) : Slot where
  state := conn.bState
  socket := conn.cliSocket
  iIdx := conn.iIdx
  uid := conn.ulUid
  area := conn.iArea
  dst := conn.iDstChannel

theorem Connection.updateStat_slot (conn : Connection) (now : Int) (recv : Bool) :
    (conn.updateStat now recv).slot = conn.slot := by
  cases recv
  all_goals
    simp only [Connection.updateStat, Bool.false_eq_true, ↓reduceIte]
    split <;> rfl

theorem Connection.updateStat_receiver (conn : Connection) (now : Int) (recv : Bool) :
    (conn.updateStat now recv).receiver = conn.receiver := by
  cases recv
  all_goals
    simp only [Connection.updateStat, Bool.false_eq_true, ↓reduceIte]
    split <;> rfl

namespace GateServerHandler

variable (env : Env)

/-- The abstraction of the handler. -/
def table (gate : GateServerHandler) : Table where
  slots i := (gate.vecConnections i).slot
  size := gate.size
  map := gate.mpConnections
  log := gate.out
  posted := gate.posted

/-- The decoders, which the table leaves out. -/
def receivers (gate : GateServerHandler) (i : Nat) : Receiver := (gate.vecConnections i).receiver

theorem getConnectionByIdx_eq (gate : GateServerHandler) (idx : Nat) :
    gate.getConnectionByIdx idx = gate.table.byIdx idx := rfl

theorem getConnectionByFD_eq (gate : GateServerHandler) (fd : Int) :
    gate.getConnectionByFD fd = gate.table.byFD fd := rfl

theorem table_emit (gate : GateServerHandler) (effect : Effect) :
    (gate.emit effect).table = gate.table.record [effect] := rfl

theorem table_modify (gate : GateServerHandler) (i : Nat) (change : Connection → Connection) :
    (gate.modify i change).table = gate.table.setSlot i (change (gate.vecConnections i)).slot := by
  have slots : (fun j => (Function.update gate.vecConnections i
      (change (gate.vecConnections i)) j).slot) =
      Function.update (fun j => (gate.vecConnections j).slot) i (change (gate.vecConnections i)).slot := by
    funext j
    by_cases same : j = i
    · subst same
      simp
    · simp [same]
  simp only [modify, table, Table.setSlot, slots]

private theorem setSlot_self (table : Table) (i : Nat) : table.setSlot i (table.slots i) = table := by
  simp [Table.setSlot]

theorem table_modify_same (gate : GateServerHandler) (i : Nat) (change : Connection → Connection)
    (same : (change (gate.vecConnections i)).slot = (gate.vecConnections i).slot) :
    (gate.modify i change).table = gate.table := by
  rw [table_modify, same]
  exact setSlot_self gate.table i

theorem receivers_modify (gate : GateServerHandler) (i : Nat) (change : Connection → Connection) :
    (gate.modify i change).receivers =
      Function.update gate.receivers i (change (gate.vecConnections i)).receiver := by
  funext j
  by_cases same : j = i
  · subst same
    simp [receivers, modify]
  · simp [receivers, modify, same]

theorem receivers_modify_same (gate : GateServerHandler) (i : Nat) (change : Connection → Connection)
    (same : (change (gate.vecConnections i)).receiver = (gate.vecConnections i).receiver) :
    (gate.modify i change).receivers = gate.receivers := by
  rw [receivers_modify, same]
  exact Function.update_eq_self i gate.receivers

/-- A call that only writes to the socket of a slot, and leaves all decoders alone. -/
structure Sends (i : Nat) (gate next : GateServerHandler) : Prop where
  writes : ∃ written, next.table = gate.table.writes i written
  receivers : next.receivers = gate.receivers
  closing : next.closing = gate.closing

theorem Sends.trans (first : Sends i gate middle) (second : Sends i middle next) :
    Sends i gate next := by
  obtain ⟨before, firstWrites⟩ := first.writes
  obtain ⟨after, secondWrites⟩ := second.writes
  refine ⟨⟨after ++ before, ?_⟩, second.receivers.trans first.receivers,
    second.closing.trans first.closing⟩
  rw [secondWrites, firstWrites]
  simp [Table.writes, Table.record]

theorem Sends.silent (same : next.table = gate.table) (receivers : next.receivers = gate.receivers)
    (closing : next.closing = gate.closing) : Sends i gate next :=
  ⟨⟨[], same⟩, receivers, closing⟩

private theorem socketSend_sends (gate : GateServerHandler) (i : Nat) (bytes : Bytes) :
    Sends i gate (gate.socketSend env i bytes).1 := by
  unfold socketSend
  dsimp only
  split
  · exact ⟨⟨[bytes], rfl⟩, rfl, rfl⟩
  · exact Sends.silent rfl rfl rfl

theorem sendFrameToClient_sends (gate : GateServerHandler) (i : Nat) (frame : Bytes) :
    Sends i gate (gate.sendFrameToClient env i frame).1 := by
  unfold sendFrameToClient
  dsimp only
  have counted : Sends i gate (gate.modify i fun conn => conn.updateStat gate.curTime false) :=
    Sends.silent (table_modify_same gate i _ (Connection.updateStat_slot _ _ _))
      (receivers_modify_same gate i _ (Connection.updateStat_receiver _ _ _)) rfl
  have head := counted.trans (socketSend_sends env _ i (lengthPrefix (frame.length % 65536)))
  split
  · exact head
  · apply Sends.trans _ (socketSend_sends env _ i _)
    exact head.trans (Sends.silent rfl rfl rfl)

theorem sendToClient_sends (gate : GateServerHandler) (i : Nat) (ga : GateCSMsg) :
    Sends i gate (gate.sendToClient env i ga).1 := by
  unfold sendToClient
  dsimp only
  split
  · exact Sends.silent rfl rfl rfl
  · split
    · exact Sends.silent rfl rfl rfl
    · apply Sends.trans _ (sendFrameToClient_sends env _ i _)
      exact Sends.silent rfl rfl rfl

private theorem table_sendToAgent (gate : GateServerHandler) (dst : Int) (msg : GateSSMsg)
    (data : Option Bytes) :
    (gate.sendToAgent env dst msg data).table = gate.table.post env dst msg data := by
  unfold sendToAgent Table.post
  split
  · rfl
  · split <;> rfl

theorem table_reportEvent (gate : GateServerHandler) (i : Nat) (event : EventType)
    (param : Int) (data : Option Bytes) :
    (gate.reportEvent env i event param data).table = gate.table.report env i event param data := by
  unfold reportEvent
  rw [table_sendToAgent]
  rfl

private theorem sendToAgent_frame (gate : GateServerHandler) (dst : Int) (msg : GateSSMsg)
    (data : Option Bytes) :
    (gate.sendToAgent env dst msg data).vecConnections = gate.vecConnections ∧
      (gate.sendToAgent env dst msg data).dwLastClosingIdx = gate.dwLastClosingIdx := by
  unfold sendToAgent
  split
  · exact ⟨rfl, rfl⟩
  · split <;> exact ⟨rfl, rfl⟩

theorem reportEvent_frame (gate : GateServerHandler) (i : Nat) (event : EventType)
    (param : Int) (data : Option Bytes) :
    (gate.reportEvent env i event param data).vecConnections = gate.vecConnections ∧
      (gate.reportEvent env i event param data).dwLastClosingIdx = gate.dwLastClosingIdx := by
  unfold reportEvent
  exact sendToAgent_frame env _ _ _ data

theorem table_modify_slot (gate : GateServerHandler) (i : Nat) (change : Connection → Connection)
    (update : Slot → Slot) (agrees : ∀ conn, (change conn).slot = update conn.slot) :
    (gate.modify i change).table = gate.table.setSlot i (update (gate.table.slots i)) := by
  rw [table_modify, agrees]
  rfl

theorem table_closeConnection (gate : GateServerHandler) (i : Nat)
    (live : (gate.vecConnections i).bState ≠ .invalid) :
    (gate.closeConnection i).table = (gate.table.record [.close i]).setSlot i
      { gate.table.slots i with state := .invalid, iIdx := -1 } := by
  unfold closeConnection
  rw [if_neg live, table_modify_slot _ _ _ (fun slot => { slot with state := .invalid, iIdx := -1 })
    (fun _ => rfl), table_emit]
  rfl

theorem table_removeConnection (gate : GateServerHandler) (i : Nat) (reason : Int)
    (live : gate.table.Live i) :
    (gate.removeConnection env i reason).table = gate.table.remove env i reason := by
  unfold removeConnection
  dsimp only
  obtain ⟨conns, _⟩ := reportEvent_frame env (gate.eraseSocket i) i .close reason none
  have reported := table_reportEvent env (gate.eraseSocket i) i .close reason none
  have slots : ((gate.eraseSocket i).reportEvent env i .close reason none).table.slots =
      gate.table.slots := by
    simp only [table, conns]
    rfl
  rw [table_closeConnection]
  · show (Table.record (GateServerHandler.table _) _).setSlot i
      { (GateServerHandler.table ((gate.eraseSocket i).reportEvent env i .close reason none)).slots i with
        state := .invalid, iIdx := -1 } = _
    rw [slots]
    exact congrArg (fun (reported : Table) => (reported.record [.close i]).setSlot i
      { gate.table.slots i with state := .invalid, iIdx := -1 }) reported
  · show (((gate.eraseSocket i).reportEvent env i .close reason none).vecConnections i).bState ≠ _
    rw [conns]
    exact live

theorem receivers_closeConnection (gate : GateServerHandler) (i : Nat) :
    (gate.closeConnection i).receivers = gate.receivers := by
  unfold closeConnection
  dsimp only
  split
  · exact receivers_modify_same _ i _ rfl
  · exact receivers_modify_same _ i _ rfl

theorem receivers_removeConnection (gate : GateServerHandler) (i : Nat) (reason : Int) :
    (gate.removeConnection env i reason).receivers = gate.receivers := by
  unfold removeConnection
  dsimp only
  obtain ⟨conns, _⟩ := reportEvent_frame env (gate.eraseSocket i) i .close reason none
  rw [receivers_closeConnection]
  funext j
  simp only [receivers, cancelIdleTimer, conns]
  rfl

theorem removeConnection_closingIdx (gate : GateServerHandler) (i : Nat) (reason : Int) :
    (gate.removeConnection env i reason).dwLastClosingIdx = gate.dwLastClosingIdx := by
  obtain ⟨_, progress⟩ := reportEvent_frame env (gate.eraseSocket i) i .close reason none
  refine Eq.trans ?_ progress
  unfold removeConnection closeConnection
  dsimp only
  split <;> rfl

end GateServerHandler

/-- The acts that a payload can lead to, by the state of its slot. -/
inductive Handled (env : Env) (table : Table) (i : Nat) (payload : Bytes) : List Act → Prop where
  | ignored (idle : (table.slots i).state = .connected ∧ env.parseGateCSMsg payload = none ∨
      (table.slots i).state = .authing) :
      Handled env table i payload [.message i payload]
  | authorized (fresh : (table.slots i).state = .connected)
      (parsed : env.parseGateCSMsg payload = some ga)
      (known : env.mpAreaID2ChannelID ga.authreq.area = some dst) (written : List Bytes) :
      Handled env table i payload
        [.message i payload, .authorize i ga.authreq.uid ga.authreq.area dst written]
  | awaiting (fresh : (table.slots i).state = .connected)
      (parsed : env.parseGateCSMsg payload = some ga)
      (known : env.mpAreaID2ChannelID ga.authreq.area = some dst) :
      Handled env table i payload [.message i payload, .await i ga.authreq.uid ga.authreq.area dst]
  | rejected (fresh : (table.slots i).state = .connected)
      (parsed : env.parseGateCSMsg payload = some ga)
      (unknown : env.mpAreaID2ChannelID ga.authreq.area = none) :
      Handled env table i payload [.message i payload, .remove i connectionCloseException]
  | forwarded (trusted : (table.slots i).state = .authorized) (written : List Bytes) :
      Handled env table i payload [.message i payload, .forward i payload, .write i written]

namespace GateServerHandler

variable (env : Env) (gate : GateServerHandler) (i : Nat) (request : AuthReq)

theorem countMessage_acts (payload : Bytes) :
    (gate.countMessage i payload).table = gate.table.record [.message i payload] ∧
      (gate.countMessage i payload).receivers = gate.receivers := by
  unfold countMessage
  constructor
  · rw [table_modify_same _ i _ (Connection.updateStat_slot _ _ _)]
    rfl
  · rw [receivers_modify_same _ i _ (Connection.updateStat_receiver _ _ _)]
    rfl

theorem reportEvent_receivers (event : EventType) (param : Int) (data : Option Bytes) :
    (gate.reportEvent env i event param data).receivers = gate.receivers := by
  obtain ⟨conns, _⟩ := reportEvent_frame env gate i event param data
  funext j
  simp only [receivers, conns]

theorem forwardData_acts (data : Bytes) : (∃ written, (gate.forwardData env i data).table =
      gate.table.run env [.forward i data, .write i written]) ∧
      (gate.forwardData env i data).receivers = gate.receivers := by
  unfold forwardData
  dsimp only
  have reported := table_reportEvent env { gate with reqpkgs := gate.reqpkgs + 1 } i .data 0 (some data)
  have kept := reportEvent_receivers env { gate with reqpkgs := gate.reqpkgs + 1 } i .data 0 (some data)
  split
  · have sends := sendFrameToClient_sends env
      ({ gate with reqpkgs := gate.reqpkgs + 1 }.reportEvent env i .data 0 (some data)) i env.testBuffer
    obtain ⟨written, wrote⟩ := sends.writes
    refine ⟨⟨written, ?_⟩, sends.receivers.trans kept⟩
    rw [wrote, reported]
    rfl
  · refine ⟨⟨[], ?_⟩, kept⟩
    rw [reported]
    rfl

theorem authorizing_known (auth : AuthReq) (known : env.mpAreaID2ChannelID auth.area = some dst) :
    (gate.authorizing env i auth).2 = (if env.iNeedAuth ≠ 0 then 1 else 0) ∧
      (gate.authorizing env i auth).1.table = gate.table.setSlot i
        { gate.table.slots i with uid := auth.uid, area := auth.area, dst } ∧
      (gate.authorizing env i auth).1.receivers = gate.receivers := by
  unfold authorizing
  rw [known]
  dsimp only
  have slot := table_modify_slot gate i (fun conn => identify conn auth dst gate.timeStampNow)
    (fun slot => { slot with uid := auth.uid, area := auth.area, dst }) (fun _ => rfl)
  have kept := receivers_modify_same gate i (fun conn => identify conn auth dst gate.timeStampNow) rfl
  split
  · exact ⟨rfl, slot, kept⟩
  · exact ⟨rfl, slot, kept⟩

section

variable (known : env.mpAreaID2ChannelID request.area = some dst)

include known

theorem onAuthRequest_awaits (needs : env.iNeedAuth ≠ 0) :
    (gate.onAuthRequest env i request).1.table =
        gate.table.apply env (.await i request.uid request.area dst) ∧
      (gate.onAuthRequest env i request).1.receivers = gate.receivers := by
  unfold onAuthRequest
  dsimp only
  obtain ⟨verdict, identified, same⟩ := authorizing_known env gate i request known
  generalize gate.authorizing env i request = auth at verdict identified same ⊢
  rw [if_pos needs] at verdict
  rw [verdict, if_neg (by decide), if_pos (by decide)]
  constructor
  · rw [table_modify_slot auth.1 i _ (fun slot => { slot with state := .authing }) (fun _ => rfl), identified]
    simp [Table.apply, Table.setSlot]
  · rw [receivers_modify_same auth.1 i _ rfl]
    exact same

theorem onAuthRequest_authorizes (trusts : env.iNeedAuth = 0)
    (wrote : ((gate.authorizing env i request).1.notifyAuthResult env i 0).1.table =
      (gate.authorizing env i request).1.table.writes i written) :
    (gate.onAuthRequest env i request).1.table =
        gate.table.apply env (.authorize i request.uid request.area dst written) ∧
      (gate.onAuthRequest env i request).1.receivers = gate.receivers := by
  unfold onAuthRequest
  dsimp only
  obtain ⟨verdict, identified, same⟩ := authorizing_known env gate i request known
  generalize gate.authorizing env i request = auth at verdict identified same wrote ⊢
  rw [if_neg (not_not.mpr trusts)] at verdict
  rw [verdict, if_pos rfl]
  have sends := sendToClient_sends env auth.1 i { cmd := gateAuthRsp, authRsp := some { result := 0 } }
  constructor
  · rw [table_reportEvent, table_modify_slot _ i _ (fun slot => { slot with state := .authorized })
      (fun _ => rfl), wrote, identified]
    simp [Table.apply, Table.setSlot, Table.record, Table.writes]
  · rw [reportEvent_receivers]
    exact (receivers_modify_same _ i _ rfl).trans (sends.receivers.trans same)

private theorem onAuthRequest_known :
    (∃ act, ((∃ written, act = .authorize i request.uid request.area dst written) ∨
        act = .await i request.uid request.area dst) ∧
      (gate.onAuthRequest env i request).1.table = gate.table.apply env act) ∧
      (gate.onAuthRequest env i request).1.receivers = gate.receivers := by
  by_cases trusts : env.iNeedAuth = 0
  · have sends := sendToClient_sends env (gate.authorizing env i request).1 i
      { cmd := gateAuthRsp, authRsp := some { result := 0 } }
    obtain ⟨written, wrote⟩ := sends.writes
    obtain ⟨table, receivers⟩ := onAuthRequest_authorizes env gate i request known trusts wrote
    exact ⟨⟨_, .inl ⟨written, rfl⟩, table⟩, receivers⟩
  · obtain ⟨table, receivers⟩ := onAuthRequest_awaits env gate i request known trusts
    exact ⟨⟨_, .inr rfl, table⟩, receivers⟩

end

theorem onAuthRequest_unknown (unknown : env.mpAreaID2ChannelID request.area = none) :
    (gate.onAuthRequest env i request).1 = gate.removeConnection env i connectionCloseException := by
  simp [onAuthRequest, authorizing, unknown]

theorem onClientMessage_handled (payload : Bytes) (live : gate.table.Live i) :
    ∃ acts, Handled env gate.table i payload acts ∧
      (gate.onClientMessage env i payload).1.table = gate.table.run env acts ∧
      (gate.onClientMessage env i payload).1.receivers = gate.receivers := by
  unfold onClientMessage
  dsimp only
  obtain ⟨recorded, kept⟩ := countMessage_acts gate i payload
  -- from here on only the table of the counted state matters
  generalize gate.countMessage i payload = counted at recorded kept ⊢
  have state : (counted.vecConnections i).bState = (gate.table.slots i).state :=
    congrArg (fun table : Table => (table.slots i).state) recorded
  rw [state]
  cases switch : (gate.table.slots i).state with
  | invalid => exact absurd switch live
  | authing => exact ⟨_, .ignored (.inr switch), recorded, kept⟩
  | authorized =>
    obtain ⟨⟨written, forwarded⟩, same⟩ := forwardData_acts env counted i payload
    refine ⟨_, .forwarded switch written, ?_, same.trans kept⟩
    rw [forwarded, recorded]
    rfl
  | connected =>
    cases parsed : env.parseGateCSMsg payload with
    | none => exact ⟨_, .ignored (.inl ⟨switch, parsed⟩), recorded, kept⟩
    | some ga =>
      dsimp only
      cases known : env.mpAreaID2ChannelID ga.authreq.area with
      | none =>
        have alive : counted.table.Live i := by
          rw [Table.Live, recorded]
          exact live
        rw [onAuthRequest_unknown env counted i ga.authreq known]
        refine ⟨_, .rejected switch parsed known, ?_, (receivers_removeConnection _ _ _ _).trans kept⟩
        rw [table_removeConnection _ _ _ _ alive, recorded]
        rfl
      | some dst =>
        obtain ⟨⟨act, outcome, same⟩, unchanged⟩ := onAuthRequest_known env counted i ga.authreq known
        rcases outcome with ⟨written, rfl⟩ | rfl
        · refine ⟨_, .authorized switch parsed known written, ?_, unchanged.trans kept⟩
          rw [same, recorded]
          rfl
        · refine ⟨_, .awaiting switch parsed known, ?_, unchanged.trans kept⟩
          rw [same, recorded]
          rfl

end GateServerHandler

end Playground.Gate
