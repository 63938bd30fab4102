import Playground.Gate.Step

/-! What the client of one slot is sent. -/

namespace Playground.Gate

open Framing Component Transition

/-- What the client of slot `i` gets of an effect. -/
@[simp] def Effect.writtenTo (i : Nat) : Effect → Option Bytes
  | .write slot bytes => if slot = i then some bytes else none
  | .message .. | .report .. | .close .. | .closeClient .. | .accepted .. => none

/-- What was written to a slot, the earliest first. -/
def sentTo (i : Nat) (log : List Effect) : List Bytes := (log.filterMap (Effect.writtenTo i)).reverse

/-- A frame is sent as two writes, its length field and its payload. -/
def framePayloads : List Bytes → List Bytes
  | _ :: payload :: rest => payload :: framePayloads rest
  | _ => []

/-- The frames that a call has written to a slot. -/
def framesSent (i : Nat) (gate next : GateServerHandler) : List Bytes :=
  framePayloads ((sentTo i next.out).drop (sentTo i gate.out).length)

/-- No send fails, and no buffer is refused. -/
structure Env.SendsAll (env : Env) : Prop where
  sends : ∀ n, env.sendRet n = 0
  creates : ∀ n, env.createRet n = 0

/-- A call leaves the slot in the given state and sends the given bytes to its client. -/
structure Shows (i : Nat) (table next : Table) (state : GateConnectionState) (bytes : List Bytes) : Prop where
  state : (next.slots i).state = state
  sent : sentTo i next.log = sentTo i table.log ++ bytes

/-- A call for another connection: nothing is sent, and at most the slot is closed. -/
def Spares (i : Nat) (table next : Table) : Prop :=
  ∃ state, (state = (table.slots i).state ∨ state = .invalid) ∧ Shows i table next state []

section Log

variable (i : Nat) (log : List Effect)

theorem sentTo_append (effects : List Effect) :
    sentTo i (effects ++ log) = sentTo i log ++ sentTo i effects := by
  simp [sentTo]

theorem sentTo_writes (written : List Bytes) :
    sentTo i (written.map (Effect.write i) ++ log) = sentTo i log ++ written.reverse := by
  have own : sentTo i (written.map (Effect.write i)) = written.reverse := by
    simp [sentTo, List.filterMap_map, Function.comp_def]
  rw [sentTo_append, own]

theorem sentTo_writes_other (other : j ≠ i) (written : List Bytes) :
    sentTo i (written.map (Effect.write j) ++ log) = sentTo i log := by
  have none : sentTo i (written.map (Effect.write j)) = [] := by
    simp [sentTo, List.filterMap_map, Function.comp_def, other]
  rw [sentTo_append, none, List.append_nil]

@[simp] theorem sentTo_cons (effect : Effect) :
    sentTo i (effect :: log) = sentTo i log ++ (effect.writtenTo i).toList := by
  cases own : effect.writtenTo i <;> simp [sentTo, own, -Effect.writtenTo]

end Log

theorem Shows.silent (state : (next.slots i).state = (table.slots i).state)
    (sent : sentTo i next.log = sentTo i table.log) : Shows i table next (table.slots i).state [] :=
  ⟨state, by rw [sent, List.append_nil]⟩

theorem Shows.framesSent {gate next : GateServerHandler}
    (shows : Shows i gate.table next.table after bytes) :
    framesSent i gate next = framePayloads bytes := by
  have sent : sentTo i next.out = sentTo i gate.out ++ bytes := shows.sent
  rw [Gate.framesSent, sent, List.drop_left]

theorem Spares.of_same (same : next = table) : Spares i table next :=
  ⟨_, .inl rfl, .silent (same ▸ rfl) (same ▸ rfl)⟩

theorem Spares.trans (first : Spares i table middle) (second : Spares i middle next) :
    Spares i table next := by
  obtain ⟨between, fromStart, before⟩ := first
  obtain ⟨state, fromBetween, after⟩ := second
  refine ⟨state, ?_, after.state, ?_⟩
  · rcases fromBetween with same | closed
    · rw [same, before.state]
      exact fromStart
    · exact .inr closed
  · rw [after.sent, before.sent, List.append_nil]

private theorem sentTo_of_other (table : Table) (act : Act) (other : act.slot ≠ some i) :
    sentTo i (table.apply env act).log = sentTo i table.log := by
  have apart {j : Nat} (own : act.slot = some j) : j ≠ i := fun same => other (same ▸ own)
  cases act with
  | message | closeClient | await => rfl
  | forward | remove => simp [Table.apply]
  | write j written => exact sentTo_writes_other i table.log (apart rfl) written
  | accept j | refuse j | authorize j => simp [Table.apply, sentTo_writes_other i _ (apart (j := j) rfl)]

theorem spares_of_other (stepped : ActStep env table act next) (other : act.slot ≠ some i) :
    Spares i table next := by
  obtain ⟨_, rfl⟩ := stepped
  have slot := Table.apply_slots_other env table i act other
  exact ⟨_, .inl rfl, .silent (congrArg Slot.state slot) (sentTo_of_other table act other)⟩

theorem spares_of_remove (stepped : ActStep env table (.remove j reason) next) : Spares i table next := by
  by_cases own : j = i
  · subst own
    obtain ⟨_, rfl⟩ := stepped
    refine ⟨.invalid, .inr rfl, ?_, ?_⟩
    · simp [Table.apply]
    · simp [Table.apply]
  · exact spares_of_other stepped fun same => own (Option.some.inj same)

theorem spares_of_others (steps : Steps (ActStep env) table acts next)
    (others : ∀ act ∈ acts, act.slot ≠ some i) : Spares i table next := by
  induction steps with
  | nil => exact .of_same rfl
  | cons first rest ih =>
    have now := spares_of_other first (others _ List.mem_cons_self)
    exact now.trans (ih fun act member => others act (List.mem_cons_of_mem _ member))

theorem Handled.slot (handled : Handled env table j payload acts) : ∀ act ∈ acts, act.slot = some j := by
  cases handled <;> simp [Act.slot]

theorem Received.slot (received : Received env j fd table payloads acts final) :
    ∀ act ∈ acts, act.slot = some j ∨ act.slot = none := by
  induction received with
  | done => simp
  | next handled _ _ ih =>
    intro act member
    rcases List.mem_append.mp member with now | later
    · exact .inl (handled.slot act now)
    · exact ih act later
  | cut handled _ closing =>
    intro act member
    rcases List.mem_append.mp member with now | later
    · exact .inl (handled.slot act now)
    · rcases closing with rfl | rfl
      · cases later
      · rw [List.mem_singleton.mp later]
        exact .inr rfl

namespace GateServerHandler

variable (env : Env) (gate : GateServerHandler)

theorem removeConnection_spares (reason : Int) (found : gate.table.byIdx idx = some j) :
    Spares i gate.table (gate.removeConnection env j reason).table :=
  spares_of_remove (removeConnection_step env gate reason found)

theorem onNewConnection_spares (client : TcpSocket)
    (live : gate.table.Live i) (returned : gate.onNewConnection env client = some result) :
    Spares i gate.table result.1.table := by
  obtain ⟨act, takes, _, stepped, _⟩ := onNewConnection_acts env gate client returned
  apply spares_of_other stepped
  rcases takes with rfl | ⟨j, takes, _⟩
  · simp [Act.slot]
  · -- a slot is taken only when it is free
    have free : ¬ gate.table.Live j ∧ act.slot = some j := by
      cases act <;> cases takes
      · exact ⟨stepped.1.1, rfl⟩
      · exact ⟨stepped.1.1, rfl⟩
    rw [free.2]
    rintro same
    cases same
    exact free.1 live

theorem onClientDataRecv_spares (chunk : Bytes) (idle : gate.Idle)
    (other : gate.getConnectionByFD fd ≠ some i) :
    Spares i gate.table (gate.onClientDataRecv env fd chunk).1.table := by
  rw [getConnectionByFD_eq] at other
  cases found : gate.table.byFD fd with
  | none =>
    rw [onClientDataRecv_gone env gate chunk found]
    exact ⟨_, .inl rfl, .silent rfl rfl⟩
  | some j =>
    obtain ⟨acts, received⟩ := (onClientDataRecv_consumed env gate chunk found (idle j)).received
    apply spares_of_others (received.steps found)
    intro act member same
    rcases received.slot act member with own | none
    · exact other (found.trans (own.symm.trans same))
    · exact nomatch none.symm.trans same

theorem onConnectionClosed_spares (fd : Int) :
    Spares i gate.table (gate.onConnectionClosed env fd).1.table := by
  have table : (gate.countAlive (-1)).table = gate.table := rfl
  unfold onConnectionClosed
  dsimp only
  rw [getConnectionByFD_eq, table]
  cases found : gate.table.byFD fd with
  | none => exact .of_same rfl
  | some j =>
    obtain ⟨_, positive, bounded, live⟩ := Table.byFD_some found
    have resolved : (gate.countAlive (-1)).table.byIdx j = some j :=
      Table.byIdx_of_live positive bounded live
    exact removeConnection_spares env (gate.countAlive (-1)) connectionCloseByClient resolved

theorem checkConnxFree_spares (idx : Nat) :
    Spares i gate.table (gate.checkConnxFree env idx).table := by
  unfold checkConnxFree
  rw [getConnectionByIdx_eq]
  cases found : gate.table.byIdx idx with
  | none => exact .of_same rfl
  | some j =>
    dsimp only
    split
    · exact removeConnection_spares env gate connectionCloseByDefault found
    · split
      · obtain ⟨table, _⟩ := addIdleTimer_frame gate j
        apply Spares.of_same
        rw [table_modify_same _ j _ rfl, table]
      · exact .of_same rfl

theorem closingLoop_spares (reason : Int) (count : Nat) (gate : GateServerHandler) :
    Spares i gate.table (closingLoop env reason count gate).table := by
  induction count generalizing gate with
  | zero => exact .of_same rfl
  | succ count ih =>
    rw [closingLoop]
    split
    · have closes : Spares i gate.table (gate.closeNext env reason).advanceClosing.table := by
        show Spares i gate.table (gate.closeNext env reason).table
        unfold closeNext
        rw [getConnectionByIdx_eq]
        cases found : gate.table.byIdx gate.dwLastClosingIdx with
        | none => exact .of_same rfl
        | some j => exact removeConnection_spares env gate reason found
      exact closes.trans (ih _)
    · exact .of_same rfl

end GateServerHandler

section Sending

variable {env : Env}

theorem Shows.writes (written : List Bytes) :
    Shows i table (table.writes i written) (table.slots i).state written.reverse :=
  ⟨rfl, sentTo_writes i table.log written⟩

private theorem sendFrameToClient_writes (all : env.SendsAll) (gate : GateServerHandler) (i : Nat) (frame : Bytes) :
    (gate.sendFrameToClient env i frame).2 = 0 ∧
      (gate.sendFrameToClient env i frame).1.table = gate.table.writes i
        [frame.take (frame.length % 65536), lengthPrefix (frame.length % 65536)] := by
  have counted := GateServerHandler.table_modify_same gate i
    (fun conn => conn.updateStat gate.curTime false) (Connection.updateStat_slot _ _ _)
  unfold GateServerHandler.sendFrameToClient
  simp only [GateServerHandler.socketSend, all.sends, if_true, ne_eq, not_true_eq_false, if_false, true_and]
  exact congrArg (·.writes i [frame.take (frame.length % 65536), lengthPrefix (frame.length % 65536)]) counted

theorem sendToClient_writes (all : env.SendsAll) (gate : GateServerHandler) (i : Nat) (ga : GateCSMsg)
    (serialized : env.serializeGateCSMsg ga = some buffer) (small : buffer.length < 65536) :
    (gate.sendToClient env i ga).2 = 0 ∧
      (gate.sendToClient env i ga).1.table =
        gate.table.writes i [buffer, lengthPrefix buffer.length] := by
  unfold GateServerHandler.sendToClient
  rw [if_neg (not_not.mpr (all.creates _)), serialized]
  have sent := sendFrameToClient_writes all { gate with creates := gate.creates + 1 } i buffer
  rw [Nat.mod_eq_of_lt small, List.take_length] at sent
  exact sent

theorem onNewConnection_shows (all : env.SendsAll) (gate : GateServerHandler) (client : TcpSocket)
    (serialized : env.serializeGateCSMsg { cmd := gateNeedAuth } = some buffer)
    (small : buffer.length < 65536) (found : (gate.countAlive 1).getNextIdx = some i)
    (returned : gate.onNewConnection env client = some (next, 0)) :
    Shows i gate.table next.table .connected [lengthPrefix buffer.length, buffer] := by
  obtain ⟨j, same, result⟩ := Option.map_eq_some_iff.mp returned
  cases found.symm.trans same
  obtain ⟨created, _⟩ := GateServerHandler.createBuffer_frame env (gate.countAlive 1) i
  generalize (gate.countAlive 1).createBuffer env i = prepared at created result
  dsimp only at result
  split at result
  · cases result
  · obtain ⟨succeeds, wrote⟩ := sendToClient_writes all (prepared.1.occupy i client) i _ serialized small
    rw [GateServerHandler.notifyNeedAuth] at result
    generalize (prepared.1.occupy i client).sendToClient env i { cmd := gateNeedAuth } = notified
      at succeeds wrote result
    rw [if_neg (not_not.mpr succeeds)] at result
    obtain rfl : notified.1.register i client = next := congrArg Prod.fst result
    obtain ⟨registered, _⟩ := GateServerHandler.register_frame notified.1 i client
    rw [registered, wrote, GateServerHandler.table_occupy, created]
    refine ⟨by simp, ?_⟩
    show sentTo i ([buffer, lengthPrefix buffer.length].map (Effect.write i) ++ [.accepted i client.fd] ++
      gate.out) = _
    rw [List.append_assoc, sentTo_writes]
    rfl

/-- What the gate does with one frame, by the state of its connection before and after. -/
inductive Response (rsp : List Bytes) : GateConnectionState → GateConnectionState → List Bytes → Prop where
  | silent (kept : before ≠ .authorized ∧ after ≠ .authorized ∨ after = before) : Response rsp before after []
  | admitted : Response rsp .connected .authorized rsp
  | forwarded : Response rsp .authorized .authorized bytes

theorem onClientMessage_shows (all : env.SendsAll) (gate : GateServerHandler) (payload : Bytes)
    (serialized : env.serializeGateCSMsg { cmd := gateAuthRsp, authRsp := some { result := 0 } } = some buffer)
    (small : buffer.length < 65536) (live : gate.table.Live i) :
    ∃ after bytes, Shows i gate.table (gate.onClientMessage env i payload).1.table after bytes ∧
      Response [lengthPrefix buffer.length, buffer] (gate.table.slots i).state after bytes := by
  unfold GateServerHandler.onClientMessage
  dsimp only
  obtain ⟨recorded, _⟩ := gate.countMessage_acts i payload
  generalize gate.countMessage i payload = counted at recorded ⊢
  have state : (counted.vecConnections i).bState = (gate.table.slots i).state :=
    congrArg (fun table : Table => (table.slots i).state) recorded
  have same : Shows i gate.table counted.table (gate.table.slots i).state [] := by
    rw [recorded]
    exact .silent rfl rfl
  rw [state]
  cases switch : (gate.table.slots i).state with
  | invalid => exact absurd switch live
  | authing =>
    rw [switch] at same
    exact ⟨_, _, same, .silent (.inr rfl)⟩
  | authorized =>
    obtain ⟨⟨written, forwarded⟩, _⟩ := counted.forwardData_acts env i payload
    refine ⟨.authorized, written.reverse, ?_, .forwarded⟩
    rw [forwarded, recorded]
    refine ⟨by simpa [Table.run, Table.apply] using switch, ?_⟩
    simp [Table.run, Table.apply, sentTo_writes]
  | connected =>
    cases parsed : env.parseGateCSMsg payload with
    | none =>
      rw [switch] at same
      exact ⟨_, _, same, .silent (.inr rfl)⟩
    | some ga =>
      dsimp only
      cases known : env.mpAreaID2ChannelID ga.authreq.area with
      | none =>
        have alive : counted.table.Live i := by
          rw [Table.Live, recorded]
          exact live
        rw [counted.onAuthRequest_unknown env i ga.authreq known, counted.table_removeConnection _ _ _ alive,
          recorded]
        exact ⟨.invalid, [], ⟨by simp, by simp⟩, .silent (.inl (by decide))⟩
      | some dst =>
        by_cases trusts : env.iNeedAuth = 0
        · obtain ⟨_, wrote⟩ := sendToClient_writes all (counted.authorizing env i ga.authreq).1 i _
            serialized small
          obtain ⟨table, _⟩ := counted.onAuthRequest_authorizes env i ga.authreq known trusts wrote
          refine ⟨.authorized, _, ?_, .admitted⟩
          rw [table, recorded]
          refine ⟨by simp [Table.apply], ?_⟩
          rw [Table.apply_authorize_log, sentTo_cons, sentTo_writes]
          simp
        · obtain ⟨table, _⟩ := counted.onAuthRequest_awaits env i ga.authreq known trusts
          rw [table, recorded]
          exact ⟨.authing, [], ⟨by simp [Table.apply], by simp [Table.apply]⟩, .silent (.inl (by decide))⟩

end Sending

/-- The call can write to the client of the slot. -/
def Event.Feeds (gate : GateServerHandler) (i : Nat) : Event → Prop
  | .clientDataRecv fd _ => gate.getConnectionByFD fd = some i
  | .agentMessage ggc _ => ggc.idx = i ∧ ggc.event = .data
  | _ => False

instance (gate : GateServerHandler) (i : Nat) : (ev : Event) → Decidable (ev.Feeds gate i)
  | .clientDataRecv _ _ => inferInstanceAs (Decidable (_ = _))
  | .agentMessage _ _ => inferInstanceAs (Decidable (_ ∧ _))
  | .newConnection _ | .connectionClosed _ | .checkConnxFree _ | .closing _ _ | .clock _ _ _ =>
    inferInstanceAs (Decidable False)

theorem step_spares (stepped : step env gate ev = some next) (idle : gate.Idle) (live : gate.table.Live i)
    (apart : ¬ ev.Feeds gate i) : Spares i gate.table next.table := by
  cases ev with
  | newConnection client =>
    obtain ⟨result, returned, rfl⟩ := Option.map_eq_some_iff.mp stepped
    exact gate.onNewConnection_spares env client live returned
  | clientDataRecv fd chunk =>
    cases stepped
    exact gate.onClientDataRecv_spares env chunk idle apart
  | connectionClosed fd =>
    cases stepped
    exact gate.onConnectionClosed_spares env fd
  | checkConnxFree idx =>
    cases stepped
    exact gate.checkConnxFree_spares env idx
  | agentMessage ggc csmsg =>
    cases stepped
    rcases StepActs.dispatchMessage_acts env gate ggc csmsg with
      ⟨_, same⟩ | ⟨found, ⟨_, same⟩ | ⟨event, sends⟩ | ⟨_, same⟩⟩
    · exact .of_same (congrArg GateServerHandler.table same)
    · rw [same]
      exact gate.removeConnection_spares env _ found
    · obtain ⟨written, wrote⟩ := sends.writes
      have other : ggc.idx ≠ i := fun same => apart ⟨same, event⟩
      rw [wrote]
      exact ⟨_, .inl rfl, .silent rfl (sentTo_writes_other i _ other written)⟩
    · exact .of_same (congrArg GateServerHandler.table same)
  | closing reason notifinum =>
    cases stepped
    rw [GateServerHandler.onClosing_fst, ← (gate.beginClosing_frame reason).1]
    exact GateServerHandler.closingLoop_spares env reason notifinum _
  | clock curTime timeStampNow curMsTime =>
    cases stepped
    exact .of_same rfl

end Playground.Gate
