import Playground.Framing.Handing
import Playground.Gate.Safety

/-! The decoder of `OnClientDataRecv` with every copy checked. -/

namespace Playground.Gate

open Framing Component Transition

namespace Receiver

/-- `memcpy` into a buffer of `capacity` bytes, `none` where it leaves the source or the buffer. -/
def copyIn (capacity : Nat) (receiver : Receiver) (source : Bytes) (offset length : Int) :
    Option Receiver :=
  if receiver.created ∧ 0 ≤ offset ∧ 0 ≤ length ∧ offset + length ≤ source.length ∧
      receiver.iUsed + length ≤ capacity then
    some { receiver with
      pBuffer := memcpy receiver.pBuffer receiver.iUsed ((source.drop offset.toNat).take length.toNat) }
  else none

/-- `readPrefix` with its copies checked, `none` also where the whole field is there already. -/
def readPrefixChecked (capacity : Nat) (receiver : Receiver) (chunk : Bytes) : Option (Receiver × Nat) :=
  if receiver.iMsgLen = 0 then
    if 2 ≤ receiver.iUsed then none
    else if receiver.iUsed + chunk.length ≥ 2 then
      (receiver.copyIn capacity chunk 0 (2 - receiver.iUsed)).map fun copied =>
        ({ copied with iMsgLen := be16 (copied.pBuffer 0) (copied.pBuffer 1), iUsed := 0 }, 2 - receiver.iUsed)
    else (receiver.copyIn capacity chunk 0 chunk.length).map fun copied => (copied, 0)
  else some (receiver, 0)

/-- `readBody` with its copy checked. -/
def readBodyChecked (capacity : Nat) (receiver : Receiver) (chunk : Bytes) (offset : Nat) :
    Option (Receiver × Nat) :=
  (receiver.copyIn capacity chunk offset (receiver.iMsgLen - receiver.iUsed)).map fun copied =>
    (copied, offset + (receiver.iMsgLen - receiver.iUsed))

/-- An idle decoder with a buffer, whose announced length fits 16 bits. -/
structure Ready (receiver : Receiver) : Prop where
  created : receiver.created
  idle : receiver.iUsed = 0
  bounded : receiver.iMsgLen ≤ 65535

variable {receiver : Receiver} {capacity : Nat}

theorem readPrefixChecked_eq (ready : receiver.Ready) (room : 2 ≤ capacity) (chunk : Bytes) :
    receiver.readPrefixChecked capacity chunk = some (receiver.readPrefix chunk) := by
  obtain ⟨created, idle, _⟩ := ready
  unfold readPrefixChecked readPrefix
  by_cases waiting : receiver.iMsgLen = 0
  · rw [if_pos waiting, if_pos waiting, if_neg (by omega)]
    by_cases enough : receiver.iUsed + chunk.length ≥ 2
    · have fits : receiver.created ∧ 0 ≤ (0 : Int) ∧ 0 ≤ (2 - receiver.iUsed : Int) ∧
          0 + (2 - receiver.iUsed : Int) ≤ chunk.length ∧
          receiver.iUsed + (2 - receiver.iUsed : Int) ≤ capacity := by
        refine ⟨created, ?_⟩
        omega
      rw [if_pos enough, if_pos enough, copyIn, if_pos fits, Option.map_some]
      simp [idle]
    · have fits : receiver.created ∧ 0 ≤ (0 : Int) ∧ 0 ≤ (chunk.length : Int) ∧
          0 + (chunk.length : Int) ≤ chunk.length ∧ receiver.iUsed + (chunk.length : Int) ≤ capacity := by
        refine ⟨created, ?_⟩
        omega
      rw [if_neg enough, if_neg enough, copyIn, if_pos fits, Option.map_some]
      simp
  · rw [if_neg waiting, if_neg waiting]

private theorem readPrefix_ready (ready : receiver.Ready) (chunk : Bytes) :
    (receiver.readPrefix chunk).1.Ready := by
  obtain ⟨length, unused, _⟩ := receiver.readPrefix_announced chunk ready.idle
  refine ⟨(receiver.readPrefix_created chunk).trans ready.created, unused, ?_⟩
  rw [length]
  exact announced_le ready.bounded chunk

private theorem readBodyChecked_eq (ready : receiver.Ready) (room : 65535 ≤ capacity) {chunk : Bytes}
    (inside : offset + receiver.iMsgLen ≤ chunk.length) :
    receiver.readBodyChecked capacity chunk offset = some (receiver.readBody chunk offset) := by
  obtain ⟨created, idle, bounded⟩ := ready
  have fits : receiver.created ∧ 0 ≤ (offset : Int) ∧ 0 ≤ (receiver.iMsgLen - receiver.iUsed : Int) ∧
      offset + (receiver.iMsgLen - receiver.iUsed : Int) ≤ chunk.length ∧
      receiver.iUsed + (receiver.iMsgLen - receiver.iUsed : Int) ≤ capacity := by
    refine ⟨created, ?_⟩
    omega
  rw [readBodyChecked, copyIn, if_pos fits, Option.map_some, readBody]
  simp [idle]

/-- The copies of one pass stay in the buffer, and a message that is complete consumes bytes. -/
theorem read_checked (ready : receiver.Ready) (room : 65535 ≤ capacity) (chunk : Bytes) :
    ∃ head, receiver.readPrefix chunk = head ∧ receiver.readPrefixChecked capacity chunk = some head ∧
      ¬ 65535 < head.1.iMsgLen ∧
      (head.1.iMsgLen ≠ 0 → chunk.length + head.1.iUsed - head.2 ≥ head.1.iMsgLen →
        ∃ body, head.1.readBody chunk head.2 = body ∧ head.1.readBodyChecked capacity chunk head.2 = some body ∧
          body.1.Ready ∧ 0 < body.2) := by
  have usable := readPrefix_ready ready chunk
  obtain ⟨length, unused, offset⟩ := receiver.readPrefix_announced chunk ready.idle
  refine ⟨_, rfl, readPrefixChecked_eq ready (by omega) chunk, Nat.not_lt.mpr usable.bounded, ?_⟩
  generalize receiver.readPrefix chunk = head at usable length unused offset ⊢
  intro nonzero fits
  obtain ⟨_, within⟩ := offset (length ▸ nonzero)
  refine ⟨_, rfl, readBodyChecked_eq usable room (by omega), ⟨usable.created, usable.idle, usable.bounded⟩, ?_⟩
  simp [readBody, unused]
  omega

end Receiver

namespace GateServerHandler

/-- The recursion of `OnClientDataRecv` with every copy checked; `none` also where the announced length
exceeds 16 bits, and where the recursion is deeper than `fuel`. -/
def recvChecked (env : Env) (capacity : Nat) :
    Nat → GateServerHandler → Int → Bytes → Option (GateServerHandler × Int)
  | 0, _, _, _ => none
  | fuel + 1, gate, fd, chunk =>
    match gate.getConnectionByFD fd with
    | none => some (gate.emit (.closeClient fd), -1)
    | some i =>
      let gate := gate.countUpload chunk.length
      ((gate.vecConnections i).receiver.readPrefixChecked capacity chunk).bind fun head =>
        let gate := gate.setReceiver i head.1
        if 65535 < head.1.iMsgLen then none
        else if head.1.iMsgLen = 0 then some (gate, 0)
        else if chunk.length + head.1.iUsed - head.2 ≥ head.1.iMsgLen then
          (head.1.readBodyChecked capacity chunk head.2).bind fun body =>
            let done := gate.completeMessage env i body.1
            if chunk.length ≤ body.2 then some done
            else
              (recvChecked env capacity fuel done.1 fd (chunk.drop body.2)).map fun rest =>
                (rest.1, done.2 + rest.2)
        else some (gate, 0)

private theorem completeMessage_ready (env : Env) (gate : GateServerHandler) (found : gate.table.byFD fd = some i)
    (ready : body.Ready) (still : (gate.completeMessage env i body).1.table.byFD fd = some j) :
    j = i ∧ ((gate.completeMessage env i body).1.receivers i).Ready := by
  have live : gate.table.Live i := (Table.byFD_some found).2.2.2
  obtain ⟨acts, handled, ran, reset, _⟩ := completeMessage_handled env gate i body live
  rw [ran] at still
  refine ⟨?_, by rw [reset]; exact ⟨ready.created, rfl, Nat.zero_le _⟩⟩
  rcases handled.outcome found with ⟨_, gone⟩ | ⟨_, kept⟩
  · cases gone.symm.trans still
  · exact Option.some.inj (still.symm.trans kept)

theorem recvChecked_eq (env : Env) (room : 65535 ≤ capacity) (fuel : Nat) (gate : GateServerHandler)
    (fd : Int) (chunk : Bytes) (enough : chunk.length < fuel)
    (ready : ∀ i, gate.table.byFD fd = some i → (gate.receivers i).Ready) :
    recvChecked env capacity fuel gate fd chunk = some (recvLoop env fuel gate fd chunk) := by
  induction fuel generalizing gate chunk with
  | zero => exact absurd enough (Nat.not_lt_zero _)
  | succ fuel ih =>
    rw [recvChecked, recvLoop, getConnectionByFD_eq]
    cases found : gate.table.byFD fd with
    | none => rfl
    | some i =>
      dsimp only
      have receiver : ((gate.countUpload chunk.length).vecConnections i).receiver = gate.receivers i := rfl
      have here := ready i found
      obtain ⟨head, read, copied, short, reads⟩ := Receiver.read_checked here room chunk
      have clear : ¬ ((gate.receivers i).iMsgLen = 0 ∧ (gate.receivers i).iUsed ≥ 2) := by
        rw [here.idle]
        omega
      rw [receiver, copied, Option.bind_some, if_neg clear, read, if_neg short]
      by_cases nothing : head.1.iMsgLen = 0
      · rw [if_pos nothing, if_pos nothing]
      · rw [if_neg nothing, if_neg nothing]
        by_cases fits : chunk.length + head.1.iUsed - head.2 ≥ head.1.iMsgLen
        · obtain ⟨body, same, copied, usable, consumed⟩ := reads nothing fits
          rw [if_pos fits, if_pos fits, copied, Option.bind_some, same]
          split
          · rfl
          · have announced : ((gate.countUpload chunk.length).setReceiver i head.1).table.byFD fd = some i := by
              rw [table_setReceiver]
              exact found
            rw [ih _ _ (by rw [List.length_drop]; omega) ?_]
            · rfl
            · intro j still
              obtain ⟨rfl, next⟩ := completeMessage_ready env _ announced usable still
              exact next
        · rw [if_neg fits, if_neg fits]

theorem Completes.ready (completes : Completes env i gate chunk body rest done)
    (ready : (gate.receivers i).Ready) : (done.1.receivers i).Ready := by
  rw [completes.reset]
  exact ⟨completes.created.trans ready.created, rfl, Nat.zero_le _⟩

theorem Recvs.ready (recvs : Recvs env i fd gate chunk result) (ready : (gate.receivers i).Ready) :
    (result.1.receivers i).Ready := by
  induction recvs with
  | nothing _ unused created decoded =>
    rw [receivers_setReceiver, Function.update_self]
    exact ⟨created.trans ready.created, unused,
      (congrArg Prod.fst decoded).ge.trans (decode_le _ _ ready.bounded)⟩
  | last _ completes => exact completes.ready ready
  | gone _ completes _ => exact completes.ready ready
  | more _ completes _ _ ih => exact ih (completes.ready ready)

/-- Every decoder is idle between two calls, and those of live slots have a buffer. -/
structure Receiving (gate : GateServerHandler) : Prop where
  idle : gate.Idle
  bounded : ∀ j, (gate.receivers j).iMsgLen ≤ 65535
  created : ∀ j, gate.table.Live j → (gate.receivers j).created

variable {gate next : GateServerHandler}

theorem Receiving.ready (receiving : gate.Receiving) (live : gate.table.Live j) :
    (gate.receivers j).Ready :=
  ⟨receiving.created j live, receiving.idle j, receiving.bounded j⟩

theorem Receiving.keep (receiving : gate.Receiving) (receivers : next.receivers = gate.receivers)
    (live : ∀ j, next.table.Live j → gate.table.Live j) : next.Receiving where
  idle j := by rw [receivers]; exact receiving.idle j
  bounded j := by rw [receivers]; exact receiving.bounded j
  created j alive := by rw [receivers]; exact receiving.created j (live j alive)

theorem receiving_init (env : Env) (iMaxConnections : Nat) (curMsTime : UInt64) (junk : Nat → UInt32) :
    (GateServerHandler.init env iMaxConnections curMsTime junk).Receiving where
  idle _ := rfl
  bounded _ := Nat.zero_le _
  created _ live := absurd rfl live

end GateServerHandler

theorem Act.slot_of_taken {act : Act} (taken : act.taken = some (i, client)) : act.slot = some i := by
  cases act with
  | accept | refuse => exact congrArg some (congrArg Prod.fst (Option.some.inj taken))
  | _ => cases taken

theorem live_of_step (stepped : ActStep env table act next) (keeps : act.taken = none)
    (live : next.Live j) :
    table.Live j := by
  obtain ⟨enabled, rfl⟩ := stepped
  cases act with
  | message i payload => exact live
  | write i written => exact live
  | closeClient fd => exact live
  | accept i client written => cases keeps
  | refuse i client written => cases keeps
  | authorize i uid area dst written =>
    exact Table.live_before enabled.1 (Table.apply_authorize_slots ..) live
  | await i uid area dst => exact Table.live_before enabled.1 rfl live
  | forward i data => simpa [Table.apply, Table.Live] using live
  | remove i reason =>
    by_cases same : j = i
    · subst same
      exact absurd (by simp [Table.apply]) live
    · simpa [Table.apply, Table.Live, same] using live

theorem live_of_steps (steps : Steps (ActStep env) table acts next) (keeps : ∀ act ∈ acts, act.taken = none)
    (live : next.Live j) : table.Live j := by
  induction steps with
  | nil => exact live
  | cons first rest ih =>
    have before := ih (fun act member => keeps act (List.mem_cons_of_mem _ member)) live
    exact live_of_step first (keeps _ List.mem_cons_self) before

namespace GateServerHandler

variable {gate next : GateServerHandler}

theorem checkConnxFree_receivers (env : Env) (gate : GateServerHandler) (idx : Nat) :
    (gate.checkConnxFree env idx).receivers = gate.receivers := by
  unfold checkConnxFree
  split
  · rfl
  · dsimp only
    split
    · exact receivers_removeConnection env gate _ _
    · split
      · exact (receivers_modify_same _ _ _ rfl).trans (addIdleTimer_frame gate _).2
      · rfl

theorem dispatchMessage_receivers (env : Env) (gate : GateServerHandler) (ggc : GateSSMsg) (csmsg : Bytes) :
    (gate.dispatchMessage env ggc csmsg).1.receivers = gate.receivers := by
  rcases StepActs.dispatchMessage_acts env gate ggc csmsg with
    ⟨_, same⟩ | ⟨_, ⟨_, same⟩ | ⟨_, sends⟩ | ⟨_, same⟩⟩
  · rw [same]
  · rw [same, receivers_removeConnection]
  · exact sends.receivers
  · rw [same]

theorem onConnectionClosed_receivers (env : Env) (gate : GateServerHandler) (fd : Int) :
    (gate.onConnectionClosed env fd).1.receivers = gate.receivers := by
  unfold onConnectionClosed
  dsimp only
  split
  · rfl
  · exact receivers_removeConnection env _ _ _

theorem onClosing_receivers (env : Env) (gate : GateServerHandler) (reason : Int) (notifinum : Nat) :
    (gate.onClosing env reason notifinum).1.receivers = gate.receivers := by
  obtain ⟨_, _, _, _, kept⟩ := closingLoop_acts env reason notifinum (gate.beginClosing reason)
  rw [onClosing_fst, kept]
  exact (gate.beginClosing_frame reason).2.1

private theorem createBuffer_receivers (env : Env) (gate : GateServerHandler) (i : Nat) :
    ∃ created, (gate.createBuffer env i).1.receivers =
        Function.update gate.receivers i { gate.receivers i with created } ∧
      ((gate.createBuffer env i).2 = false → created = true) := by
  unfold createBuffer
  dsimp only
  split
  next already =>
    refine ⟨true, ?_, fun _ => rfl⟩
    have same : { gate.receivers i with created := true } = gate.receivers i := by
      rw [← show (gate.receivers i).created = true from already]
    rw [same]
    exact (Function.update_eq_self i gate.receivers).symm
  next =>
    refine ⟨_, receivers_setReceiver _ i _, fun succeeded => ?_⟩
    simpa using succeeded

private theorem occupy_receivers (gate : GateServerHandler) (i : Nat) (client : TcpSocket) :
    (gate.occupy i client).receivers =
      Function.update gate.receivers i { gate.receivers i with iMsgLen := 0, iUsed := 0 } :=
  receivers_modify gate i fun conn => { conn.init with bState := .connected, cliSocket := client }

theorem onNewConnection_receivers (env : Env) (gate : GateServerHandler) (client : TcpSocket)
    (receiving : gate.Receiving) (returned : gate.onNewConnection env client = some result) :
    ∃ i, (gate.countAlive 1).getNextIdx = some i ∧ (∀ j, j ≠ i → result.1.receivers j = gate.receivers j) ∧
      (result.1.receivers i).iUsed = 0 ∧ (result.1.receivers i).iMsgLen ≤ 65535 ∧
      (result.1.table.Live i → (result.1.receivers i).created) := by
  obtain ⟨i, found, rfl⟩ := Option.map_eq_some_iff.mp returned
  have free := (getNextIdx_some (gate.countAlive 1) found).2.2
  obtain ⟨table, _⟩ := createBuffer_frame env (gate.countAlive 1) i
  obtain ⟨created, receivers, allocated⟩ := createBuffer_receivers env (gate.countAlive 1) i
  have counted : (gate.countAlive 1).receivers = gate.receivers := rfl
  generalize (gate.countAlive 1).createBuffer env i = buffer at table receivers allocated ⊢
  rw [counted] at receivers
  refine ⟨i, found, ?_⟩
  dsimp only
  split
  · have kept : (buffer.1.emit (.closeClient client.fd)).receivers = buffer.1.receivers := rfl
    rw [kept, receivers]
    refine ⟨fun j other => Function.update_of_ne other _ _, ?_⟩
    rw [Function.update_self]
    exact ⟨receiving.idle i, receiving.bounded i, fun live => absurd (table ▸ live) free⟩
  next fine =>
    have succeeded : created = true := allocated (by simpa using (not_or.mp fine).1)
    have sends := sendToClient_sends env (buffer.1.occupy i client) i { cmd := gateNeedAuth }
    rw [notifyNeedAuth]
    generalize (buffer.1.occupy i client).sendToClient env i { cmd := gateNeedAuth } = notified at sends ⊢
    have taken : notified.1.receivers = Function.update gate.receivers i
        { gate.receivers i with created := true, iMsgLen := 0, iUsed := 0 } := by
      rw [sends.receivers, occupy_receivers, receivers, Function.update_idem, Function.update_self, succeeded]
    have outcome : ∀ final : GateServerHandler, final.receivers = notified.1.receivers →
        (∀ j, j ≠ i → final.receivers j = gate.receivers j) ∧ (final.receivers i).iUsed = 0 ∧
          (final.receivers i).iMsgLen ≤ 65535 ∧ (final.table.Live i → (final.receivers i).created) := by
      intro final same
      rw [same, taken]
      refine ⟨fun j other => Function.update_of_ne other _ _, ?_⟩
      rw [Function.update_self]
      exact ⟨rfl, Nat.zero_le _, fun _ => rfl⟩
    split
    · exact outcome _ (receivers_closeConnection _ _)
    · exact outcome _ (register_frame _ _ _).2

theorem Receiving.newConnection (receiving : gate.Receiving)
    (returned : gate.onNewConnection env client = some result) : result.1.Receiving := by
  obtain ⟨i, found, others, idle, bounded, created⟩ :=
    onNewConnection_receivers env gate client receiving returned
  obtain ⟨act, takes, _, stepped, _⟩ := onNewConnection_acts env gate client returned
  have elsewhere : ∀ j, j ≠ i → result.1.table.Live j → gate.table.Live j := by
    intro j other live
    rcases takes with rfl | ⟨k, taken, same⟩
    · exact live_of_step stepped rfl live
    · cases found.symm.trans same
      have apart : act.slot ≠ some j := by
        rw [Act.slot_of_taken taken]
        exact fun same => other (Option.some.inj same).symm
      have slot := Table.apply_slots_other env gate.table j act apart
      rw [stepped.2] at slot
      rwa [Table.Live, slot] at live
  refine ⟨fun j => ?_, fun j => ?_, fun j live => ?_⟩ <;> by_cases own : j = i
  · exact own ▸ idle
  · rw [others j own]
    exact receiving.idle j
  · exact own ▸ bounded
  · rw [others j own]
    exact receiving.bounded j
  · subst own
    exact created live
  · rw [others j own]
    exact receiving.created j (elsewhere j own live)

theorem Receiving.clientDataRecv (receiving : gate.Receiving) (env : Env) (fd : Int) (chunk : Bytes)
    (live : ∀ j, (gate.onClientDataRecv env fd chunk).1.table.Live j → gate.table.Live j) :
    (gate.onClientDataRecv env fd chunk).1.Receiving := by
  cases found : gate.table.byFD fd with
  | none =>
    rw [onClientDataRecv_gone env gate chunk found] at live ⊢
    exact receiving.keep rfl live
  | some i =>
    have ready := receiving.ready (Table.byFD_some found).2.2.2
    have own : ((gate.onClientDataRecv env fd chunk).1.receivers i).Ready :=
      (recvLoop_recvs env _ gate chunk (by omega) found ready.idle).ready ready
    have others := (onClientDataRecv_consumed env gate chunk found ready.idle).others
    refine ⟨fun j => ?_, fun j => ?_, fun j alive => ?_⟩ <;> by_cases same : j = i
    · exact same ▸ own.idle
    · rw [others j same]
      exact receiving.idle j
    · exact same ▸ own.bounded
    · rw [others j same]
      exact receiving.bounded j
    · exact same ▸ own.created
    · rw [others j same]
      exact receiving.created j (live j alive)

theorem Receiving.step (stepped : EventStep env gate ev next) (receiving : gate.Receiving) :
    next.Receiving := by
  obtain ⟨acts, acted⟩ := step_acts receiving.idle stepped
  by_cases accepts : ∃ client, ev = .newConnection client
  · obtain ⟨client, rfl⟩ := accepts
    obtain ⟨result, returned, rfl⟩ := Option.map_eq_some_iff.mp stepped
    exact receiving.newConnection returned
  · have keeps : ∀ act ∈ acts, act.taken = none := by
      intro act member
      cases takes : act.taken with
      | none => rfl
      | some taken => exact absurd ⟨_, (acted.taken act member taken.1 taken.2 takes).1⟩ accepts
    have live : ∀ j, next.table.Live j → gate.table.Live j := fun j => live_of_steps acted.steps keeps
    cases ev with
    | newConnection client => exact absurd ⟨client, rfl⟩ accepts
    | clientDataRecv fd chunk =>
      cases stepped
      exact receiving.clientDataRecv env fd chunk live
    | connectionClosed fd =>
      cases stepped
      exact receiving.keep (onConnectionClosed_receivers env gate fd) live
    | checkConnxFree idx =>
      cases stepped
      exact receiving.keep (checkConnxFree_receivers env gate idx) live
    | agentMessage ggc csmsg =>
      cases stepped
      exact receiving.keep (dispatchMessage_receivers env gate ggc csmsg) live
    | closing reason notifinum =>
      cases stepped
      exact receiving.keep (onClosing_receivers env gate reason notifinum) live
    | clock curTime timeStampNow curMsTime =>
      cases stepped
      exact receiving.keep rfl live

theorem run_receiving
    (run : Steps (EventStep env) (GateServerHandler.init env iMaxConnections curMsTime junk) events final) :
    final.Receiving :=
  run.invariant Receiving.step (receiving_init env _ _ _)

end GateServerHandler

end Playground.Gate
