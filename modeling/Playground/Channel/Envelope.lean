import Playground.Gate.Handler
import Playground.Zone.Step

/-! The envelope of a message between gate and agent. -/

namespace Playground.Gate

/-- `UInt32Size` and `UInt64Size`: seven bits to a byte. -/
def varintSize (value : Nat) : Nat := (List.range 9).countP (fun k => 2 ^ (7 * (k + 1)) ≤ value) + 1

/-- `GateSSMsg::ByteSize`. The number of an event fits one byte. -/
def GateSSMsg.byteSize (msg : GateSSMsg) : Nat :=
  (1 + 1) + (1 + varintSize (UInt32.ofNat msg.idx).toNat) + (1 + varintSize msg.uid.toNat) +
    (1 + varintSize msg.area.toNat) +
    (msg.ip.elim 0 fun ip => 2 + varintSize ip.toNat) +
    (msg.port.elim 0 fun port => 2 + varintSize port.toNat) +
    (msg.reason.elim 0 fun reason => 2 + varintSize (UInt32.ofInt reason).toNat)

private theorem varintSize_le (value : Nat) : varintSize value ≤ 10 := by
  have most : (List.range 9).countP (fun k => 2 ^ (7 * (k + 1)) ≤ value) ≤ (List.range 9).length :=
    List.countP_le_length
  rw [List.length_range] at most
  unfold varintSize
  omega

theorem GateSSMsg.byteSize_le (msg : GateSSMsg) : msg.byteSize ≤ 71 := by
  have optional : ∀ (value : Option Nat), (value.elim 0 fun value => 2 + varintSize value) ≤ 12 := by
    intro value
    cases value with
    | none => exact Nat.zero_le _
    | some value => exact Nat.add_le_add_left (varintSize_le value) 2
  have ip := optional (msg.ip.map UInt32.toNat)
  have port := optional (msg.port.map UInt32.toNat)
  have reason := optional (msg.reason.map fun reason => (UInt32.ofInt reason).toNat)
  rw [Option.elim_map] at ip port reason
  have idx := varintSize_le (UInt32.ofNat msg.idx).toNat
  have uid := varintSize_le msg.uid.toNat
  have area := varintSize_le msg.area.toNat
  simp only [Function.comp_def] at ip port reason
  unfold byteSize
  omega

end Playground.Gate

namespace Playground.Channel

open Framing Gate Zone

/-- What comes of a call of `SendToAgent`. -/
inductive SendResult where
  | tooMuch
  | notReady
  /-- The copying left `chnMsgSendBuffer`. -/
  | overrun
  | posted (bytes : Bytes)
deriving DecidableEq

/-- `iLength`, which is an `int`. -/
def totalLength (vBuff : List Bytes) : Int32 :=
  vBuff.foldl (fun iLength buff => iLength + Int32.ofNat buff.length) 0

/-- `memcpy` to the end of `chnMsgSendBuffer`, which has `MAX_CHANNEL_MESSAGE_SIZE` bytes. -/
def append (chnMsgSendBuffer buff : Bytes) : Option Bytes :=
  if chnMsgSendBuffer.length + buff.length ≤ 65536 then some (chnMsgSendBuffer ++ buff) else none

/-- `ChannelMsgProxy::SendToAgent` for a channel that is there or not. -/
def sendToAgent (ready : Bool) (vBuff : List Bytes) (iHeadSize : Int32) : SendResult :=
  if totalLength vBuff + 2 ≥ 65536 then .tooMuch
  else if !ready then .notReady
  else
    match vBuff.foldlM append (lengthPrefix iHeadSize.toUInt32.toUInt16.toNat) with
    | none => .overrun
    | some chnMsgSendBuffer => .posted chnMsgSendBuffer

/-- The first lines of both receivers; `none` if the message is shorter than its head says. -/
def unpack (pData : Bytes) : Option (Bytes × Bytes) :=
  match pData with
  | hi :: lo :: behind =>
    let ggclen := be16 hi lo
    let dwSize := UInt32.ofNat pData.length
    if dwSize < UInt32.ofNat ggclen + 2 then none
    else
      let csmsglen := (dwSize - UInt32.ofNat ggclen - 2).toInt32
      some (behind.take ggclen, (behind.drop ggclen).take csmsglen.toNatClampNeg)
  | _ => none

def dispatchMessageBytes (parse : Bytes → Option GateSSMsg) (env : Gate.Env) (gate : GateServerHandler)
    (pData : Bytes) : GateServerHandler × Int :=
  match unpack pData with
  | none => (gate, -1)
  | some (head, csmsg) =>
    match parse head with
    | none => (gate, -1)
    | some ggc => gate.dispatchMessage env ggc csmsg

def onGateMessageBytes (parse : Bytes → Option GateSSMsg) (env : ZoneEnv) (mgr : ZoneAgentMgr) (iSrc : Int)
    (pData : Bytes) : Option (ZoneAgentMgr × Int) :=
  match unpack pData with
  | none => some (mgr, -1)
  | some (head, csmsg) =>
    match parse head with
    | none => some (mgr, -1)
    | some ggc => mgr.onGateMessage env iSrc ggc csmsg

private theorem totalLength_eq (vBuff : List Bytes) :
    totalLength vBuff = Int32.ofNat (vBuff.map List.length).sum := by
  have running : ∀ n : Nat, vBuff.foldl (fun iLength buff => iLength + Int32.ofNat buff.length) (Int32.ofNat n) =
      Int32.ofNat (n + (vBuff.map List.length).sum) := by
    induction vBuff with
    | nil => intro n; rfl
    | cons buff vBuff ih =>
      intro n
      rw [List.foldl_cons, ← Int32.ofNat_add, ih, List.map_cons, List.sum_cons, Nat.add_assoc]
  simpa [totalLength] using running 0

/-- The check on the size says what it means as long as the sum is an `int`. -/
theorem tooMuch_iff {vBuff : List Bytes} (inRange : (vBuff.map List.length).sum + 2 < 2 ^ 31) :
    totalLength vBuff + 2 ≥ 65536 ↔ 65536 ≤ (vBuff.map List.length).sum + 2 := by
  have sum : totalLength vBuff + 2 = Int32.ofNat ((vBuff.map List.length).sum + 2) := by
    rw [totalLength_eq, Int32.ofNat_add]
    rfl
  rw [sum, ge_iff_le, Int32.le_iff_toInt_le, Int32.toInt_ofNat_of_lt inRange]
  rw [show (65536 : Int32).toInt = 65536 from rfl]
  omega

theorem foldlM_append {vBuff : List Bytes} {packed : Bytes}
    (fits : packed.length + (vBuff.map List.length).sum ≤ 65536) :
    vBuff.foldlM append packed = some (packed ++ vBuff.flatten) := by
  induction vBuff generalizing packed with
  | nil => simp
  | cons buff vBuff ih =>
    rw [List.map_cons, List.sum_cons] at fits
    have copied : append packed buff = some (packed ++ buff) := if_pos (by omega)
    rw [List.foldlM_cons, copied]
    have rest : vBuff.foldlM append (packed ++ buff) = some (packed ++ buff ++ vBuff.flatten) :=
      ih (by rw [List.length_append]; omega)
    simpa using rest

variable {head payload : Bytes} {data : Option Bytes}

def envelope (head payload : Bytes) : Bytes := lengthPrefix head.length ++ (head ++ payload)

theorem length_envelope (head payload : Bytes) :
    (envelope head payload).length = head.length + payload.length + 2 := by
  simp only [envelope, lengthPrefix, List.length_append, List.length_cons, List.length_nil]
  omega

private theorem sum_buffers (head : Bytes) (data : Option Bytes) :
    ((head :: data.toList).map List.length).sum = head.length + (data.getD []).length := by
  cases data <;> simp

private theorem lengthPrefix_toUInt16 (n : Nat) :
    lengthPrefix (Int32.ofNat n).toUInt32.toUInt16.toNat = lengthPrefix n := by
  have low : (Int32.ofNat n).toUInt32.toUInt16.toNat = n % 65536 := by
    rw [Int32.toUInt32_ofNat']
    simp
  rw [low]
  simp only [lengthPrefix, List.cons.injEq, and_true]
  constructor
  · apply UInt8.toNat_inj.mp
    simp only [UInt8.toNat_ofNat']
    omega
  · apply UInt8.toNat_inj.mp
    simp only [UInt8.toNat_ofNat']
    omega

/-- `SendToAgent` posts the envelope, unless it has 65536 bytes or more, or there is no channel. -/
theorem sendToAgent_eq (ready : Bool) (inRange : head.length + (data.getD []).length + 2 < 2 ^ 31) :
    sendToAgent ready (head :: data.toList) (Int32.ofNat head.length) =
      if head.length + (data.getD []).length + 2 ≥ 65536 then .tooMuch
      else if ready then .posted (envelope head (data.getD [])) else .notReady := by
  rw [← sum_buffers head data] at inRange ⊢
  have size := tooMuch_iff inRange
  unfold sendToAgent
  by_cases large : 65536 ≤ ((head :: data.toList).map List.length).sum + 2
  · rw [if_pos (size.mpr large), if_pos large]
  · rw [if_neg (mt size.mp large), if_neg large]
    cases ready with
    | false => rfl
    | true =>
      have content : (head :: data.toList).flatten = head ++ data.getD [] := by cases data <;> simp
      rw [lengthPrefix_toUInt16,
        foldlM_append (by simp only [lengthPrefix, List.length_cons, List.length_nil]; omega), content]
      rfl

theorem csmsglen_eq (head payload : Bytes) :
    (UInt32.ofNat (head.length + payload.length + 2) - UInt32.ofNat head.length - 2).toInt32 =
      Int32.ofNat payload.length := by
  have split : UInt32.ofNat (head.length + payload.length + 2) - UInt32.ofNat head.length - 2 =
      UInt32.ofNat payload.length := by
    rw [show head.length + payload.length + 2 = payload.length + 2 + head.length by omega, UInt32.ofNat_add,
      UInt32.add_sub_cancel, UInt32.ofNat_add]
    exact UInt32.add_sub_cancel _ 2
  rw [split]
  rfl

theorem unpack_cons {behind : Bytes} (announces : be16 hi lo = ggclen) :
    unpack (hi :: lo :: behind) =
      if UInt32.ofNat (behind.length + 2) < UInt32.ofNat ggclen + 2 then none
      else some (behind.take ggclen, (behind.drop ggclen).take
        (UInt32.ofNat (behind.length + 2) - UInt32.ofNat ggclen - 2).toInt32.toNatClampNeg) := by
  subst announces
  rfl

theorem short_iff (small : ggclen < 65536) (fits : behind + 2 < 2 ^ 31) :
    UInt32.ofNat (behind + 2) < UInt32.ofNat ggclen + 2 ↔ behind < ggclen := by
  rw [show (2 : UInt32) = UInt32.ofNat 2 from rfl, ← UInt32.ofNat_add, UInt32.lt_iff_toNat_lt,
    UInt32.toNat_ofNat_of_lt' (by simp only [UInt32.size]; omega),
    UInt32.toNat_ofNat_of_lt' (by simp only [UInt32.size]; omega)]
  omega

theorem unpack_envelope (small : head.length < 65536) (fits : head.length + payload.length + 2 < 2 ^ 31) :
    unpack (envelope head payload) = some (head, payload) := by
  have announces := be16_lengthPrefix small
  have enough : ¬ UInt32.ofNat (head.length + payload.length + 2) < UInt32.ofNat head.length + 2 := by
    rw [short_iff small fits]
    omega
  change unpack (_ :: _ :: (head ++ payload)) = _
  rw [unpack_cons announces, List.length_append, if_neg enough, csmsglen_eq,
    Int32.toNatClampNeg_ofNat_of_lt (by omega)]
  simp

private theorem receivers_envelope (fits : head.length + payload.length + 2 < 65536)
    (parse : Bytes → Option GateSSMsg) :
    (∀ env gate, dispatchMessageBytes parse env gate (envelope head payload) =
      match parse head with
      | none => (gate, -1)
      | some ggc => gate.dispatchMessage env ggc payload) ∧
    ∀ env mgr iSrc, onGateMessageBytes parse env mgr iSrc (envelope head payload) =
      match parse head with
      | none => some (mgr, -1)
      | some ggc => mgr.onGateMessage env iSrc ggc payload := by
  constructor
  · intro env gate
    rw [dispatchMessageBytes, unpack_envelope (by omega) (by omega)]
  · intro env mgr iSrc
    rw [onGateMessageBytes, unpack_envelope (by omega) (by omega)]

/-- `SendToAgent` refuses a head and a payload for their size exactly from 65536 bytes on. Otherwise
what it posts fits the buffer, and both receivers recover the head and the payload. -/
theorem envelope_round_trip (h d : Bytes) (inRange : h.length + d.length + 2 < 2 ^ 31) :
    (∀ ready, sendToAgent ready [h, d] (Int32.ofNat h.length) = .tooMuch ↔
      h.length + d.length + 2 ≥ 65536) ∧
    (sendToAgent true [h, d] (Int32.ofNat h.length) ≠ .tooMuch →
      ∃ bytes, sendToAgent true [h, d] (Int32.ofNat h.length) = .posted bytes ∧ bytes.length ≤ 65536 ∧
        unpack bytes = some (h, d) ∧
        ∀ parse : Bytes → Option GateSSMsg,
          (∀ env gate, dispatchMessageBytes parse env gate bytes =
            match parse h with
            | none => (gate, -1)
            | some ggc => gate.dispatchMessage env ggc d) ∧
          ∀ env mgr iSrc, onGateMessageBytes parse env mgr iSrc bytes =
            match parse h with
            | none => some (mgr, -1)
            | some ggc => mgr.onGateMessage env iSrc ggc d) := by
  have sends : ∀ ready, sendToAgent ready [h, d] (Int32.ofNat h.length) =
      if h.length + d.length + 2 ≥ 65536 then .tooMuch
      else if ready then .posted (envelope h d) else .notReady :=
    fun ready => @sendToAgent_eq h (some d) ready inRange
  constructor
  · intro ready
    rw [sends]
    by_cases large : h.length + d.length + 2 ≥ 65536
    · simp [large]
    · cases ready <;> simp [large]
  · intro accepted
    have fits : ¬ h.length + d.length + 2 ≥ 65536 := by
      intro large
      exact accepted ((sends true).trans (if_pos large))
    refine ⟨envelope h d, (sends true).trans (if_neg fits), ?_, unpack_envelope (by omega) (by omega),
      receivers_envelope (by omega)⟩
    rw [length_envelope]
    omega

theorem envelope_round_trip_short :
    ∃ bytes, sendToAgent true [[8, 3], [1, 2, 3]] 2 = .posted bytes ∧ unpack bytes = some ([8, 3], [1, 2, 3]) := by
  obtain ⟨bytes, posted, _, recovered, _⟩ := (envelope_round_trip [8, 3] [1, 2, 3] (by decide)).2 (by decide)
  exact ⟨bytes, posted, recovered⟩

private theorem inRange_of_byteSize {msg : GateSSMsg} (sized : head.length = msg.byteSize)
    (small : payload.length < 65536) : head.length + payload.length + 2 < 2 ^ 31 := by
  have short := msg.byteSize_le
  omega

/-- A send has the outcome `posted` exactly if the proxy posts the envelope of the head and the payload,
and the outcome `dropped` exactly if it refuses them. -/
def SendsAs (ready : Bool) (head : Bytes) (data : Option Bytes) (outcome posted dropped : α) : Prop :=
  let sent := sendToAgent ready (head :: data.toList) (Int32.ofNat head.length)
  sent = .posted (envelope head (data.getD [])) ∧ outcome = posted ∨
    (sent = .tooMuch ∨ sent = .notReady) ∧ outcome = dropped

private theorem sendsAs_of_eq {ready : Bool} {outcome posted dropped : α}
    (inRange : head.length + (data.getD []).length + 2 < 2 ^ 31)
    (same : outcome = if head.length + (data.getD []).length + 2 ≥ 65536 then dropped
      else if ready then posted else dropped) : SendsAs ready head data outcome posted dropped := by
  rw [SendsAs, sendToAgent_eq ready inRange, same]
  by_cases large : head.length + (data.getD []).length + 2 ≥ 65536
  · rw [if_pos large, if_pos large]
    exact .inr ⟨.inl rfl, rfl⟩
  · rw [if_neg large, if_neg large]
    cases ready with
    | true => exact .inl ⟨rfl, rfl⟩
    | false => exact .inr ⟨.inr rfl, rfl⟩

/-- The sends of the gate and of the agent post a message exactly if the proxy posts it, as the envelope
of its head and its payload, and drop it exactly if the proxy refuses it. -/
theorem sends_refined (gate : GateServerHandler) (mgr : ZoneAgentMgr) {gateEnv : Gate.Env} {zoneEnv : ZoneEnv}
    (ownGate : gateEnv.byteSize = GateSSMsg.byteSize) (ownZone : zoneEnv.byteSize = GateSSMsg.byteSize) (dst : Int)
    {msg : GateSSMsg} (sized : head.length = msg.byteSize) (small : (data.getD []).length < 65536) :
    SendsAs (gateEnv.channelReady dst) head data (gate.sendToAgent gateEnv dst msg data)
        { gate with posted := Function.update gate.posted dst (gate.posted dst ++ [(msg, data.getD [])]) } gate ∧
      SendsAs (zoneEnv.channelReady dst) head data (mgr.sendToAgent zoneEnv dst msg data)
        ({ mgr with posted := Function.update mgr.posted dst (mgr.posted dst ++ [(msg, data.getD [])]) }, 0)
        (mgr, -1) := by
  have inRange := inRange_of_byteSize sized small
  constructor
  · refine sendsAs_of_eq inRange ?_
    rw [GateServerHandler.sendToAgent, ownGate, ← sized]
  · refine sendsAs_of_eq inRange ?_
    rw [ZoneAgentMgr.sendToAgent, ownZone, ← sized]

theorem sends_refined_data : ∃ (gate : GateServerHandler) (msg : GateSSMsg) (head : Bytes),
    sendToAgent true [head, [1, 2, 3]] (Int32.ofNat head.length) = .posted (envelope head [1, 2, 3]) ∧
      (gate.sendToAgent { soleArea with byteSize := GateSSMsg.byteSize } 9 msg (some [1, 2, 3])).posted 9 =
        [(msg, [1, 2, 3])] ∧
      (ZoneAgentMgr.sendToAgent { soleZone with byteSize := GateSSMsg.byteSize } {} 9 msg (some [1, 2, 3])).1.posted 9 =
        [(msg, [1, 2, 3])] := by
  refine ⟨.init soleArea 4 0 fun _ => 0, { event := .data, idx := 1, uid := 7, area := 1 }, List.replicate 8 0, ?_⟩
  obtain ⟨gate, zone⟩ := @sends_refined (List.replicate 8 0) (some [1, 2, 3]) (.init soleArea 4 0 fun _ => 0) {}
    { soleArea with byteSize := GateSSMsg.byteSize } { soleZone with byteSize := GateSSMsg.byteSize } rfl rfl 9
    { event := .data, idx := 1, uid := 7, area := 1 } (by decide +kernel) (by decide)
  have posts : sendToAgent true [List.replicate 8 0, [1, 2, 3]] 8 ≠ .tooMuch ∧
      sendToAgent true [List.replicate 8 0, [1, 2, 3]] 8 ≠ .notReady := by decide +kernel
  obtain ⟨sent, queued⟩ := gate.resolve_right fun lost => lost.1.elim posts.1 posts.2
  obtain ⟨-, queuedToo⟩ := zone.resolve_right fun lost => lost.1.elim posts.1 posts.2
  refine ⟨sent, ?_, ?_⟩
  · rw [queued]
    rfl
  · rw [queuedToo]
    rfl

end Playground.Channel
