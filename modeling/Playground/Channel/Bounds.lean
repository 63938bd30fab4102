import Playground.Channel.Envelope

/-! Which bytes of a message its receivers read. -/

namespace Playground.Channel

open Framing Gate Zone

/-- What a receiver must not do with a message. -/
inductive Fault where
  /-- A byte is read that is not below `dwSize`. -/
  | beyond
  /-- The length of the payload is negative. -/
  | negative
deriving DecidableEq

structure Received where
  iSrc : Int
  dwSize : UInt32
  pData : Bytes
  whole : pData.length = dwSize.toNat

theorem not_ofNat_neg (fits : n < 2 ^ 31) : ¬ Int32.ofNat n < 0 := by
  rw [Int32.lt_iff_toInt_lt, Int32.toInt_ofNat_of_lt fits]
  exact Int.not_lt.mpr (Int.natCast_nonneg n)

theorem length_take_msglen (part : Bytes) :
    (part.take (Int32.ofNat part.length).toUInt32.toNat).length = (Int32.ofNat part.length).toUInt32.toNat := by
  rw [Int32.toUInt32_ofNat', UInt32.toNat_ofNat', List.length_take]
  exact min_eq_left (Nat.mod_le _ _)

/-- The end of `Channel::Read`: the size is kept in an `int`, and `memcpy` is called with a negative one. -/
def receive (iSrc : Int) (part : Bytes) : Option Received :=
  let msglen := Int32.ofNat part.length
  if msglen < 0 then none
  else some
    { iSrc
      dwSize := msglen.toUInt32
      pData := part.take msglen.toUInt32.toNat
      whole := length_take_msglen part }

namespace Received

variable {msg : Received} {parse : Bytes → Option GateSSMsg}

def byteAt (msg : Received) (i : Nat) : Except Fault UInt8 :=
  match msg.pData[i]? with
  | some byte => .ok byte
  | none => .error .beyond

def bytesAt (msg : Received) (start size : Nat) : Except Fault Bytes :=
  if start + size ≤ msg.dwSize.toNat then .ok ((msg.pData.drop start).take size) else .error .beyond

/-- The first lines of both receivers: `ggclen` and `ggc`, unless they return an error. -/
def head (parse : Bytes → Option GateSSMsg) (msg : Received) : Except Fault (Option (Nat × GateSSMsg)) := do
  let hi ← msg.byteAt 0
  let lo ← msg.byteAt 1
  let ggclen := be16 hi lo
  if msg.dwSize < UInt32.ofNat ggclen + 2 then return none
  else
    let bytes ← msg.bytesAt 2 ggclen
    return (parse bytes).map fun ggc => (ggclen, ggc)

def payload (msg : Received) (ggclen : Nat) : Except Fault Bytes :=
  let csmsglen := (msg.dwSize - UInt32.ofNat ggclen - 2).toInt32
  if csmsglen < 0 then .error .negative else msg.bytesAt (2 + ggclen) csmsglen.toNatClampNeg

end Received

def dispatchMessageChecked (parse : Bytes → Option GateSSMsg) (env : Gate.Env) (gate : GateServerHandler)
    (msg : Received) : Except Fault (GateServerHandler × Int) := do
  match ← msg.head parse with
  | none => return (gate, -1)
  | some (ggclen, ggc) =>
    let csmsg ← msg.payload ggclen
    return gate.dispatchMessage env ggc csmsg

/-- `ZoneAgentMgr::OnGateMessage`, which looks for the agent of the area first. -/
def onGateMessageChecked (parse : Bytes → Option GateSSMsg) (env : ZoneEnv) (mgr : ZoneAgentMgr)
    (msg : Received) : Except Fault (Option (ZoneAgentMgr × Int)) := do
  match ← msg.head parse with
  | none => return some (mgr, -1)
  | some (ggclen, ggc) =>
    if !env.areas ggc.area then return some (mgr, -1)
    else
      let csmsg ← msg.payload ggclen
      return mgr.onGateMessage env msg.iSrc ggc csmsg

theorem cons_cons_eq_envelope {behind : Bytes} (enough : be16 hi lo ≤ behind.length) :
    hi :: lo :: behind = envelope (behind.take (be16 hi lo)) (behind.drop (be16 hi lo)) := by
  rw [envelope, List.length_take_of_le enough, lengthPrefix_be16, List.take_append_drop]
  rfl

theorem unpack_eq_some_iff {pData head : Bytes} (fits : pData.length < 2 ^ 31) :
    unpack pData = some (head, csmsg) ↔ pData = envelope head csmsg ∧ head.length < 65536 := by
  constructor
  · intro unpacked
    match pData, fits with
    | [], _ => cases unpacked
    | [_], _ => cases unpacked
    | hi :: lo :: behind, fits =>
      rw [List.length_cons, List.length_cons] at fits
      have small := be16_le hi lo
      by_cases enough : be16 hi lo ≤ behind.length
      · have sized := List.length_take_of_le enough
        have rest : (behind.drop (be16 hi lo)).length = behind.length - be16 hi lo := List.length_drop
        rw [cons_cons_eq_envelope enough, unpack_envelope (by omega) (by omega)] at unpacked
        cases unpacked
        exact ⟨cons_cons_eq_envelope enough, by omega⟩
      · rw [unpack_cons rfl, if_pos ((short_iff (by omega) fits).mpr (Nat.not_le.mp enough))] at unpacked
        cases unpacked
  · rintro ⟨rfl, small⟩
    rw [length_envelope] at fits
    exact unpack_envelope small fits

theorem receive_small {msg : Received} (received : receive iSrc part = some msg) :
    msg.pData.length < 2 ^ 31 := by
  unfold receive at received
  dsimp only at received
  split at received
  · cases received
  next positive =>
    cases received
    rw [length_take_msglen, Int32.toNat_toUInt32_of_le (Int32.not_lt.mp positive)]
    exact Int32.toNatClampNeg_lt _

namespace Received

variable {msg : Received} {parse : Bytes → Option GateSSMsg}

theorem dwSize_eq (msg : Received) : msg.dwSize = UInt32.ofNat msg.pData.length := by
  rw [msg.whole, UInt32.ofNat_toNat]

theorem bytesAt_envelope {head csmsg : Bytes} (packed : msg.pData = envelope head csmsg) :
    msg.bytesAt 2 head.length = .ok head ∧ msg.bytesAt (2 + head.length) csmsg.length = .ok csmsg := by
  have size := msg.whole
  rw [packed, length_envelope] at size
  have behind : msg.pData.drop 2 = head ++ csmsg := by
    rw [packed]
    rfl
  constructor
  · rw [bytesAt, if_pos (by omega), behind, List.take_left]
  · rw [bytesAt, if_pos (by omega), ← List.drop_drop, behind, List.drop_left, List.take_length]

theorem payload_envelope {head : Bytes} (packed : msg.pData = envelope head csmsg)
    (fits : msg.pData.length < 2 ^ 31) : msg.payload head.length = .ok csmsg := by
  rw [packed, length_envelope] at fits
  have csmsglen : (msg.dwSize - UInt32.ofNat head.length - 2).toInt32 = Int32.ofNat csmsg.length := by
    rw [dwSize_eq, packed, length_envelope, csmsglen_eq]
  rw [payload, csmsglen, if_neg (not_ofNat_neg (by omega)), Int32.toNatClampNeg_ofNat_of_lt (by omega)]
  exact (bytesAt_envelope packed).2

private theorem head_cons (data : msg.pData = hi :: lo :: behind) :
    msg.head parse =
      if msg.dwSize < UInt32.ofNat (be16 hi lo) + 2 then .ok none
      else (msg.bytesAt 2 (be16 hi lo)).map fun bytes => (parse bytes).map fun ggc => (be16 hi lo, ggc) := by
  have first : msg.byteAt 0 = .ok hi := by
    rw [byteAt, data]
    rfl
  have second : msg.byteAt 1 = .ok lo := by
    rw [byteAt, data]
    rfl
  rw [head, first, second]
  rfl

theorem head_eq (long : 2 ≤ msg.dwSize) (fits : msg.pData.length < 2 ^ 31) :
    msg.head parse = .ok ((unpack msg.pData).bind fun parts =>
      (parse parts.1).map fun ggc => (parts.1.length, ggc)) := by
  have size : 2 ≤ msg.pData.length := msg.whole ▸ UInt32.le_iff_toNat_le.mp long
  match data : msg.pData, size with
  | hi :: lo :: behind, _ =>
    have small := be16_le hi lo
    rw [data] at fits
    have test : msg.dwSize < UInt32.ofNat (be16 hi lo) + 2 ↔ behind.length < be16 hi lo := by
      rw [dwSize_eq, data]
      exact short_iff (by omega) fits
    rw [head_cons data]
    by_cases enough : be16 hi lo ≤ behind.length
    · have sized := List.length_take_of_le enough
      have packed := cons_cons_eq_envelope enough
      have unpacked := (unpack_eq_some_iff fits).mpr ⟨packed, by omega⟩
      have bytes := (bytesAt_envelope (data.trans packed)).1
      rw [sized] at bytes
      rw [if_neg (mt test.mp (Nat.not_lt.mpr enough)), unpacked, bytes]
      simp only [Except.map, Option.bind_some, sized]
    · rw [if_pos (test.mpr (Nat.not_le.mp enough)), unpack_cons rfl,
        if_pos ((short_iff (by omega) fits).mpr (Nat.not_le.mp enough))]
      rfl

theorem head_short (short : ¬ 2 ≤ msg.dwSize) : msg.head parse = .error .beyond := by
  have size : ¬ 2 ≤ msg.pData.length := fun two => short (UInt32.le_iff_toNat_le.mpr (msg.whole ▸ two))
  match data : msg.pData, size with
  | [], _ =>
    rw [head, byteAt, data]
    rfl
  | [hi], _ =>
    have first : msg.byteAt 0 = .ok hi := by
      rw [byteAt, data]
      rfl
    rw [head, first, byteAt, data]
    rfl
  | _ :: _ :: _, size => exact absurd (Nat.le_add_left 2 _) size

end Received

variable {parse : Bytes → Option GateSSMsg} {msg : Received}

theorem dispatchMessageChecked_eq (long : 2 ≤ msg.dwSize) (fits : msg.pData.length < 2 ^ 31) (env : Gate.Env)
    (gate : GateServerHandler) :
    dispatchMessageChecked parse env gate msg = .ok (dispatchMessageBytes parse env gate msg.pData) := by
  rw [dispatchMessageChecked, Received.head_eq long fits, dispatchMessageBytes]
  cases unpacked : unpack msg.pData with
  | none => rfl
  | some parts =>
    have payload := Received.payload_envelope ((unpack_eq_some_iff fits).mp unpacked).1 fits
    cases parsed : parse parts.1 with
    | none => simp [parsed, bind, Except.bind, pure, Except.pure]
    | some ggc => simp [parsed, payload, bind, Except.bind, pure, Except.pure]

theorem onGateMessageChecked_eq (long : 2 ≤ msg.dwSize) (fits : msg.pData.length < 2 ^ 31) (env : ZoneEnv)
    (mgr : ZoneAgentMgr) :
    onGateMessageChecked parse env mgr msg = .ok (onGateMessageBytes parse env mgr msg.iSrc msg.pData) := by
  rw [onGateMessageChecked, Received.head_eq long fits, onGateMessageBytes]
  cases unpacked : unpack msg.pData with
  | none => rfl
  | some parts =>
    have payload := Received.payload_envelope ((unpack_eq_some_iff fits).mp unpacked).1 fits
    cases parsed : parse parts.1 with
    | none => simp [parsed, bind, Except.bind, pure, Except.pure]
    | some ggc =>
      cases known : env.areas ggc.area <;>
        simp [parsed, payload, known, ZoneAgentMgr.onGateMessage, bind, Except.bind, pure, Except.pure]

theorem dispatchMessageChecked_short (short : ¬ 2 ≤ msg.dwSize) (env : Gate.Env) (gate : GateServerHandler) :
    dispatchMessageChecked parse env gate msg = .error .beyond := by
  rw [dispatchMessageChecked, Received.head_short short]
  rfl

theorem onGateMessageChecked_short (short : ¬ 2 ≤ msg.dwSize) (env : ZoneEnv) (mgr : ZoneAgentMgr) :
    onGateMessageChecked parse env mgr msg = .error .beyond := by
  rw [onGateMessageChecked, Received.head_short short]
  rfl

private theorem length_foldlM_append {vBuff : List Bytes} {packed bytes : Bytes}
    (copied : vBuff.foldlM append packed = some bytes) (room : packed.length ≤ 65536) :
    packed.length ≤ bytes.length ∧ bytes.length ≤ 65536 := by
  induction vBuff generalizing packed with
  | nil =>
    cases copied
    exact ⟨le_rfl, room⟩
  | cons buff vBuff ih =>
    rw [List.foldlM_cons, append] at copied
    split at copied
    next fits =>
      have kept := ih copied (by rw [List.length_append]; exact fits)
      rw [List.length_append] at kept
      omega
    · cases copied

private theorem length_posted {bytes : Bytes} (posted : sendToAgent ready vBuff iHeadSize = .posted bytes) :
    2 ≤ bytes.length ∧ bytes.length ≤ 65536 := by
  unfold sendToAgent at posted
  split at posted
  · cases posted
  · split at posted
    · cases posted
    · split at posted
      · cases posted
      next copied =>
        cases posted
        exact length_foldlM_append copied (show 2 ≤ 65536 by decide)

private theorem receive_eq {part : Bytes} (fits : part.length < 2 ^ 31) (iSrc : Int) :
    ∃ msg, receive iSrc part = some msg ∧ msg.iSrc = iSrc ∧ msg.pData = part := by
  have size : (Int32.ofNat part.length).toUInt32.toNat = part.length := by
    rw [Int32.toUInt32_ofNat', UInt32.toNat_ofNat_of_lt' (by simp only [UInt32.size]; omega)]
  exact ⟨_, if_neg (not_ofNat_neg fits), rfl, List.take_of_length_le (Nat.le_of_eq size.symm)⟩

/-- Whatever `SendToAgent` posts arrives whole, and neither receiver reads anything outside of it. -/
theorem posted_confined (posted : sendToAgent ready vBuff iHeadSize = .posted bytes) (iSrc : Int) :
    ∃ msg, receive iSrc bytes = some msg ∧ msg.pData = bytes ∧
      (∀ env gate, dispatchMessageChecked parse env gate msg = .ok (dispatchMessageBytes parse env gate bytes)) ∧
      ∀ env mgr, onGateMessageChecked parse env mgr msg = .ok (onGateMessageBytes parse env mgr iSrc bytes) := by
  obtain ⟨two, room⟩ := length_posted posted
  obtain ⟨msg, received, rfl, rfl⟩ := receive_eq (show bytes.length < 2 ^ 31 by omega) iSrc
  have long : 2 ≤ msg.dwSize := UInt32.le_iff_toNat_le.mpr (msg.whole ▸ two)
  have fits := receive_small received
  exact ⟨msg, received, rfl, dispatchMessageChecked_eq long fits, onGateMessageChecked_eq long fits⟩

/-- The parser of one head, which names the client of slot 1. -/
def parseOne (head : Bytes) : Option GateSSMsg :=
  if head = [8, 3] then some { event := .data, idx := 1, uid := 7, area := 1 } else none

theorem posted_confined_short :
    ∃ bytes msg, sendToAgent true [[8, 3], [1, 2, 3]] 2 = .posted bytes ∧ receive 1 bytes = some msg ∧
      msg.pData = [0, 2, 8, 3, 1, 2, 3] ∧
      (∀ env gate, dispatchMessageChecked parseOne env gate msg =
        .ok (gate.dispatchMessage env { event := .data, idx := 1, uid := 7, area := 1 } [1, 2, 3])) ∧
      ∀ env mgr, onGateMessageChecked parseOne env mgr msg =
        .ok (mgr.onGateMessage env 1 { event := .data, idx := 1, uid := 7, area := 1 } [1, 2, 3]) := by
  have posted : sendToAgent true [[8, 3], [1, 2, 3]] 2 = .posted (envelope [8, 3] [1, 2, 3]) := by decide
  obtain ⟨msg, received, whole, gate, zone⟩ := posted_confined posted 1
  exact ⟨_, msg, posted, received, whole, gate, zone⟩

def WellFormed (parse : Bytes → Option GateSSMsg) (pData : Bytes) : Prop :=
  ∃ head csmsg, pData = envelope head csmsg ∧ head.length < 65536 ∧ (parse head).isSome

/-- A receiver stays inside the message, and refuses it unless it is well formed. -/
def Confined {Result : Type} (parse : Bytes → Option GateSSMsg) (msg : Received) (refused : Result)
    (handled : Except Fault Result) : Prop :=
  ∃ result, handled = .ok result ∧ (¬ WellFormed parse msg.pData → result = refused)

private theorem not_confined_of_fault
    (faulted : handled = .error fault) : ¬ Confined parse msg refused handled := by
  rintro ⟨result, handled, _⟩
  cases faulted.symm.trans handled

theorem unpack_malformed (fits : msg.pData.length < 2 ^ 31) (malformed : ¬ WellFormed parse msg.pData)
    (unpacked : unpack msg.pData = some (head, csmsg)) : parse head = none := by
  obtain ⟨packed, small⟩ := (unpack_eq_some_iff fits).mp unpacked
  cases parsed : parse head with
  | none => rfl
  | some ggc => exact absurd ⟨head, csmsg, packed, small, by rw [parsed]; rfl⟩ malformed

private theorem dispatchMessageBytes_malformed (fits : msg.pData.length < 2 ^ 31)
    (malformed : ¬ WellFormed parse msg.pData) (env : Gate.Env) (gate : GateServerHandler) :
    dispatchMessageBytes parse env gate msg.pData = (gate, -1) := by
  rw [dispatchMessageBytes]
  cases unpacked : unpack msg.pData with
  | none => rfl
  | some parts => simp only [unpack_malformed fits malformed unpacked]

private theorem onGateMessageBytes_malformed (fits : msg.pData.length < 2 ^ 31)
    (malformed : ¬ WellFormed parse msg.pData) (env : ZoneEnv) (mgr : ZoneAgentMgr) (iSrc : Int) :
    onGateMessageBytes parse env mgr iSrc msg.pData = some (mgr, -1) := by
  rw [onGateMessageBytes]
  cases unpacked : unpack msg.pData with
  | none => rfl
  | some parts => simp only [unpack_malformed fits malformed unpacked]

/-- Both receivers stay inside the messages of two bytes or more that `Channel::Read` hands out, find no
negative length there, and return an error with nothing changed for the malformed ones. They read the
length behind the end of every shorter message. -/
theorem receivers_confined_iff {iSrc : Int} {part : Bytes} (received : receive iSrc part = some msg)
    (parse : Bytes → Option GateSSMsg) :
    (∀ env gate, Confined parse msg (gate, -1) (dispatchMessageChecked parse env gate msg) ↔ 2 ≤ msg.dwSize) ∧
    ∀ env mgr, Confined parse msg (some (mgr, -1)) (onGateMessageChecked parse env mgr msg) ↔ 2 ≤ msg.dwSize := by
  have fits := receive_small received
  by_cases long : 2 ≤ msg.dwSize
  · constructor
    · intro env gate
      refine iff_of_true ⟨_, dispatchMessageChecked_eq long fits env gate, ?_⟩ long
      exact fun malformed => dispatchMessageBytes_malformed fits malformed env gate
    · intro env mgr
      refine iff_of_true ⟨_, onGateMessageChecked_eq long fits env mgr, ?_⟩ long
      exact fun malformed => onGateMessageBytes_malformed fits malformed env mgr msg.iSrc
  · constructor
    · intro env gate
      exact iff_of_false (not_confined_of_fault (dispatchMessageChecked_short long env gate)) long
    · intro env mgr
      exact iff_of_false (not_confined_of_fault (onGateMessageChecked_short long env mgr)) long

theorem receivers_confined_short_head :
    ∃ msg, receive 1 [0, 5, 8] = some msg ∧
      (∀ parse env gate, Confined parse msg (gate, -1) (dispatchMessageChecked parse env gate msg)) ∧
      ∀ parse env mgr, Confined parse msg (some (mgr, -1)) (onGateMessageChecked parse env mgr msg) := by
  have received : receive 1 [0, 5, 8] = some _ := rfl
  refine ⟨_, received, fun parse env gate => ?_, fun parse env mgr => ?_⟩
  · exact ((receivers_confined_iff received parse).1 env gate).mpr (by decide)
  · exact ((receivers_confined_iff received parse).2 env mgr).mpr (by decide)

/-- The empty message and one of a single byte. -/
theorem short_messages_overread :
    (∃ msg, receive 1 [] = some msg ∧
      (∀ parse env gate, dispatchMessageChecked parse env gate msg = .error .beyond) ∧
      ∀ parse env mgr, onGateMessageChecked parse env mgr msg = .error .beyond) ∧
    ∃ msg, receive 1 [7] = some msg ∧
      (∀ parse env gate, dispatchMessageChecked parse env gate msg = .error .beyond) ∧
      ∀ parse env mgr, onGateMessageChecked parse env mgr msg = .error .beyond := by
  refine ⟨⟨_, rfl, ?_, ?_⟩, _, rfl, ?_, ?_⟩
  · exact fun _ _ _ => rfl
  · exact fun _ _ _ => rfl
  · exact fun _ _ _ => rfl
  · exact fun _ _ _ => rfl

end Playground.Channel
