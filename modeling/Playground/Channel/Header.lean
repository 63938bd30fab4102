import Playground.Transition.Steps
import Playground.Datacenter.FieldText
import Playground.Channel.Numbering

/-! The head of a channel message. -/

namespace Playground.Channel

open Framing Datacenter Sql Transition

def bar : UInt8 := 124

/-- `SplitString` splits at each bar, and the result of `strtol` is assigned to an `int`. -/
structure Env.Standard (env : Env) : Prop where
  splitString : ∀ text, env.splitString text = text.splitOn bar
  strtol : ∀ text, env.strtol text = Int32.ofBitVec (readLow (Datacenter.strtol text))

variable {env : Env} {agent start next : ChannelAgent} {name : Bytes}

theorem assigned_eq_iff (low : -2 ^ 31 ≤ value) (high : value < 2 ^ 31) (seqence : Int32) :
    Int32.ofBitVec (readLow (BitVec.ofInt 64 value)) = seqence ↔ value = seqence.toInt := by
  have bits : (BitVec.ofInt 32 value).toInt = value := Int32.toInt_ofInt_of_le low high
  have assigned : Int32.ofBitVec (readLow (BitVec.ofInt 64 value)) = Int32.ofInt value := by
    have same := readLow_ofInt (BitVec.ofInt 32 value)
    rw [bits] at same
    rw [same]
    rfl
  rw [assigned, ← Int32.toInt_inj, Int32.toInt_ofInt_of_le low high]

theorem Env.Standard.strtol_take (standard : env.Standard) (seqence : Int32) (width : Nat) :
    env.strtol ((numeral seqence.toInt).take width) = seqence ↔
      (numeral seqence.toInt).length ≤ width ∨ width = 0 ∧ seqence = 0 := by
  have low := Int32.le_toInt seqence
  have high := Int32.toInt_lt seqence
  have zero : seqence.toInt = (0 : Int32).toInt ↔ seqence = 0 := Int32.toInt_inj
  rw [standard.strtol]
  by_cases whole : (numeral seqence.toInt).length ≤ width
  · rw [List.take_of_length_le whole]
    refine iff_of_true ?_ (.inl whole)
    change Int32.ofBitVec (readLow (Datacenter.strtol (decimal seqence.toInt))) = seqence
    rw [strtol_decimal (by omega) (by omega)]
    exact (assigned_eq_iff low high seqence).mpr rfl
  · obtain ⟨negative, digits, scanned, above, below, same⟩ :=
      scanNumber_decimal_take seqence.toInt (Nat.not_le.mp whole)
    have read : Datacenter.strtol ((numeral seqence.toInt).take width) =
        BitVec.ofInt 64 (signed negative digits) :=
      strtol_scanned scanned (by omega) (by omega)
    rw [read, assigned_eq_iff (by omega) (by omega), or_iff_right whole]
    constructor
    · intro equal
      obtain ⟨nothing, value⟩ := same equal
      exact ⟨nothing, zero.mp value⟩
    · rintro ⟨rfl, rfl⟩
      rw [List.take_zero] at scanned
      cases scanned
      rfl

theorem splitOn_eq_cons_cons_iff {text : Bytes} :
    text.splitOn bar = first :: second :: more ↔
      ∃ rest, text = first ++ bar :: rest ∧ bar ∉ first ∧ rest.splitOn bar = second :: more := by
  constructor
  · intro split
    by_cases inside : bar ∈ text
    · obtain ⟨before, rest, rfl, clear⟩ := List.eq_append_cons_of_mem inside
      rw [List.splitOn_append_cons_self_of_not_mem clear] at split
      obtain ⟨rfl, components⟩ := List.cons.inj split
      exact ⟨rest, rfl, clear, components⟩
    · rw [List.splitOn_eq_singleton inside] at split
      cases (List.cons.inj split).2
  · rintro ⟨rest, rfl, clear, components⟩
    rw [List.splitOn_append_cons_self_of_not_mem clear, components]

theorem read_head_iff (standard : env.Standard) (terminated : 0 ∉ text) :
    (∀ (mgr : ChannelAgentMgr) (buffer : Bytes) (rest : List Frame),
      mgr.read env ({ data := text ++ [0], more := true } :: { data := buffer, more := false } :: rest) =
        some (0, { iSrc := mgr.getChannelID name, seqence, data := buffer }, rest)) ↔
      ∃ number more, text.splitOn bar = name :: number :: more ∧ env.strtol number = seqence := by
  have content : cstr (text ++ [0]) = text := by
    rw [cstr, List.takeWhile_append_of_pos]
    · simp
    · intro byte member
      simpa using fun zero : byte = 0 => terminated (zero ▸ member)
  constructor
  · intro reads
    -- a process that has a number for this name only
    have own := reads { mpNameChnlID := fun other => if other = name then some 1 else none } [] []
    rw [ChannelAgentMgr.read, if_neg (by simp), content, standard.splitString] at own
    cases components : text.splitOn bar with
    | nil => simp [components] at own
    | cons chname others =>
      cases others with
      | nil => simp [components] at own
      | cons number more =>
        rw [components] at own
        obtain ⟨-, same⟩ := Prod.ext_iff.mp (Option.some.inj own)
        obtain ⟨source, read, -⟩ := ChannelMessage.mk.inj (congrArg Prod.fst same)
        have known : chname = name := by
          by_contra other
          simp [ChannelAgentMgr.getChannelID, other] at source
        exact ⟨number, more, by rw [known], read⟩
  · rintro ⟨number, more, components, rfl⟩ mgr buffer rest
    rw [ChannelAgentMgr.read, if_neg (by simp), content, standard.splitString, components]
    rfl

theorem numeral_clear (number : Int) : 0 ∉ numeral number ∧ bar ∉ numeral number := by
  have digits (byte : UInt8) (member : byte ∈ numeral number) : isDigit byte ∨ byte = minus := by
    change byte ∈ decimal number at member
    cases number with
    | ofNat number =>
      have shown : decimal (Int.ofNat number) = natural number := decimal_ofNat number
      exact .inl (natural_isDigit number byte (shown ▸ member))
    | negSucc number =>
      rw [decimal_negSucc] at member
      rcases List.mem_cons.mp member with same | member
      · exact .inr same
      · exact .inl (natural_isDigit _ byte member)
  exact ⟨fun zero => absurd (digits _ zero) (by decide), fun inside => absurd (digits _ inside) (by decide)⟩

def headText (name : Bytes) (seqence : Int32) : Bytes := (cstr name ++ bar :: numeral seqence.toInt).take 63

theorem zero_notMem_cstr (name : Bytes) : 0 ∉ cstr name := by
  intro zero
  have nonzero := List.mem_takeWhile_imp zero
  simp at nonzero

theorem cstr_eq_self (terminated : 0 ∉ text) : cstr text = text := by
  refine List.takeWhile_eq_self_iff.mpr fun byte member => ?_
  simpa using fun zero : byte = 0 => terminated (zero ▸ member)

theorem head_eq (named : agent.idName = idNameOf name) : agent.head = headText name agent.seqence ++ [0] := by
  have copied : cstr agent.idName = (cstr name).take 127 := by
    rw [named, idNameOf]
    exact cstr_eq_self fun zero => zero_notMem_cstr name (List.mem_of_mem_take zero)
  rw [ChannelAgent.head, copied, headText]
  congr 1
  by_cases short : (cstr name).length ≤ 127
  · rw [List.take_of_length_le short]
    rfl
  · have long : 127 ≤ (cstr name).length := (Nat.not_le.mp short).le
    rw [List.take_append_of_le_length (by rw [List.length_take_of_le long]; decide),
      List.take_append_of_le_length (by omega), List.take_take]
    rfl

theorem zero_notMem_headText (name : Bytes) (seqence : Int32) : 0 ∉ headText name seqence := by
  intro zero
  rcases List.mem_append.mp (List.mem_of_mem_take zero) with inName | behind
  · exact zero_notMem_cstr name inName
  · rcases List.mem_cons.mp behind with isBar | inNumber
    · cases isBar
    · exact (numeral_clear _).1 inNumber

/-- The names and numbers for which the head has room. -/
structure HeadFits (name : Bytes) (seqence : Int32) : Prop where
  terminated : 0 ∉ name
  clear : bar ∉ name
  room : name.length + 1 + (numeral seqence.toInt).length ≤ 63 ∨ name.length = 62 ∧ seqence = 0

theorem headText_of_le (terminated : 0 ∉ name) (short : name.length ≤ 62) (seqence : Int32) :
    headText name seqence = name ++ bar :: (numeral seqence.toInt).take (62 - name.length) := by
  rw [headText, cstr_eq_self terminated, List.take_append, List.take_of_length_le (by omega)]
  obtain ⟨room, behind⟩ : ∃ room, 63 - name.length = room + 1 := ⟨62 - name.length, by omega⟩
  rw [behind, List.take_succ_cons]
  congr 3
  omega

theorem headText_read_iff (standard : env.Standard) (seqence : Int32) :
    (∃ number more, (headText name seqence).splitOn bar = name :: number :: more ∧
      env.strtol number = seqence) ↔ HeadFits name seqence := by
  have number (width : Nat) : ((numeral seqence.toInt).take width).splitOn bar =
      [(numeral seqence.toInt).take width] :=
    List.splitOn_eq_singleton fun inside => (numeral_clear _).2 (List.mem_of_mem_take inside)
  constructor
  · rintro ⟨digits, more, components, read⟩
    obtain ⟨rest, text, clear, behind⟩ := splitOn_eq_cons_cons_iff.mp components
    have terminated : 0 ∉ name :=
      fun zero => zero_notMem_headText name seqence (text ▸ List.mem_append_left _ zero)
    have short : name.length ≤ 62 := by
      have length : (headText name seqence).length ≤ 63 := List.length_take_le _ _
      rw [text, List.length_append, List.length_cons] at length
      omega
    rw [headText_of_le terminated short] at text
    obtain rfl := (List.cons.inj (List.append_cancel_left text)).2
    rw [number] at behind
    obtain ⟨rfl, -⟩ := List.cons.inj behind
    refine ⟨terminated, clear, ?_⟩
    rcases (standard.strtol_take seqence _).mp read with whole | ⟨nothing, zero⟩
    · exact .inl (by omega)
    · exact .inr ⟨by omega, zero⟩
  · rintro ⟨terminated, clear, room⟩
    have short : name.length ≤ 62 := by omega
    refine ⟨_, [], splitOn_eq_cons_cons_iff.mpr ⟨_, headText_of_le terminated short seqence, clear, number _⟩,
      (standard.strtol_take seqence _).mpr ?_⟩
    rcases room with whole | ⟨full, zero⟩
    · exact .inl (by omega)
    · exact .inr ⟨by omega, zero⟩

structure WriteCall where
  buffer : Bytes
  sendsHead : Bool
  sends : Bool

abbrev Writes (start : ChannelAgent) (calls : List WriteCall) (agent : ChannelAgent) : Prop :=
  Steps (fun agent call next => (agent.write call.buffer call.sendsHead call.sends).2.1 = next) start calls agent

/-- A head that could not be sent is that of the message to come. -/
structure ChannelAgent.Prepared (agent : ChannelAgent) (name : Bytes) : Prop where
  named : agent.idName = idNameOf name
  head : agent.msgHead = [] ∨ agent.msgHead = agent.head

theorem ChannelAgent.Prepared.sent (prepared : agent.Prepared name) :
    (if agent.msgHead = [] then agent.head else agent.msgHead) = agent.head := by
  rcases prepared.head with none | own
  · exact if_pos none
  · rw [own, ite_id]

theorem ChannelAgent.Prepared.write {call : WriteCall} (prepared : agent.Prepared name)
    (stepped : (agent.write call.buffer call.sendsHead call.sends).2.1 = next) : next.Prepared name := by
  unfold ChannelAgent.write at stepped
  rw [prepared.sent] at stepped
  dsimp only at stepped
  split at stepped
  · subst stepped
    exact ⟨prepared.named, .inr rfl⟩
  · split at stepped
    · subst stepped
      exact ⟨prepared.named, .inl rfl⟩
    · subst stepped
      exact ⟨prepared.named, .inl rfl⟩

/-- The next message is read with its name and its number, whoever reads it. -/
def ChannelAgent.HeadRead (env : Env) (agent : ChannelAgent) (name : Bytes) : Prop :=
  ∀ (mgr : ChannelAgentMgr) (buffer : Bytes) (rest : List Frame),
    mgr.read env ((agent.write buffer true true).2.2 ++ rest) =
      some (0, { iSrc := mgr.getChannelID name, seqence := agent.seqence, data := buffer }, rest)

/-- After any writes of a channel with a name from `SetIDName`, the head of the next message is read as
that name and the number of the message, exactly if the name and the number fit. -/
theorem header_round_trip_iff (standard : env.Standard) (named : start.idName = idNameOf name)
    (fresh : start.msgHead = []) {calls : List WriteCall} (run : Writes start calls agent) :
    agent.HeadRead env name ↔ HeadFits name agent.seqence := by
  have prepared : agent.Prepared name :=
    run.invariant (fun stepped before => ChannelAgent.Prepared.write before stepped) ⟨named, .inl fresh⟩
  have parts (buffer : Bytes) (rest : List Frame) : (agent.write buffer true true).2.2 ++ rest =
      { data := headText name agent.seqence ++ [0], more := true } :: { data := buffer, more := false } ::
        rest := by
    rw [← head_eq prepared.named, ← prepared.sent]
    rfl
  unfold ChannelAgent.HeadRead
  simp only [parts]
  rw [read_head_iff standard (zero_notMem_headText name agent.seqence), headText_read_iff standard]

def standardEnv : Env where
  splitString := List.splitOn bar
  strtol text := Int32.ofBitVec (readLow (strtol text))
  creates _ := true

theorem header_round_trip_gate :
    ∃ agent, Writes { id := 1, idName := idNameOf (ascii "gate:1"), seqence := -10 }
        [{ buffer := [1], sendsHead := true, sends := true }] agent ∧ agent.seqence = -9 ∧
      agent.HeadRead standardEnv (ascii "gate:1") := by
  have run : Writes { id := 1, idName := idNameOf (ascii "gate:1"), seqence := -10 }
      [{ buffer := [1], sendsHead := true, sends := true }] _ := .single rfl
  refine ⟨_, run, rfl, (header_round_trip_iff ⟨fun _ => rfl, fun _ => rfl⟩ rfl rfl run).mpr ?_⟩
  exact ⟨by decide, by decide, .inl (by decide)⟩

def channelOf (name : Bytes) : ChannelAgent := { id := 1, idName := idNameOf name }

/-- A name of 63 bytes leaves no room for the bar, and there is no second component; a name with a bar is
read up to it; and from the number 10 on, one of 61 bytes loses digits of its numbers. -/
theorem headers_misread :
    (List.replicate 63 (97 : UInt8)).length < 128 ∧
      (∀ mgr buffer rest, ChannelAgentMgr.read standardEnv mgr
        (((channelOf (List.replicate 63 97)).write buffer true true).2.2 ++ rest) = none) ∧
      (∀ mgr buffer rest, ChannelAgentMgr.read standardEnv mgr
        (((channelOf (ascii "a|b")).write buffer true true).2.2 ++ rest) =
          some (0, { iSrc := mgr.getChannelID (ascii "a"), seqence := 0, data := buffer }, rest)) ∧
      ∀ mgr buffer rest, ChannelAgentMgr.read standardEnv mgr
        (({ channelOf (List.replicate 61 97) with seqence := 10 }.write buffer true true).2.2 ++ rest) =
          some (0, { iSrc := mgr.getChannelID (List.replicate 61 97), seqence := 1, data := buffer }, rest) := by
  refine ⟨by decide, fun mgr buffer rest => ?_, fun mgr buffer rest => ?_, fun mgr buffer rest => ?_⟩
  · rfl
  · rfl
  · rfl

end Playground.Channel
