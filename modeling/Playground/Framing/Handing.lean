import Playground.Framing.LengthPrefix

/-! A decoder seen from the handler it calls. -/

namespace Playground.Framing

universe u

variable {State : Type u}

/-- The handler is called with the payloads one after the other, and `errors` of the calls return
nonzero. -/
inductive Hands (quiet : State → State → Prop) (handle : State → Bytes → State × Int → Prop) :
    State → List Bytes → Nat → State → Prop where
  | done (still : quiet state next) : Hands quiet handle state [] 0 next
  | call (still : quiet state before) (called : handle before payload (after, ret))
      (rest : Hands quiet handle after payloads errors next) :
      Hands quiet handle state (payload :: payloads) ((if ret = 0 then 0 else 1) + errors) next

theorem Hands.before {quiet : State → State → Prop} {handle : State → Bytes → State × Int → Prop}
    {state middle next : State} (hands : Hands quiet handle middle payloads errors next)
    (compose : ∀ {first second third}, quiet first second → quiet second third → quiet first third)
    (still : quiet state middle) : Hands quiet handle state payloads errors next := by
  cases hands with
  | done later => exact .done (compose still later)
  | call later called rest => exact .call (compose still later) called rest

theorem decode_encodeAll (valid : Framable frames) : decode 0 (encodeAll frames) = (0, frames) := by
  induction frames with
  | nil => exact decode_idle_short (by simp)
  | cons frame frames ih =>
    obtain ⟨nonempty, small⟩ := valid.head
    have announces := be16_lengthPrefix (show frame.length < 65536 by omega)
    have awaiting : frame.length ≠ 0 := by omega
    rw [encodeAll_cons, decode_field (by rw [announces]; exact awaiting), announces,
      decode_complete awaiting (by simp), List.drop_left, List.take_left, ih valid.tail]

theorem announced_le (bounded : need ≤ 65535) (chunk : Bytes) : (announced need chunk).1 ≤ 65535 := by
  unfold announced
  split
  · exact be16_le _ _
  · exact Nat.zero_le _
  · exact bounded

theorem decode_le (need : Nat) (chunk : Bytes) (bounded : need ≤ 65535) :
    (decode need chunk).1 ≤ 65535 := by
  fun_induction decode need chunk with
  | case1 => exact Nat.zero_le _
  | case2 need chunk => exact announced_le bounded chunk
  | case3 need chunk _ _ later ih => exact ih (Nat.zero_le _)

/-- The bytes that an idle decoder drops without waiting for more. -/
def Vain (rest : Bytes) : Prop := rest.length < 2 ∨ ∃ more, rest = 0 :: 0 :: more

theorem decode_vain_iff (rest : Bytes) : decode 0 rest = (0, []) ↔ Vain rest := by
  match rest with
  | [] => simp [Vain, decode_idle_short]
  | [_] => simp [Vain, decode_idle_short]
  | hi :: lo :: more =>
    have zero : be16 hi lo = 0 ↔ hi = 0 ∧ lo = 0 := by
      simp only [be16, ← UInt8.toNat_inj]
      simp
    have vain : Vain (hi :: lo :: more) ↔ be16 hi lo = 0 := by
      rw [zero]
      simp [Vain]
    rw [vain]
    by_cases nothing : be16 hi lo = 0
    · simp [nothing, decode_field_zero]
    · refine ⟨fun dropped => absurd dropped ?_, fun same => absurd same nothing⟩
      rw [decode_field nothing]
      by_cases enough : be16 hi lo ≤ more.length
      · simp [decode_complete nothing enough]
      · simp [decode_incomplete nothing (Nat.lt_of_not_le enough), nothing]

end Playground.Framing
