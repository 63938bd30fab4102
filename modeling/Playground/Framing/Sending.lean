import Playground.Framing.LengthPrefix

/-! Frames written to a socket as two sends each, of which any may fail. -/

namespace Playground.Framing

/-- The frame is written with the `n`-th send and the one behind it. -/
def writeFrame (sendRet : Nat → Int) (n : Nat) (payload : Bytes) : Nat × Bytes :=
  if sendRet n ≠ 0 then (n + 1, [])
  else if sendRet (n + 1) ≠ 0 then (n + 2, lengthPrefix payload.length)
  else (n + 2, encode payload)

/-- What the socket takes of frames that are sent one after the other. -/
def writeFrames (sendRet : Nat → Int) (n : Nat) : List Bytes → Nat × Bytes
  | [] => (n, [])
  | payload :: payloads =>
    let first := writeFrame sendRet n payload
    let later := writeFrames sendRet first.1 payloads
    (later.1, first.2 ++ later.2)

/-- The bytes are a sequence of frames. -/
def WellFramed (bytes : Bytes) : Prop :=
  ∃ frames : List Bytes, (∀ frame ∈ frames, frame.length < 65536) ∧ bytes = encodeAll frames

/-- The stream is a sequence of complete frames, or ends in a length field that nothing follows. -/
def StaysFramed (stream : Nat → Bytes) (count : Nat) : Prop :=
  ∀ k ≤ count, WellFramed (stream k) ∨
    ∃ whole n, WellFramed whole ∧ n < 65536 ∧ stream k = whole ++ lengthPrefix n ∧
      ∀ l, k ≤ l → l ≤ count → stream l = stream k

/-- The length is sent, and the payload behind it is not. -/
def Torn (sendRet : Nat → Int) (n : Nat) (payload : Bytes) : Prop :=
  sendRet n = 0 ∧ sendRet (n + 1) ≠ 0 ∧ payload ≠ []

/-- Behind a torn frame nothing is sent any more. -/
def Abandons (sendRet : Nat → Int) : Nat → List Bytes → Prop
  | _, [] => True
  | n, payload :: payloads =>
    (Torn sendRet n payload → ∀ k < payloads.length, sendRet (n + 2 + k) ≠ 0) ∧
      Abandons sendRet (writeFrame sendRet n payload).1 payloads

variable {sendRet : Nat → Int} {n : Nat} {payload : Bytes} {payloads : List Bytes}

theorem wellFramed_nil : WellFramed [] := ⟨[], by simp, rfl⟩

theorem WellFramed.append {before after : Bytes} (first : WellFramed before) (second : WellFramed after) :
    WellFramed (before ++ after) := by
  obtain ⟨early, smallEarly, rfl⟩ := first
  obtain ⟨late, smallLate, rfl⟩ := second
  refine ⟨early ++ late, ?_, (encodeAll_append early late).symm⟩
  intro frame member
  rcases List.mem_append.mp member with old | new
  · exact smallEarly frame old
  · exact smallLate frame new

theorem wellFramed_encode (small : payload.length < 65536) : WellFramed (encode payload) :=
  ⟨[payload], by simpa using small, by simp [encodeAll]⟩

theorem encodeAll_cons_eq {frame other : Bytes} {behind behind' : Bytes} (small : frame.length < 65536)
    (smallOther : other.length < 65536) (same : encode frame ++ behind = encode other ++ behind') :
    frame = other ∧ behind = behind' := by
  simp only [encode, lengthPrefix, List.cons_append, List.nil_append,
    List.cons.injEq] at same
  obtain ⟨hi, lo, rest⟩ := same
  have lengths : frame.length = other.length := by
    rw [← be16_lengthPrefix small, ← be16_lengthPrefix smallOther, hi, lo]
  exact List.append_inj rest lengths

theorem not_wellFramed_field (nonzero : n ≠ 0) (small : n < 65536) {frames : List Bytes}
    (fits : ∀ frame ∈ frames, frame.length < 65536) : ¬ WellFramed (encodeAll frames ++ lengthPrefix n) := by
  rintro ⟨others, fitsOthers, same⟩
  induction frames generalizing others with
  | nil =>
    cases others with
    | nil => simp [lengthPrefix] at same
    | cons other others =>
      have field := congrArg List.length same
      simp only [encodeAll_nil, List.nil_append, encodeAll_cons, lengthPrefix, List.length_cons,
        List.length_append, List.length_nil] at field
      obtain rfl : other = [] := List.length_eq_zero_iff.mp (by omega)
      simp only [encodeAll_nil, List.nil_append, encodeAll_cons, lengthPrefix, List.cons.injEq] at same
      have announces := be16_lengthPrefix small
      rw [same.1, same.2.1] at announces
      exact nonzero announces.symm
  | cons frame frames ih =>
    cases others with
    | nil => simp [encodeAll_cons] at same
    | cons other others =>
      have split : ∀ (one : Bytes) (more : List Bytes), encodeAll (one :: more) = encode one ++ encodeAll more :=
        fun _ _ => rfl
      rw [split, split, List.append_assoc] at same
      obtain ⟨_, behind⟩ := encodeAll_cons_eq (fits frame List.mem_cons_self)
        (fitsOthers other List.mem_cons_self) same
      exact ih (fun one member => fits one (List.mem_cons_of_mem _ member)) others
        (fun one member => fitsOthers one (List.mem_cons_of_mem _ member)) behind

theorem writeFrames_eq_nil_iff :
    (writeFrames sendRet n payloads).2 = [] ↔ ∀ k < payloads.length, sendRet (n + k) ≠ 0 := by
  induction payloads generalizing n with
  | nil => simp [writeFrames]
  | cons payload payloads ih =>
    by_cases takes : sendRet n = 0
    · have taken : (writeFrame sendRet n payload).2 ≠ [] := by
        by_cases fails : sendRet (n + 1) = 0 <;> simp [writeFrame, takes, fails, lengthPrefix, encode]
      constructor
      · intro nothing
        exact absurd (List.append_eq_nil_iff.mp nothing).1 taken
      · intro all
        exact absurd takes (all 0 (by simp))
    · have refused : writeFrame sendRet n payload = (n + 1, []) := by simp [writeFrame, takes]
      simp only [writeFrames, refused, List.nil_append, List.length_cons]
      rw [ih]
      constructor
      · intro later k within
        cases k with
        | zero => exact takes
        | succ k => simpa [Nat.add_comm, Nat.add_left_comm] using later k (by omega)
      · intro all k within
        simpa [Nat.add_comm, Nat.add_left_comm] using all (k + 1) (by omega)

theorem wellFramed_writeFrame (small : payload.length < 65536) (whole : ¬ Torn sendRet n payload) :
    WellFramed (writeFrame sendRet n payload).2 := by
  by_cases takes : sendRet n = 0
  · by_cases follows : sendRet (n + 1) = 0
    · simpa [writeFrame, takes, follows] using wellFramed_encode small
    · have empty : payload = [] := by
        by_contra nonempty
        exact whole ⟨takes, follows, nonempty⟩
      have alone : (writeFrame sendRet n payload).2 = encode payload := by
        simp [writeFrame, takes, follows, encode, empty]
      rw [alone]
      exact wellFramed_encode small
  · simpa [writeFrame, takes] using wellFramed_nil

theorem abandons_of_silent (silent : ∀ k < payloads.length, sendRet (n + k) ≠ 0) :
    Abandons sendRet n payloads := by
  induction payloads generalizing n with
  | nil => trivial
  | cons payload payloads ih =>
    have refused : sendRet n ≠ 0 := silent 0 (by simp)
    refine ⟨fun torn => absurd torn.1 refused, ?_⟩
    rw [show (writeFrame sendRet n payload).1 = n + 1 by simp [writeFrame, refused]]
    refine ih fun k within => ?_
    simpa [Nat.add_comm, Nat.add_left_comm] using silent (k + 1) (by simpa using within)

theorem writeFrames_of_all (all : ∀ n, sendRet n = 0) :
    (writeFrames sendRet n payloads).2 = encodeAll payloads := by
  induction payloads generalizing n with
  | nil => rfl
  | cons payload payloads ih =>
    have written : writeFrame sendRet n payload = (n + 2, encode payload) := by simp [writeFrame, all]
    simp only [writeFrames, written, ih]
    rfl

theorem staysFramed_succ {stream : Nat → Bytes} {count : Nat} (start : WellFramed (stream 0)) :
    StaysFramed stream (count + 1) ↔ StaysFramed (fun k => stream (k + 1)) count := by
  constructor
  · intro framed k within
    refine (framed (k + 1) (by omega)).imp_right ?_
    rintro ⟨whole, n, complete, small, same, still⟩
    exact ⟨whole, n, complete, small, same, fun l above below => still (l + 1) (by omega) (by omega)⟩
  · intro framed k within
    cases k with
    | zero => exact .inl start
    | succ k =>
      refine (framed k (by omega)).imp_right ?_
      rintro ⟨whole, n, complete, small, same, still⟩
      refine ⟨whole, n, complete, small, same, fun l above below => ?_⟩
      obtain ⟨l, rfl⟩ : ∃ m, l = m + 1 := ⟨l - 1, by omega⟩
      exact still l (by omega) (by omega)

theorem staysFramed_torn {whole : Bytes} (complete : WellFramed whole) (small : payload.length < 65536)
    (nonempty : payload ≠ []) :
    StaysFramed (fun k => (whole ++ lengthPrefix payload.length) ++ (writeFrames sendRet n (payloads.take k)).2)
      payloads.length ↔ ∀ k < payloads.length, sendRet (n + k) ≠ 0 := by
  have nonzero : payload.length ≠ 0 := by simpa using nonempty
  constructor
  · intro framed
    rcases framed 0 (by omega) with parsed | ⟨_, _, _, _, _, still⟩
    · obtain ⟨frames, fits, rfl⟩ := complete
      exact absurd (by simpa [writeFrames] using parsed) (not_wellFramed_field nonzero small fits)
    · have nothing := still payloads.length (by omega) (by omega)
      have untaken : (writeFrames sendRet n payloads).2 = [] := by simpa [writeFrames] using nothing
      exact writeFrames_eq_nil_iff.mp untaken
  · intro silent
    have nothing : ∀ k ≤ payloads.length, (writeFrames sendRet n (payloads.take k)).2 = [] := by
      intro k within
      refine writeFrames_eq_nil_iff.mpr fun j below => silent j ?_
      exact Nat.lt_of_lt_of_le below (by simp)
    intro k within
    refine .inr ⟨whole, payload.length, complete, small, by simp [nothing k within], fun l _ below => ?_⟩
    simp only [nothing k within, nothing l below]

/-- The stream stays framed exactly when every send behind a torn frame fails. -/
theorem staysFramed_iff_abandons (sendRet : Nat → Int) (n : Nat) {whole : Bytes}
    (small : ∀ payload ∈ payloads, payload.length < 65536) (complete : WellFramed whole) :
    StaysFramed (fun k => whole ++ (writeFrames sendRet n (payloads.take k)).2) payloads.length ↔
      Abandons sendRet n payloads := by
  induction payloads generalizing n whole with
  | nil =>
    refine ⟨fun _ => trivial, fun _ k within => .inl ?_⟩
    simpa [writeFrames] using complete
  | cons payload payloads ih =>
    have fits := small payload List.mem_cons_self
    have smallTail : ∀ other ∈ payloads, other.length < 65536 :=
      fun other member => small other (List.mem_cons_of_mem _ member)
    rw [List.length_cons, staysFramed_succ (by simpa [writeFrames] using complete)]
    have shifted : ∀ k, whole ++ (writeFrames sendRet n ((payload :: payloads).take (k + 1))).2 =
        (whole ++ (writeFrame sendRet n payload).2) ++
          (writeFrames sendRet (writeFrame sendRet n payload).1 (payloads.take k)).2 := by
      intro k
      simp [writeFrames]
    simp only [shifted]
    by_cases torn : Torn sendRet n payload
    · have written : writeFrame sendRet n payload = (n + 2, lengthPrefix payload.length) := by
        simp [writeFrame, torn.1, torn.2.1]
      rw [Abandons, written]
      rw [staysFramed_torn complete fits torn.2.2]
      exact ⟨fun silent => ⟨fun _ => silent, abandons_of_silent silent⟩, fun abandons => abandons.1 torn⟩
    · have added := complete.append (wellFramed_writeFrame fits torn)
      rw [ih _ smallTail added, Abandons]
      exact ⟨fun later => ⟨fun now => absurd now torn, later⟩, fun abandons => abandons.2⟩

end Playground.Framing
