import Mathlib.Tactic

/-! Streams of length-prefixed frames, and a decoder that gets them in chunks. -/

namespace Playground.Framing

abbrev Bytes := List UInt8

def be16 (hi lo : UInt8) : Nat := hi.toNat * 256 + lo.toNat

/-- The length in two bytes, the high one first. -/
def lengthPrefix (n : Nat) : Bytes := [UInt8.ofNat (n / 256), UInt8.ofNat n]

def encode (payload : Bytes) : Bytes := lengthPrefix payload.length ++ payload

def encodeAll (frames : List Bytes) : Bytes := (frames.map encode).flatten

/-- The frames a two-byte length field can announce and a decoder can deliver. -/
def Framable (frames : List Bytes) : Prop :=
  ∀ frame ∈ frames, 1 ≤ frame.length ∧ frame.length ≤ 65535

theorem be16_lengthPrefix (small : n < 65536) :
    be16 (UInt8.ofNat (n / 256)) (UInt8.ofNat n) = n := by
  simp only [be16, UInt8.toNat_ofNat']
  omega

theorem lengthPrefix_be16 (hi lo : UInt8) : lengthPrefix (be16 hi lo) = [hi, lo] := by
  have low := lo.toNat_lt
  have high : (hi.toNat * 256 + lo.toNat) / 256 = hi.toNat := by omega
  simp only [lengthPrefix, be16, high, UInt8.ofNat_toNat, List.cons.injEq, and_true, true_and]
  apply UInt8.toNat_inj.mp
  rw [UInt8.toNat_ofNat']
  omega

theorem be16_le (hi lo : UInt8) : be16 hi lo ≤ 65535 := by
  have high := hi.toNat_lt
  have low := lo.toNat_lt
  unfold be16
  omega

@[simp] theorem encodeAll_nil : encodeAll [] = [] := rfl

theorem encodeAll_cons (frame : Bytes) (frames : List Bytes) :
    encodeAll (frame :: frames) =
      UInt8.ofNat (frame.length / 256) :: UInt8.ofNat frame.length :: (frame ++ encodeAll frames) := by
  simp [encodeAll, encode, lengthPrefix]

theorem Framable.head (valid : Framable (frame :: frames)) :
    1 ≤ frame.length ∧ frame.length ≤ 65535 :=
  valid frame (by simp)

theorem Framable.tail (valid : Framable (frame :: frames)) : Framable frames :=
  fun other member => valid other (by simp [member])

/-- The length the decoder waits for after looking at a chunk, and the bytes of
the chunk behind the length field. -/
def announced : Nat → Bytes → Nat × Bytes
  | 0, hi :: lo :: rest => (be16 hi lo, rest)
  | 0, _ => (0, [])
  | need + 1, chunk => (need + 1, chunk)

theorem announced_length (need : Nat) (chunk : Bytes) :
    (announced need chunk).2.length ≤ chunk.length := by
  unfold announced
  split <;> simp
  omega

/-- Decode one chunk. Bytes of a field that the chunk leaves incomplete are dropped. -/
def decode (need : Nat) (chunk : Bytes) : Nat × List Bytes :=
  if (announced need chunk).1 = 0 then (0, [])
  else if (announced need chunk).2.length < (announced need chunk).1 then
    ((announced need chunk).1, [])
  else
    let later := decode 0 ((announced need chunk).2.drop (announced need chunk).1)
    (later.1, (announced need chunk).2.take (announced need chunk).1 :: later.2)
termination_by chunk.length
decreasing_by
  have bound := announced_length need chunk
  simp only [List.length_drop]
  omega

/-- The chunks of a stream, one after the other. -/
def decodeAll (need : Nat) : List Bytes → Nat × List Bytes
  | [] => (need, [])
  | chunk :: chunks =>
    let later := decodeAll (decode need chunk).1 chunks
    (later.1, (decode need chunk).2 ++ later.2)

/-- The cut falls between two frames or between a length field and its payload. -/
def CleanCut : List Bytes → Nat → Prop
  | [], position => position = 0
  | frame :: frames, position =>
    position = 0 ∨ position = 2 ∨
      (frame.length + 2 ≤ position ∧ CleanCut frames (position - (frame.length + 2)))

instance decidableCleanCut : (frames : List Bytes) → (position : Nat) → Decidable (CleanCut frames position)
  | [], position => inferInstanceAs (Decidable (position = 0))
  | frame :: frames, position =>
    have := decidableCleanCut frames (position - (frame.length + 2))
    inferInstanceAs (Decidable (position = 0 ∨ position = 2 ∨
      (frame.length + 2 ≤ position ∧ CleanCut frames (position - (frame.length + 2)))))

/-- No chunk ends inside a frame, except behind its length. -/
def CleanCuts (frames chunks : List Bytes) : Prop :=
  ∀ count ≤ chunks.length, CleanCut frames ((chunks.take count).flatten.length)

instance (frames chunks : List Bytes) : Decidable (CleanCuts frames chunks) :=
  inferInstanceAs (Decidable (∀ count ≤ chunks.length, _))

theorem decode_idle_short (short : chunk.length < 2) : decode 0 chunk = (0, []) := by
  match chunk, short with
  | [], _ => rw [decode]; simp [announced]
  | [_], _ => rw [decode]; simp [announced]

theorem decode_field (announces : be16 hi lo ≠ 0) :
    decode 0 (hi :: lo :: chunk) = decode (be16 hi lo) chunk := by
  obtain ⟨need, same⟩ := Nat.exists_eq_succ_of_ne_zero announces
  have read : announced 0 (hi :: lo :: chunk) = announced (be16 hi lo) chunk := by
    simp [announced, same]
  conv_lhs => rw [decode]
  conv_rhs => rw [decode]
  rw [read]

theorem decode_field_zero (nothing : be16 hi lo = 0) :
    decode 0 (hi :: lo :: chunk) = (0, []) := by
  rw [decode]
  simp [announced, nothing]

theorem decode_incomplete (awaiting : need ≠ 0) (short : chunk.length < need) :
    decode need chunk = (need, []) := by
  obtain ⟨before, rfl⟩ := Nat.exists_eq_succ_of_ne_zero awaiting
  rw [decode]
  simp [announced, short]

theorem decode_nil (need : Nat) : decode need [] = (need, []) := by
  by_cases awaiting : need = 0
  · rw [awaiting, decode_idle_short (by simp)]
  · exact decode_incomplete awaiting (Nat.pos_of_ne_zero awaiting)

theorem decode_complete (awaiting : need ≠ 0) (enough : need ≤ chunk.length) :
    decode need chunk =
      ((decode 0 (chunk.drop need)).1, chunk.take need :: (decode 0 (chunk.drop need)).2) := by
  obtain ⟨before, rfl⟩ := Nat.exists_eq_succ_of_ne_zero awaiting
  rw [decode]
  simp only [announced, Nat.add_one_ne_zero, ↓reduceIte, Nat.not_lt.mpr enough]

/-- Bytes of the stream that a decoder awaiting `need` has taken in without
having delivered anything for them. -/
def held (need : Nat) : Nat := if need = 0 then 0 else 2

/-- The bytes of a stream that payloads take. -/
def spent (payloads : List Bytes) : Nat := (encodeAll payloads).length

@[simp] theorem held_zero : held 0 = 0 := rfl

theorem held_of_ne (awaiting : need ≠ 0) : held need = 2 := by
  simp [held, awaiting]

@[simp] theorem spent_nil : spent [] = 0 := rfl

theorem spent_cons (payload : Bytes) (payloads : List Bytes) :
    spent (payload :: payloads) = payload.length + 2 + spent payloads := by
  simp [spent, encodeAll_cons]
  omega

theorem encodeAll_append (before after : List Bytes) :
    encodeAll (before ++ after) = encodeAll before ++ encodeAll after := by
  simp [encodeAll]

theorem spent_append (before after : List Bytes) :
    spent (before ++ after) = spent before + spent after := by
  simp [spent, encodeAll_append]

theorem decode_conserves (need : Nat) (chunk : Bytes) :
    spent (decode need chunk).2 + held (decode need chunk).1 ≤ held need + chunk.length := by
  induction size : chunk.length using Nat.strongRecOn generalizing need chunk with
  | _ bound ih =>
    subst size
    -- with a length awaited, a completed payload leaves a shorter chunk to an idle decoder
    have body : ∀ need (rest : Bytes), need ≠ 0 → rest.length ≤ chunk.length →
        spent (decode need rest).2 + held (decode need rest).1 ≤ 2 + rest.length := by
      intro need rest awaiting within
      by_cases enough : need ≤ rest.length
      · rw [decode_complete awaiting enough, spent_cons]
        have later := ih (rest.drop need).length (by simp only [List.length_drop]; omega) 0
          (rest.drop need) rfl
        simp only [held_zero, List.length_take, List.length_drop] at later ⊢
        omega
      · rw [decode_incomplete awaiting (by omega), held_of_ne awaiting]
        simp
    by_cases awaiting : need = 0
    · subst need
      match chunk with
      | [] => rw [decode_idle_short (by simp)]; simp
      | [_] => rw [decode_idle_short (by simp)]; simp
      | hi :: lo :: rest =>
        by_cases nothing : be16 hi lo = 0
        · rw [decode_field_zero nothing]; simp
        · rw [decode_field nothing]
          have step := body (be16 hi lo) rest nothing (by simp only [List.length_cons]; omega)
          simp only [held_zero, List.length_cons]
          omega
    · rw [held_of_ne awaiting]
      exact body need chunk awaiting (Nat.le_refl _)

theorem decodeAll_conserves (need : Nat) (chunks : List Bytes) :
    spent (decodeAll need chunks).2 ≤ held need + chunks.flatten.length := by
  induction chunks generalizing need with
  | nil => simp [decodeAll]
  | cons chunk chunks ih =>
    have now := decode_conserves need chunk
    have later := ih (decode need chunk).1
    simp only [decodeAll, spent_append, List.flatten_cons, List.length_append]
    omega

/-- A decoder that lost nothing is idle between two frames, or awaits the payload
of the next frame. -/
def Awaits (need : Nat) (frames : List Bytes) : Prop :=
  need = 0 ∨ ∃ frame later, frames = frame :: later ∧ frame.length = need

/-- At a clean cut a chunk delivers whole frames; at any other cut some bytes are gone for good. -/
inductive ChunkOutcome (need : Nat) (frames : List Bytes) (chunk rest : Bytes) : Prop where
  | clean (cut : CleanCut frames (held need + chunk.length)) (left : List Bytes)
      (delivered : frames = (decode need chunk).2 ++ left)
      (awaits : Awaits (decode need chunk).1 left)
      (remaining : rest = (encodeAll left).drop (held (decode need chunk).1))
  | lossy (cut : ¬ CleanCut frames (held need + chunk.length))
      (lost : spent (decode need chunk).2 + held (decode need chunk).1 < held need + chunk.length)

theorem CleanCut.field (frame : Bytes) (frames : List Bytes) : CleanCut (frame :: frames) 2 :=
  .inr (.inl rfl)

theorem CleanCut.start (frames : List Bytes) : CleanCut frames 0 := by
  cases frames with
  | nil => rfl
  | cons frame frames => exact .inl rfl

theorem cleanCut_behind (frame : Bytes) (frames : List Bytes) (nonempty : 1 ≤ frame.length)
    (position : Nat) :
    CleanCut (frame :: frames) (frame.length + 2 + position) ↔ CleanCut frames position := by
  have behind : frame.length + 2 + position - (frame.length + 2) = position := by omega
  simp only [CleanCut, behind]
  constructor
  · rintro (start | field | ⟨_, later⟩)
    · omega
    · omega
    · exact later
  · intro later
    exact .inr (.inr ⟨by omega, later⟩)

theorem cleanCut_append (valid : Framable before) (after : List Bytes) (position : Nat) :
    CleanCut (before ++ after) (spent before + position) ↔ CleanCut after position := by
  induction before with
  | nil => simp
  | cons frame frames ih =>
    rw [spent_cons, List.cons_append, Nat.add_assoc (frame.length + 2),
      cleanCut_behind frame _ valid.head.1, ih valid.tail]

private theorem chunkOutcome_body (valid : Framable (frame :: frames))
    (split : chunk ++ rest = frame ++ encodeAll frames)
    (later : ∀ chunk', chunk' ++ rest = encodeAll frames → ChunkOutcome 0 frames chunk' rest) :
    ChunkOutcome frame.length (frame :: frames) chunk rest := by
  have nonempty := valid.head.1
  have awaiting : frame.length ≠ 0 := by omega
  by_cases enough : frame.length ≤ chunk.length
  · -- the chunk holds the whole payload, so it starts with `frame`
    obtain ⟨behind, rfl⟩ : ∃ behind, chunk = frame ++ behind := by
      have start : frame <+: chunk :=
        List.prefix_of_prefix_length_le (List.prefix_append frame (encodeAll frames))
          (split ▸ List.prefix_append chunk rest) enough
      exact ⟨_, (List.prefix_iff_eq_append.mp start).symm⟩
    have remaining : behind ++ rest = encodeAll frames := by
      simpa [List.append_assoc] using split
    have result : decode frame.length (frame ++ behind) =
        ((decode 0 behind).1, frame :: (decode 0 behind).2) := by
      rw [decode_complete awaiting enough]
      simp
    have position : held frame.length + (frame ++ behind).length =
        frame.length + 2 + (held 0 + behind.length) := by
      simp only [held_of_ne awaiting, held_zero, List.length_append]
      omega
    rcases later behind remaining with ⟨cut, left, delivered, awaits, kept⟩ | ⟨cut, lost⟩
    · refine .clean ?_ left ?_ ?_ ?_
      · rw [position, cleanCut_behind frame _ nonempty]
        exact cut
      · rw [result]
        simp [← delivered]
      · rw [result]
        exact awaits
      · rw [result]
        exact kept
    · refine .lossy ?_ ?_
      · rw [position, cleanCut_behind frame _ nonempty]
        exact cut
      · rw [result, position, spent_cons]
        dsimp only
        omega
  · have result := decode_incomplete awaiting (Nat.lt_of_not_le enough)
    by_cases empty : chunk = []
    · subst chunk
      refine .clean ?_ (frame :: frames) ?_ ?_ ?_
      · simpa [held_of_ne awaiting] using CleanCut.field frame frames
      · rw [result]
        rfl
      · rw [result]
        exact .inr ⟨frame, frames, rfl, rfl⟩
      · rw [result, held_of_ne awaiting, encodeAll_cons]
        simpa using split
    · have some : 0 < chunk.length := List.length_pos_iff.mpr empty
      refine .lossy ?_ ?_
      · rw [held_of_ne awaiting]
        rintro (start | field | ⟨behind, _⟩) <;> omega
      · rw [result]
        simp [held_of_ne awaiting]
        omega

theorem chunkOutcome (valid : Framable frames) (awaits : Awaits need frames)
    (split : chunk ++ rest = (encodeAll frames).drop (held need)) :
    ChunkOutcome need frames chunk rest := by
  induction frames generalizing need chunk with
  | nil =>
    rcases awaits with rfl | ⟨frame, later, absurd, _⟩
    · obtain ⟨rfl, rfl⟩ : chunk = [] ∧ rest = [] := by simpa using split
      refine .clean (CleanCut.start _) [] ?_ ?_ ?_ <;> rw [decode_idle_short (by simp)]
      · rfl
      · exact .inl rfl
      · rfl
    · cases absurd
  | cons frame frames ih =>
    have idle : ∀ chunk', chunk' ++ rest = encodeAll frames → ChunkOutcome 0 frames chunk' rest :=
      fun chunk' same => ih valid.tail (.inl rfl) (by simpa using same)
    rcases awaits with rfl | ⟨head, later, same, rfl⟩
    · have small : frame.length < 65536 := by have := valid.head; omega
      have announces := be16_lengthPrefix small
      match chunk with
      | [] =>
        refine .clean (CleanCut.start _) (frame :: frames) ?_ ?_ ?_ <;>
          rw [decode_idle_short (by simp)]
        · rfl
        · exact .inl rfl
        · simpa using split
      | [byte] =>
        refine .lossy ?_ ?_
        · rintro (start | field | ⟨behind, _⟩) <;> simp at *
        · rw [decode_idle_short (by simp)]
          simp
      | hi :: lo :: body =>
        -- the chunk starts with the whole length field, which announces `frame`
        obtain ⟨rfl, rfl, behind⟩ : UInt8.ofNat (frame.length / 256) = hi ∧
            UInt8.ofNat frame.length = lo ∧ body ++ rest = frame ++ encodeAll frames := by
          rw [held_zero, List.drop_zero, encodeAll_cons] at split
          simp only [List.cons_append, List.cons.injEq] at split
          exact ⟨split.1.symm, split.2.1.symm, split.2.2⟩
        have nonempty := valid.head.1
        have result : decode 0 (UInt8.ofNat (frame.length / 256) :: UInt8.ofNat frame.length :: body) =
            decode frame.length body := by
          rw [decode_field (by omega), announces]
        have position : held frame.length + body.length =
            held 0 + (UInt8.ofNat (frame.length / 256) :: UInt8.ofNat frame.length :: body).length := by
          simp only [held_zero, held_of_ne (show frame.length ≠ 0 by omega), List.length_cons]
          omega
        rcases chunkOutcome_body valid behind idle with
          ⟨cut, left, delivered, awaits, kept⟩ | ⟨cut, lost⟩
        · exact .clean (position ▸ cut) left (result ▸ delivered) (result ▸ awaits) (result ▸ kept)
        · exact .lossy (position ▸ cut) (by rw [result, ← position]; exact lost)
    · obtain ⟨rfl, rfl⟩ := List.cons.inj same
      have nonempty := valid.head.1
      refine chunkOutcome_body valid ?_ idle
      rw [held_of_ne (by omega), encodeAll_cons] at split
      simpa using split

theorem cut_of_awaits (awaits : Awaits need frames) : CleanCut frames (held need) := by
  rcases awaits with rfl | ⟨frame, later, rfl, rfl⟩
  · exact CleanCut.start frames
  · unfold held
    split
    · exact CleanCut.start _
    · exact CleanCut.field frame later

theorem held_le_spent (awaits : Awaits need frames) : held need ≤ spent frames := by
  rcases awaits with rfl | ⟨frame, later, rfl, rfl⟩
  · simp
  · rw [spent_cons]
    unfold held
    split <;> omega

private theorem clean_balance (frames : List Bytes) (awaits : Awaits need frames)
    (split : chunk ++ rest = (encodeAll frames).drop (held need))
    (delivered : frames = payloads ++ left) (awaits' : Awaits need' left)
    (remaining : rest = (encodeAll left).drop (held need')) :
    held need + chunk.length = spent payloads + held need' := by
  have before := held_le_spent awaits
  have after := held_le_spent awaits'
  have total : spent frames = spent payloads + spent left := by rw [delivered, spent_append]
  have lengths := congrArg List.length split
  rw [remaining] at lengths
  simp only [List.length_append, List.length_drop] at lengths
  simp only [spent] at *
  omega

/-- The decoder is exact when, and only when, no chunk ends inside a length field or a payload. -/
theorem decodeAll_exact (valid : Framable frames) (awaits : Awaits need frames)
    (stream : chunks.flatten = (encodeAll frames).drop (held need)) :
    (decodeAll need chunks).2 = frames ↔
      ∀ count ≤ chunks.length, CleanCut frames (held need + (chunks.take count).flatten.length) := by
  induction chunks generalizing need frames with
  | nil =>
    rcases awaits with rfl | ⟨frame, later, rfl, rfl⟩
    · cases frames with
      | nil => simp [decodeAll, CleanCut]
      | cons frame frames => simp [encodeAll_cons] at stream
    · have nonempty := valid.head.1
      rw [held_of_ne (by omega), encodeAll_cons] at stream
      have empty : frame = [] := by
        have both : [] = frame ++ encodeAll later := by simpa using stream
        exact (List.append_eq_nil_iff.mp both.symm).1
      simp [empty] at nonempty
  | cons chunk chunks ih =>
    rcases chunkOutcome valid awaits (by simpa using stream) with
      ⟨cut, left, delivered, awaits', remaining⟩ | ⟨cut, lost⟩
    · have validDelivered : Framable (decode need chunk).2 :=
        fun frame member => valid frame (by rw [delivered]; simp [member])
      have validLeft : Framable left :=
        fun frame member => valid frame (by rw [delivered]; simp [member])
      have balance := clean_balance frames awaits (by simpa using stream) delivered awaits' remaining
      have tail : (decodeAll need (chunk :: chunks)).2 = frames ↔
          (decodeAll (decode need chunk).1 chunks).2 = left := by
        conv_lhs => rw [delivered]
        simp [decodeAll]
      rw [tail, ih validLeft awaits' remaining]
      have shift : ∀ position, CleanCut frames (held need + (chunk.length + position)) ↔
          CleanCut left (held (decode need chunk).1 + position) := by
        intro position
        rw [← Nat.add_assoc, balance, Nat.add_assoc, delivered, ← cleanCut_append validDelivered left]
      constructor
      · intro later count within
        cases count with
        | zero => simpa using (cut_of_awaits awaits)
        | succ count =>
          simp only [List.take_succ_cons, List.flatten_cons, List.length_append]
          exact (shift _).mpr (later count (by simpa using within))
      · intro all count within
        have step := all (count + 1) (by simpa using within)
        simp only [List.take_succ_cons, List.flatten_cons, List.length_append] at step
        exact (shift _).mp step
    · constructor
      · intro exact
        have later := decodeAll_conserves (decode need chunk).1 chunks
        have total := congrArg List.length stream
        have within := held_le_spent awaits
        have account : spent frames =
            spent (decode need chunk).2 + spent (decodeAll (decode need chunk).1 chunks).2 := by
          rw [← exact]
          simp [decodeAll, spent_append]
        simp only [List.flatten_cons, List.length_append, List.length_drop] at total
        simp only [spent] at *
        omega
      · intro all
        have step := all 1 (by simp)
        exact absurd (by simpa using step) cut

theorem decodeAll_idle_exact (valid : Framable frames) (stream : chunks.flatten = encodeAll frames) :
    (decodeAll 0 chunks).2 = frames ↔ CleanCuts frames chunks := by
  have general : (decodeAll 0 chunks).2 = frames ↔ ∀ count ≤ chunks.length,
      CleanCut frames (held 0 + (chunks.take count).flatten.length) :=
    decodeAll_exact valid (.inl rfl) (by simpa using stream)
  simpa [CleanCuts] using general

end Playground.Framing
