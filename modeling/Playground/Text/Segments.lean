import Mathlib.Tactic

/-! The segments between the breaks of a text, and a scan from break to break that collects them. -/

namespace Playground.Text

/-- The positions from `i` up to `j` have no break, and there is one on each side of them. -/
structure IsSegment (isBreak : Nat → Prop) (i j : Nat) : Prop where
  nonempty : i < j
  solid : ∀ k, i ≤ k → k < j → ¬ isBreak k
  left : i = 0 ∨ isBreak (i - 1)
  right : isBreak j

section Scan

variable {isBreak : Nat → Prop} {start stop : Nat} {spans : List (Nat × Nat)}

theorem exists_left {k : Nat} (inside : ¬ isBreak k) :
    ∃ i ≤ k, (i = 0 ∨ isBreak (i - 1)) ∧ ∀ m, i ≤ m → m ≤ k → ¬ isBreak m := by
  induction k with
  | zero =>
    refine ⟨0, le_rfl, .inl rfl, fun m _ below => ?_⟩
    rwa [Nat.le_zero.mp below]
  | succ k ih =>
    by_cases before : isBreak k
    · refine ⟨k + 1, le_rfl, .inr before, fun m above below => ?_⟩
      rwa [le_antisymm below above]
    · obtain ⟨i, le, left, solid⟩ := ih before
      refine ⟨i, Nat.le_succ_of_le le, left, fun m above below => ?_⟩
      rcases Nat.le_succ_iff.mp below with earlier | rfl
      · exact solid m above earlier
      · exact inside

theorem exists_segment {k n : Nat} (inside : ¬ isBreak k) (behind : k ≤ n) (broken : isBreak n) :
    ∃ i j, IsSegment isBreak i j := by
  classical
  have ends : ∃ j, k ≤ j ∧ isBreak j := ⟨n, behind, broken⟩
  obtain ⟨after, right⟩ := Nat.find_spec ends
  obtain ⟨i, le, left, solid⟩ := exists_left inside
  have beyond : k < Nat.find ends := by
    refine lt_of_le_of_ne after fun same => inside ?_
    rw [same]
    exact right
  refine ⟨i, Nat.find ends, lt_of_le_of_lt le beyond, fun m above below => ?_, left, right⟩
  by_cases early : m ≤ k
  · exact solid m above early
  · exact fun breaks => Nat.find_min ends below ⟨Nat.le_of_not_le early, breaks⟩

/-- A scan has found the segments that end before `start`, and no segment goes on there. -/
structure Scanned (isBreak : Nat → Prop) (start : Nat) (spans : List (Nat × Nat)) : Prop where
  cut : start = 0 ∨ isBreak (start - 1)
  ordered : spans.Pairwise fun one two => one.2 < two.1
  found : ∀ span, span ∈ spans ↔ IsSegment isBreak span.1 span.2 ∧ span.2 < start

theorem Scanned.nil : Scanned isBreak 0 [] where
  cut := .inl rfl
  ordered := .nil
  found _ := iff_of_false List.not_mem_nil fun ends => Nat.not_lt_zero _ ends.2

theorem Scanned.next_iff (scanned : Scanned isBreak start spans) (above : start ≤ stop)
    (breaks : isBreak stop)
    (solid : ∀ k, start ≤ k → k < stop → ¬ isBreak k) {i j : Nat} :
    IsSegment isBreak i j ∧ start ≤ j ∧ j ≤ stop ↔ start < stop ∧ i = start ∧ j = stop := by
  constructor
  · rintro ⟨segment, late, early⟩
    have last : j = stop := by
      by_contra other
      exact solid j late (lt_of_le_of_ne early other) segment.right
    subst last
    have nonempty := segment.nonempty
    -- A segment from before `start` would have the break there inside.
    have begins : start ≤ i := by
      by_contra before
      rcases scanned.cut with zero | cut
      · omega
      · exact segment.solid (start - 1) (by omega) (by omega) cut
    have first : i = start := by
      rcases segment.left with zero | left
      · omega
      · by_contra other
        exact solid (i - 1) (by omega) (by omega) left
    exact ⟨by omega, first, rfl⟩
  · rintro ⟨nonempty, rfl, rfl⟩
    exact ⟨⟨nonempty, solid, scanned.cut, breaks⟩, nonempty.le, le_rfl⟩

theorem Scanned.next (scanned : Scanned isBreak start spans) (above : start ≤ stop) (breaks : isBreak stop)
    (solid : ∀ k, start ≤ k → k < stop → ¬ isBreak k) :
    Scanned isBreak (stop + 1) (if start < stop then spans ++ [(start, stop)] else spans) := by
  have next (i j : Nat) := scanned.next_iff above breaks solid (i := i) (j := j)
  have ends (i j : Nat) : IsSegment isBreak i j ∧ j < stop + 1 ↔
      (IsSegment isBreak i j ∧ j < start) ∨ start < stop ∧ i = start ∧ j = stop := by
    rw [← next i j, ← and_or_left]
    refine and_congr_right fun _ => ?_
    omega
  split
  next nonempty =>
    refine ⟨.inr breaks, ?_, fun span => ?_⟩
    · refine List.pairwise_append.mpr ⟨scanned.ordered, List.pairwise_singleton _ _, fun one member two new => ?_⟩
      rw [List.mem_singleton.mp new]
      exact ((scanned.found one).mp member).2
    · rw [ends, List.mem_append, scanned.found, List.mem_singleton, Prod.ext_iff]
      simp only [nonempty, true_and]
  next empty =>
    refine ⟨.inr breaks, scanned.ordered, fun span => ?_⟩
    rw [ends, scanned.found]
    simp only [empty, false_and, or_false]

end Scan

variable {Item : Type*} {sep : Item} {text : List Item} {tokens : List (List Item)}

def IsBreak (sep : Item) (text : List Item) (k : Nat) : Prop := ∀ item, text[k]? = some item → item = sep

theorem isBreak_iff {k : Nat} (le : k ≤ text.length) :
    IsBreak sep text k ↔ (text ++ [sep])[k]? = some sep := by
  unfold IsBreak
  rcases Nat.lt_or_eq_of_le le with inside | rfl
  · rw [List.getElem?_append_left inside, List.getElem?_eq_getElem inside]
    simp [eq_comm]
  · simp

/-- The tokens are the segments between the separators, all of them and in their order. -/
def Segmentation (sep : Item) (text : List Item) (tokens : List (List Item)) : Prop :=
  ∃ spans : List (Nat × Nat), (spans.Pairwise fun one two => one.2 < two.1) ∧
    (∀ span, span ∈ spans ↔ IsSegment (IsBreak sep text) span.1 span.2) ∧
    tokens = spans.map fun span => text.extract span.1 span.2

theorem not_isBreak_lt {k : Nat} (inside : ¬ IsBreak sep text k) : k < text.length := by
  by_contra beyond
  refine inside fun item found => ?_
  rw [List.getElem?_eq_none (Nat.not_lt.mp beyond)] at found
  cases found

theorem Scanned.segmentation {start : Nat} {spans : List (Nat × Nat)}
    (scanned : Scanned (IsBreak sep text) start spans) (whole : text.length < start) :
    Segmentation sep text (spans.map fun span => text.extract span.1 span.2) := by
  refine ⟨spans, scanned.ordered, fun span => ?_, rfl⟩
  rw [scanned.found]
  refine and_iff_left_of_imp fun segment => ?_
  have nonempty := segment.nonempty
  have inside := not_isBreak_lt (segment.solid (span.2 - 1) (by omega) (by omega))
  omega

theorem Segmentation.eq_nil_iff (segmentation : Segmentation sep text tokens) :
    tokens = [] ↔ ∀ item ∈ text, item = sep := by
  obtain ⟨spans, _, found, rfl⟩ := segmentation
  rw [List.map_eq_nil_iff]
  constructor
  · rintro rfl item member
    obtain ⟨k, place⟩ := List.mem_iff_getElem?.mp member
    by_contra other
    have inside : ¬ IsBreak sep text k := fun breaks => other (breaks item place)
    have last : IsBreak sep text text.length := fun item found => by simp at found
    obtain ⟨i, j, segment⟩ := exists_segment inside (not_isBreak_lt inside).le last
    exact List.not_mem_nil ((found (i, j)).mpr segment)
  · intro blank
    refine List.eq_nil_iff_forall_not_mem.mpr fun span member => ?_
    have segment := (found span).mp member
    refine segment.solid span.1 le_rfl segment.nonempty fun item here => ?_
    exact blank item (List.mem_of_getElem? here)

end Playground.Text
