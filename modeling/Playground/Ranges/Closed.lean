import Mathlib

/-! Closed ranges of an order. -/

namespace Playground.Ranges

section Positions

variable {α : Type} [LinearOrder α] {first last low high : α}

theorem disjoint_Icc_iff (ordered : first ≤ last) (own : low ≤ high) :
    Disjoint (Set.Icc first last) (Set.Icc low high) ↔
      first ∉ Set.Icc low high ∧ last ∉ Set.Icc low high ∧ ¬ (first < low ∧ high < last) := by
  rw [Set.disjoint_left]
  constructor
  · intro apart
    refine ⟨apart ⟨le_refl first, ordered⟩, apart ⟨ordered, le_refl last⟩, ?_⟩
    rintro ⟨before, behind⟩
    exact apart ⟨before.le, own.trans behind.le⟩ ⟨le_refl low, own⟩
  · rintro ⟨firstOutside, lastOutside, unenclosed⟩ point ⟨fromFirst, toLast⟩ ⟨fromLow, toHigh⟩
    have before : first < low := by
      by_contra inside
      exact firstOutside ⟨not_lt.mp inside, fromFirst.trans toHigh⟩
    have behind : high < last := by
      by_contra inside
      exact lastOutside ⟨fromLow.trans toLast, not_lt.mp inside⟩
    exact unenclosed ⟨before, behind⟩

end Positions

section Lists

variable {β : Type} {accepts : β → Bool} {items other : List β}

/-- No two items are accepted together. -/
def Exclusive (accepts : β → Bool) (items : List β) : Prop :=
  items.Pairwise fun one other => ¬ (accepts one ∧ accepts other)

theorem Exclusive.countP_le_one (exclusive : Exclusive accepts items) : items.countP accepts ≤ 1 := by
  induction items with
  | nil => exact Nat.zero_le 1
  | cons item rest ih =>
    obtain ⟨here, later⟩ := List.pairwise_cons.mp exclusive
    by_cases own : accepts item
    · have none : rest.countP accepts = 0 :=
        List.countP_eq_zero.mpr fun other member accepted => here other member ⟨own, accepted⟩
      rw [List.countP_cons_of_pos own, none]
    · rw [List.countP_cons_of_neg own]
      exact ih later

theorem Exclusive.find?_perm (exclusive : Exclusive accepts items) (perm : other.Perm items) :
    other.find? accepts = items.find? accepts := by
  have filtered := perm.filter accepts
  have short : (items.filter accepts).length ≤ 1 :=
    List.countP_eq_length_filter ▸ exclusive.countP_le_one
  rw [← List.head?_filter, ← List.head?_filter]
  cases accepted : items.filter accepts with
  | nil =>
    rw [accepted] at filtered
    rw [filtered.eq_nil]
  | cons item rest =>
    have alone : rest = [] := by
      rw [accepted, List.length_cons] at short
      exact List.eq_nil_of_length_eq_zero (by omega)
    subst alone
    rw [accepted] at filtered
    rw [List.perm_singleton.mp filtered]

end Lists

end Playground.Ranges
