import Mathlib.Tactic

/-! Items indexed by a key in an ordered map. -/

namespace Playground.Ordered

open Std (TreeMap)

variable {Key Item : Type} [LinearOrder Key] {map : TreeMap Key Item}

/-- The first entry from the key on. -/
def lowerBound (map : TreeMap Key Item) (key : Key) : Option (Key × Item) :=
  map.toList.find? fun entry => key ≤ entry.1

/-- The first entry behind the key. -/
def upperBound (map : TreeMap Key Item) (key : Key) : Option (Key × Item) :=
  map.toList.find? fun entry => key < entry.1

theorem toList_increasing (map : TreeMap Key Item) : map.toList.Pairwise fun one other => one.1 < other.1 :=
  TreeMap.ordered_keys_toList.imp compare_lt_iff_lt.mp

theorem find?_toList {fits : Key → Bool} {entry : Key × Item} :
    map.toList.find? (fun entry => fits entry.1) = some entry ↔
      entry ∈ map.toList ∧ fits entry.1 ∧ ∀ other ∈ map.toList, fits other.1 → entry.1 ≤ other.1 := by
  have increasing := toList_increasing map
  rw [List.find?_eq_some_iff_append]
  constructor
  · rintro ⟨own, before, after, split, skipped⟩
    refine ⟨by simp [split], own, fun other member fitting => ?_⟩
    rw [split] at member increasing
    rcases List.mem_append.mp member with early | late
    · have unfit := skipped other early
      simp [fitting] at unfit
    · rcases List.mem_cons.mp late with rfl | behind
      · exact le_refl _
      · obtain ⟨-, tail, -⟩ := List.pairwise_append.mp increasing
        exact le_of_lt ((List.pairwise_cons.mp tail).1 other behind)
  · rintro ⟨member, own, least⟩
    obtain ⟨before, after, split⟩ := List.append_of_mem member
    refine ⟨own, before, after, split, fun other early => ?_⟩
    by_contra fitting
    have fitting : fits other.1 := by simpa using fitting
    have later := least other (by simp [split, early]) fitting
    rw [split] at increasing
    obtain ⟨-, -, across⟩ := List.pairwise_append.mp increasing
    exact absurd (across other early entry List.mem_cons_self) (not_lt.mpr later)

theorem toList_insert_new {key : Key} (item : Item) (absent : map[key]? = none) :
    (map.insert key item).toList.Perm ((key, item) :: map.toList) := by
  refine TreeMap.toList_insert_perm.trans (List.Perm.cons _ ?_)
  refine List.Perm.of_eq (List.filter_eq_self.mpr fun entry member => decide_eq_true fun same => ?_)
  obtain rfl := beq_iff_eq.mp same
  have present : map[entry.1]? = some entry.2 := TreeMap.mem_toList_iff_getElem?_eq_some.mp member
  cases absent.symm.trans present

/-- The map has every item under its key, and nothing else. -/
def Indexes (map : TreeMap Key Item) (keyOf : Item → Key) (items : List Item) : Prop :=
  map.toList.Perm (items.map fun item => (keyOf item, item))

variable {keyOf : Item → Key} {items : List Item}

theorem indexes_empty (keyOf : Item → Key) : Indexes (∅ : TreeMap Key Item) keyOf [] := List.Perm.nil

namespace Indexes

variable {item : Item} {key : Key} (indexes : Indexes map keyOf items)

include indexes

theorem insert (absent : map[keyOf item]? = none) :
    Indexes (map.insert (keyOf item) item) keyOf (items ++ [item]) := by
  refine (toList_insert_new item absent).trans ?_
  rw [List.map_append]
  exact (indexes.cons _).trans (List.perm_append_singleton _ _).symm

theorem mem_toList {entry : Key × Item} :
    entry ∈ map.toList ↔ entry.2 ∈ items ∧ keyOf entry.2 = entry.1 := by
  rw [List.Perm.mem_iff indexes, List.mem_map]
  constructor
  · rintro ⟨item, member, rfl⟩
    exact ⟨member, rfl⟩
  · rintro ⟨member, own⟩
    exact ⟨entry.2, member, Prod.ext own rfl⟩

theorem getElem?_eq_some : map[key]? = some item ↔ item ∈ items ∧ keyOf item = key := by
  rw [← TreeMap.mem_toList_iff_getElem?_eq_some, indexes.mem_toList]

theorem find?_eq_some (fits : Key → Bool) (item : Item) :
    (map.toList.find? fun entry => fits entry.1).map Prod.snd = some item ↔
      item ∈ items ∧ fits (keyOf item) ∧ ∀ other ∈ items, fits (keyOf other) → keyOf item ≤ keyOf other := by
  rw [Option.map_eq_some_iff]
  constructor
  · rintro ⟨entry, found, rfl⟩
    obtain ⟨member, own, least⟩ := find?_toList.mp found
    obtain ⟨inside, same⟩ := indexes.mem_toList.mp member
    rw [same]
    exact ⟨inside, own, fun other within => least (keyOf other, other) (indexes.mem_toList.mpr ⟨within, rfl⟩)⟩
  · rintro ⟨inside, own, least⟩
    refine ⟨(keyOf item, item), find?_toList.mpr ⟨indexes.mem_toList.mpr ⟨inside, rfl⟩, own, ?_⟩, rfl⟩
    intro other member fitting
    obtain ⟨within, same⟩ := indexes.mem_toList.mp member
    rw [← same] at fitting ⊢
    exact least other.2 within fitting

theorem lowerBound_eq_some :
    (lowerBound map key).map Prod.snd = some item ↔
      item ∈ items ∧ key ≤ keyOf item ∧ ∀ other ∈ items, key ≤ keyOf other → keyOf item ≤ keyOf other := by
  unfold lowerBound
  exact (indexes.find?_eq_some (fun own => decide (key ≤ own)) item).trans (by simp only [decide_eq_true_eq])

theorem upperBound_eq_some :
    (upperBound map key).map Prod.snd = some item ↔
      item ∈ items ∧ key < keyOf item ∧ ∀ other ∈ items, key < keyOf other → keyOf item ≤ keyOf other := by
  unfold upperBound
  exact (indexes.find?_eq_some (fun own => decide (key < own)) item).trans (by simp only [decide_eq_true_eq])

theorem values_perm : (map.toList.map Prod.snd).Perm items := by
  have values := List.Perm.map Prod.snd indexes
  rwa [List.map_map, show Prod.snd ∘ (fun item => (keyOf item, item)) = id from rfl, List.map_id] at values

theorem values_increasing :
    (map.toList.map Prod.snd).Pairwise fun one other => keyOf one < keyOf other := by
  rw [List.pairwise_map]
  refine (toList_increasing map).imp_of_mem fun {one other} member memberToo below => ?_
  rw [(indexes.mem_toList.mp member).2, (indexes.mem_toList.mp memberToo).2]
  exact below

end Indexes

end Playground.Ordered
