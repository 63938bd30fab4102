import Mathlib.Data.List.Induction
import Mathlib.Logic.Function.Basic

/-! Maps into which items are put under keys and from which keys are dropped. -/

namespace Playground.Record

variable {Key Item Event : Type}

/-- A change of a store. -/
inductive Change (Key Item : Type) where
  | put (key : Key) (item : Item)
  | drop (key : Key)

def Change.key : Change Key Item → Key
  | .put key _ => key
  | .drop key => key

variable [DecidableEq Key]

def Change.apply (store : Key → Option Item) : Change Key Item → Key → Option Item
  | .put key item => Function.update store key (some item)
  | .drop key => Function.update store key none

/-- What a store holds after changes, the earliest first. -/
def kept (changes : List (Change Key Item)) : Key → Option Item :=
  changes.foldl Change.apply fun _ => none

theorem kept_concat (changes : List (Change Key Item)) (change : Change Key Item) :
    kept (changes ++ [change]) = change.apply (kept changes) :=
  List.foldl_append

theorem Change.apply_other (store : Key → Option Item) {change : Change Key Item} {key : Key}
    (other : change.key ≠ key) : change.apply store key = store key := by
  cases change with
  | put own item => exact Function.update_of_ne (Ne.symm other) _ _
  | drop own => exact Function.update_of_ne (Ne.symm other) _ _

theorem kept_eq_some_iff {changes : List (Change Key Item)} {key : Key} {item : Item} :
    kept changes key = some item ↔
      ∃ before after, changes = before ++ .put key item :: after ∧ ∀ change ∈ after, change.key ≠ key := by
  induction changes using List.reverseRecOn with
  | nil => simp [kept]
  | append_singleton changes change ih =>
    rw [kept_concat]
    by_cases other : change.key = key
    · -- the last change decides, and nothing stands behind it
      have last : (∃ before after, changes ++ [change] = before ++ .put key item :: after ∧
          ∀ later ∈ after, later.key ≠ key) ↔ change = .put key item := by
        constructor
        · rintro ⟨before, after, split, untouched⟩
          rcases List.eq_nil_or_concat after with rfl | ⟨after, final, rfl⟩
          · exact List.singleton_inj.mp (List.append_inj' split rfl).2
          · rw [List.concat_eq_append, ← List.cons_append, ← List.append_assoc] at split
            have same : change = final := List.singleton_inj.mp (List.append_inj' split rfl).2
            exact absurd (same ▸ other) (untouched final (by simp))
        · rintro rfl
          exact ⟨changes, [], rfl, nofun⟩
      rw [last]
      subst other
      cases change with
      | put own new => simp [Change.apply, Change.key]
      | drop own => simp [Change.apply, Change.key]
    · rw [Change.apply_other _ other, ih]
      constructor
      · rintro ⟨before, after, rfl, untouched⟩
        refine ⟨before, after ++ [change], by simp, fun later member => ?_⟩
        rcases List.mem_append.mp member with inside | last
        · exact untouched later inside
        · exact List.mem_singleton.mp last ▸ other
      · rintro ⟨before, after, split, untouched⟩
        rcases List.eq_nil_or_concat after with rfl | ⟨after, final, rfl⟩
        · have same : change = .put key item := List.singleton_inj.mp (List.append_inj' split rfl).2
          exact absurd (same ▸ rfl) other
        · rw [List.concat_eq_append, ← List.cons_append, ← List.append_assoc] at split
          obtain ⟨rfl, -⟩ := List.append_inj' split rfl
          exact ⟨before, after, rfl, fun later member => untouched later (by simp [member])⟩

theorem exists_kept {before after : List (Change Key Item)} {key : Key} {item : Item}
    (undropped : .drop key ∉ after) : ∃ last, kept (before ++ .put key item :: after) key = some last := by
  induction after using List.reverseRecOn with
  | nil =>
    rw [kept_concat]
    exact ⟨item, Function.update_self ..⟩
  | append_singleton after change ih =>
    rw [← List.cons_append, ← List.append_assoc, kept_concat]
    by_cases own : change.key = key
    · subst own
      cases change with
      | put own new => exact ⟨new, Function.update_self ..⟩
      | drop own => exact absurd (List.mem_append_right _ List.mem_cons_self) undropped
    · rw [Change.apply_other _ own]
      exact ih fun member => undropped (List.mem_append_left _ member)

theorem kept_filterMap_concat (change : Event → Option (Change Key Item)) (events : List Event)
    (event : Event) :
    kept ((events ++ [event]).filterMap change) =
      (change event).elim (kept (events.filterMap change)) (·.apply (kept (events.filterMap change))) := by
  rw [List.filterMap_append]
  cases made : change event with
  | none => simp [made]
  | some own => simp [made, kept_concat]

theorem kept_filterMap_iff {change : Event → Option (Change Key Item)} {events : List Event} {key : Key}
    {item : Item} :
    kept (events.filterMap change) key = some item ↔
      ∃ before event after, events = before ++ event :: after ∧ change event = some (.put key item) ∧
        ∀ later ∈ after, ∀ own ∈ change later, own.key ≠ key := by
  rw [kept_eq_some_iff]
  constructor
  · rintro ⟨before, after, split, untouched⟩
    obtain ⟨first, rest, rfl, -, made⟩ := List.filterMap_eq_append_iff.mp split
    obtain ⟨skipped, event, behind, rfl, -, own, rfl⟩ := List.filterMap_eq_cons_iff.mp made
    refine ⟨first ++ skipped, event, behind, by simp, own, fun later member change made => ?_⟩
    exact untouched change (List.mem_filterMap.mpr ⟨later, member, made⟩)
  · rintro ⟨before, event, after, rfl, own, untouched⟩
    refine ⟨before.filterMap change, after.filterMap change, by simp [own], fun later member => ?_⟩
    obtain ⟨event, inside, made⟩ := List.mem_filterMap.mp member
    exact untouched event inside later made

end Playground.Record
