import Mathlib.Data.List.Nodup

/-! Lists whose items have distinct keys. -/

namespace Playground.Record

universe u v

section Keyed

variable {Item : Type u} {Key : Type v} [DecidableEq Key] {key : Item → Key} {items : List Item} {item : Item}

theorem find?_key (distinct : (items.map key).Nodup) (member : item ∈ items) :
    items.find? (fun other => key other = key item) = some item := by
  cases found : items.find? (fun other => key other = key item) with
  | none => exact absurd (decide_eq_true rfl) (List.find?_eq_none.mp found item member)
  | some other =>
    have same : key other = key item := by simpa using List.find?_some found
    rw [List.inj_on_of_nodup_map distinct (List.mem_of_find?_eq_some found) member same]

theorem filter_key (distinct : (items.map key).Nodup) (member : item ∈ items) :
    items.filter (fun other => key other = key item) = [item] := by
  induction items with
  | nil => cases member
  | cons first rest ih =>
    rw [List.map_cons, List.nodup_cons] at distinct
    rcases List.mem_cons.mp member with rfl | later
    · have others : rest.filter (fun other => key other = key item) = [] := by
        refine List.filter_eq_nil_iff.mpr fun other inRest same => distinct.1 ?_
        exact of_decide_eq_true same ▸ List.mem_map_of_mem inRest
      simp [others]
    · have different : key first ≠ key item := fun same => distinct.1 (same ▸ List.mem_map_of_mem later)
      rw [List.filter_cons_of_neg (by simpa using different), ih distinct.2 later]

end Keyed

section Lookup

variable {Key : Type u} {Value : Type v} [DecidableEq Key] {entries : List (Key × Value)} {key : Key} {value : Value}

theorem lookup_filter_ne (entries : List (Key × Value)) (key other : Key) :
    (entries.filter fun entry => entry.1 != key).lookup other =
      if other = key then none else entries.lookup other := by
  induction entries with
  | nil => simp
  | cons entry entries ih =>
    by_cases dropped : entry.1 = key
    · rw [List.filter_cons_of_neg (by simpa using dropped), ih, List.lookup_cons]
      by_cases same : other = key
      · rw [if_pos same, if_pos same]
      · rw [if_neg same, if_neg same, beq_false_of_ne (fun found => same (found.trans dropped))]
    · rw [List.filter_cons_of_pos (by simpa using dropped), List.lookup_cons, List.lookup_cons, ih]
      by_cases found : other = entry.1
      · rw [beq_iff_eq.mpr found, if_neg (fun same => dropped (found.symm.trans same)),
          if_neg (fun same => dropped (found.symm.trans same))]
      · rw [beq_false_of_ne found]

theorem lookup_of_mem (distinct : (entries.map Prod.fst).Nodup) (member : (key, value) ∈ entries) :
    entries.lookup key = some value := by
  obtain ⟨before, after, rfl⟩ := List.append_of_mem member
  refine List.lookup_eq_some_iff.mpr ⟨before, after, rfl, ?_⟩
  intro entry early
  rw [List.map_append, List.nodup_append] at distinct
  have different := distinct.2.2 entry.1 (List.mem_map_of_mem early) key (by simp)
  simpa using Ne.symm different

end Lookup

end Playground.Record
