import Mathlib.Data.List.Forall2

/-! Lists of fallible calls, and records filled one field after the other. -/

namespace Playground.Record

variable {ε α β : Type} {R ι C : Type}

variable {first : Except ε α} {out : List β} {call : α → Option β} {items keys : List α} {rel : α → β → Prop}

theorem bind_eq_ok {next : α → Except ε β} {out : β} :
    first >>= next = .ok out ↔ ∃ middle, first = .ok middle ∧ next middle = .ok out := by
  cases first with
  | error fault => exact ⟨nofun, fun ⟨_, failed, _⟩ => nomatch failed⟩
  | ok value => exact ⟨fun ran => ⟨value, rfl, ran⟩, fun ⟨_, same, ran⟩ => Except.ok.inj same ▸ ran⟩

theorem map_eq_ok {change : α → β} {out : β} :
    first.map change = .ok out ↔ ∃ middle, first = .ok middle ∧ change middle = out := by
  cases first with
  | error fault => exact ⟨nofun, fun ⟨_, failed, _⟩ => nomatch failed⟩
  | ok value =>
    exact ⟨fun same => ⟨value, rfl, Except.ok.inj same⟩, fun ⟨_, same, changed⟩ =>
      congrArg Except.ok (Except.ok.inj same ▸ changed)⟩

theorem map_eq_error {change : α → β} {fault : ε} :
    first.map change = .error fault ↔ first = .error fault := by
  cases first with
  | error own => exact ⟨fun same => congrArg Except.error (Except.error.inj same),
      fun same => congrArg Except.error (Except.error.inj same)⟩
  | ok value => exact ⟨nofun, nofun⟩

theorem mapM_eq_ok {call : α → Except ε β} :
    items.mapM call = .ok out ↔ List.Forall₂ (fun item result => call item = .ok result) items out := by
  induction items generalizing out with
  | nil =>
    rw [List.mapM_nil, List.forall₂_nil_left_iff]
    exact ⟨fun same => (Except.ok.inj same).symm, fun same => congrArg Except.ok same.symm⟩
  | cons item rest ih =>
    rw [List.mapM_cons, bind_eq_ok, List.forall₂_cons_left_iff]
    constructor
    · rintro ⟨result, called, ran⟩
      obtain ⟨results, later, same⟩ := bind_eq_ok.mp ran
      exact ⟨result, results, called, ih.mp later, (Except.ok.inj same).symm⟩
    · rintro ⟨result, results, called, later, rfl⟩
      exact ⟨result, called, bind_eq_ok.mpr ⟨results, ih.mpr later, rfl⟩⟩

theorem forall_mem_mapM {fine : β → Prop} (mapped : items.mapM call = some out) :
    (∀ result ∈ out, fine result) ↔ ∀ item ∈ items, ∀ result ∈ call item, fine result := by
  induction items generalizing out with
  | nil =>
    obtain rfl : [] = out := by simpa using mapped
    exact ⟨fun _ => nofun, fun _ => nofun⟩
  | cons item rest ih =>
    rw [List.mapM_cons] at mapped
    obtain ⟨result, called, mapped⟩ := Option.bind_eq_some_iff.mp mapped
    obtain ⟨results, later, same⟩ := Option.bind_eq_some_iff.mp mapped
    cases same
    simp only [List.forall_mem_cons, ih later, called, Option.mem_some_iff, forall_eq']

theorem length_of_mapM (mapped : items.mapM call = some out) : items.length = out.length := by
  induction items generalizing out with
  | nil =>
    obtain rfl : [] = out := by simpa using mapped
    rfl
  | cons item rest ih =>
    rw [List.mapM_cons] at mapped
    obtain ⟨result, -, mapped⟩ := Option.bind_eq_some_iff.mp mapped
    obtain ⟨results, later, same⟩ := Option.bind_eq_some_iff.mp mapped
    cases same
    simp [ih later]

theorem mapM_map_eq_some {change : β → C} {out : List C} :
    items.mapM (fun item => (call item).map change) = some out ↔
      ∃ inner, items.mapM call = some inner ∧ out = inner.map change := by
  induction items generalizing out with
  | nil => simp [eq_comm]
  | cons item rest ih =>
    rw [List.mapM_cons, List.mapM_cons]
    cases called : call item with
    | none => simp
    | some result =>
      simp only [Option.map_some, Option.bind_eq_bind, Option.bind_some, Option.bind_eq_some_iff, ih]
      constructor
      · rintro ⟨results, ⟨inner, made, rfl⟩, same⟩
        cases same
        exact ⟨result :: inner, ⟨inner, made, rfl⟩, rfl⟩
      · rintro ⟨inner, ⟨rest, made, same⟩, rfl⟩
        cases same
        exact ⟨rest.map change, ⟨rest, made, rfl⟩, rfl⟩

theorem exists_of_mapM_eq {other : α → Option β} {item : α}
    (mapped : items.mapM call = some out) (same : items.mapM other = some out) (member : item ∈ items) :
    ∃ result, call item = some result ∧ other item = some result := by
  induction items generalizing out with
  | nil => cases member
  | cons first rest ih =>
    rw [List.mapM_cons] at mapped same
    obtain ⟨result, called, mapped⟩ := Option.bind_eq_some_iff.mp mapped
    obtain ⟨results, later, whole⟩ := Option.bind_eq_some_iff.mp mapped
    obtain ⟨resultToo, calledToo, same⟩ := Option.bind_eq_some_iff.mp same
    obtain ⟨resultsToo, laterToo, wholeToo⟩ := Option.bind_eq_some_iff.mp same
    obtain ⟨rfl, rfl⟩ := List.cons.inj (Option.some.inj (whole.trans wholeToo.symm))
    rcases List.mem_cons.mp member with rfl | inside
    · exact ⟨result, called, calledToo⟩
    · exact ih later laterToo inside

theorem exists_of_mapM {item : α}
    (mapped : items.mapM call = some out) (member : item ∈ items) : ∃ result, call item = some result :=
  (exists_of_mapM_eq mapped mapped member).imp fun _ => And.left

theorem mapM_congr {other : α → Option β} (same : ∀ item ∈ items, call item = other item) :
    items.mapM call = items.mapM other := by
  induction items with
  | nil => rfl
  | cons item rest ih =>
    obtain ⟨here, later⟩ := List.forall_mem_cons.mp same
    rw [List.mapM_cons, List.mapM_cons, here, ih later]

theorem exists_row {items : List β}
    (rows : List.Forall₂ rel keys items) {key : α} (member : key ∈ keys) : ∃ item, rel key item := by
  induction rows with
  | nil => cases member
  | @cons other item keys items first rest ih =>
    rcases List.mem_cons.mp member with rfl | later
    · exact ⟨item, first⟩
    · exact ih later

theorem map_eq_map {items : List β} {left : α → C} {right : β → C}
    (rows : List.Forall₂ rel keys items) (same : ∀ {key item}, rel key item → right item = left key) :
    items.map right = keys.map left := by
  induction rows with
  | nil => rfl
  | cons first _ ih => rw [List.map_cons, List.map_cons, same first, ih]

theorem exists_find? {items : List β}
    (rows : List.Forall₂ rel keys items) {key : α} (member : key ∈ keys) {test : β → Bool}
    (exact : ∀ {other item}, other ∈ keys → rel other item → (test item = true ↔ other = key)) :
    ∃ item, items.find? test = some item ∧ rel key item := by
  induction rows with
  | nil => cases member
  | @cons other item keys items first rest ih =>
    by_cases own : other = key
    · subst own
      exact ⟨item, List.find?_cons_of_pos ((exact List.mem_cons_self first).mpr rfl), first⟩
    · have passed : ¬ test item := fun tested => own ((exact List.mem_cons_self first).mp tested)
      have later := (List.mem_cons.mp member).resolve_left fun same => own same.symm
      rw [List.find?_cons_of_neg passed]
      exact ih later fun member => exact (List.mem_cons_of_mem _ member)

/-- What `step` does to a record that is blank at `key`: it writes the field that `field`
yields, and nothing else. -/
structure Fills (get : R → ι → C) (field : Except ε C) (step : R → Except ε R) (key : ι) (record : R) :
    Prop where
  writes : ∀ {content}, field = .ok content → ∃ next, step record = .ok next ∧ get next key = content
  yields : ∀ {next}, step record = .ok next → field = .ok (get next key)
  frame : ∀ {next other}, step record = .ok next → other ≠ key → get next other = get record other

theorem foldlM_fills {get : R → ι → C} (determined : ∀ {left right}, get left = get right → left = right)
    {blank : ι → C} {field : ι → Except ε C} {step : R → ι → Except ε R}
    (fills : ∀ {key record}, get record key = blank key →
      Fills get (field key) (step · key) key record)
    {keys : List ι} (distinct : keys.Nodup)
    {record final : R} (fresh : ∀ key ∈ keys, get record key = blank key) :
    keys.foldlM step record = .ok final ↔
      (∀ key ∈ keys, field key = .ok (get final key)) ∧
        ∀ other ∉ keys, get final other = get record other := by
  induction keys generalizing record with
  | nil =>
    rw [List.foldlM_nil]
    constructor
    · intro same
      obtain rfl := Except.ok.inj same
      exact ⟨nofun, fun _ _ => rfl⟩
    · rintro ⟨-, same⟩
      exact congrArg Except.ok (determined (funext fun other => (same other nofun).symm))
  | cons key keys ih =>
    obtain ⟨new, distinct⟩ := List.nodup_cons.mp distinct
    have filled := fills (fresh key List.mem_cons_self)
    have later {next : R} (stepped : step record key = .ok next) :
        ∀ other ∈ keys, get next other = blank other := by
      intro other member
      have different : other ≠ key := fun same => new (same ▸ member)
      exact (filled.frame stepped different).trans (fresh other (List.mem_cons_of_mem _ member))
    rw [List.foldlM_cons, bind_eq_ok]
    constructor
    · rintro ⟨next, stepped, ran⟩
      obtain ⟨inside, outside⟩ := (ih distinct (later stepped)).mp ran
      refine ⟨fun other member => ?_, fun other absent => ?_⟩
      · rcases List.mem_cons.mp member with rfl | member
        · exact (filled.yields stepped).trans (congrArg Except.ok (outside other new).symm)
        · exact inside other member
      · rw [List.mem_cons, not_or] at absent
        exact (outside other absent.2).trans (filled.frame stepped absent.1)
    · rintro ⟨inside, outside⟩
      obtain ⟨next, stepped, own⟩ := filled.writes (inside key List.mem_cons_self)
      refine ⟨next, stepped, (ih distinct (later stepped)).mpr ⟨?_, ?_⟩⟩
      · exact fun other member => inside other (List.mem_cons_of_mem _ member)
      · intro other absent
        by_cases same : other = key
        · rw [same, own]
        · exact (outside other (List.not_mem_cons_of_ne_of_not_mem same absent)).trans
            (filled.frame stepped same).symm

end Playground.Record
