import Playground.Player.Validity

/-! Runs of knapsack calls from the birth package. -/

namespace Playground.Player

open Transition RolePackage

variable {next knapsack : PlayerKnapsackLogic} {call : KnapsackCall}

/-- Counts below 2^31, and a package that stays below 2^31 grids. -/
def KnapsackCall.Bounded (pack : RolePackage) : KnapsackCall → Prop
  | .putItem _ num => num.toNat < 2 ^ 31
  | .removeItem _ num => num.toNat < 2 ^ 31
  | .removeGrid _ => True
  | .changeMaxGrid chg => pack.maxgrid.toNat + chg.toNat < 2 ^ 31

instance (pack : RolePackage) : DecidablePred (KnapsackCall.Bounded pack)
  | .putItem _ _ => inferInstanceAs (Decidable (_ < _))
  | .removeItem _ _ => inferInstanceAs (Decidable (_ < _))
  | .removeGrid _ => inferInstanceAs (Decidable True)
  | .changeMaxGrid _ => inferInstanceAs (Decidable (_ < _))

def KnapsackStep (knapsack : PlayerKnapsackLogic) (call : KnapsackCall) (next : PlayerKnapsackLogic) :
    Prop :=
  call.Bounded knapsack.pack ∧ ∃ ret, knapsack.call call = some (next, ret)

/-- The count of one kind moves by the amount, the other counts stay. -/
def Shifts (before after : RolePackage) (id : UInt32) (amount : Int) : Prop :=
  (after.getItemNum id).toInt = (before.getItemNum id).toInt + amount ∧
    ∀ other, other ≠ id → after.getItemNum other = before.getItemNum other

/-- What a call that returned the value did to the counts. -/
def Conserves (before after : RolePackage) (call : KnapsackCall) (ret : Int32) : Prop :=
  (ret = -1 → ∀ id, after.getItemNum id = before.getItemNum id) ∧
    (ret = 0 → match call with
      | .putItem item num => Shifts before after item.id num.toNat
      | .removeItem id num => Shifts before after id (-num.toNat)
      | .removeGrid pos => ∃ grid, before.findPackGrid pos = some grid ∧
          Shifts before after grid.item.id (-grid.num.toNat)
      | .changeMaxGrid _ => ∀ id, after.getItemNum id = before.getItemNum id)

namespace PlayerKnapsackLogic

variable {knapsack : PlayerKnapsackLogic}

theorem shifts_of_itemCount (before : knapsack.Valid)
    (after : next.Valid) {id : UInt32}
    (kind : (itemCount next.pack.grids id : Int) = itemCount knapsack.pack.grids id + amount)
    (others : ∀ other, other ≠ id → itemCount next.pack.grids other = itemCount knapsack.pack.grids other) :
    Shifts knapsack.pack next.pack id amount := by
  constructor
  · rw [toInt_getItemNum after, toInt_getItemNum before, kind]
  · intro other different
    rw [getItemNum_eq, getItemNum_eq, others other different]

def Returns (knapsack : PlayerKnapsackLogic) (call : KnapsackCall) : Prop :=
  ∃ next ret, knapsack.call call = some (next, ret) ∧ (ret = 0 ∨ ret = -1) ∧ next.Valid ∧
    Conserves knapsack.pack next.pack call ret

theorem conserves_refused (pack : RolePackage) (call : KnapsackCall) : Conserves pack pack call (-1) :=
  ⟨fun _ _ => rfl, fun zero => absurd zero (by decide)⟩

/-- What a bounded call on a valid package can do. -/
inductive Outcome (knapsack : PlayerKnapsackLogic) :
    KnapsackCall → PlayerKnapsackLogic → Int32 → Prop where
  | putRefused {item : RoleItem} {num : UInt32}
      (short : emptyCount knapsack.pack.grids item.id +
        (knapsack.pack.maxgrid.toNat - knapsack.pack.grids.length) < num.toNat) :
      Outcome knapsack (.putItem item num) knapsack (-1)
  | put {item : RoleItem} {num : UInt32} {filled : List RolePackGrid × UInt32}
      (fills : Fills item.id knapsack.pack.grids num filled)
      (room : filled.1.length + filled.2.toNat ≤ knapsack.pack.maxgrid.toNat) :
      Outcome knapsack (.putItem item num)
        (((withNewGrid item)^[filled.2.toNat] (knapsack.withGrids filled.1)).fireEvent eventPlayerItemAdd
          (eventParam item.id 0)) 0
  | removeRefused {id num : UInt32} : Outcome knapsack (.removeItem id num) knapsack (-1)
  | removed {id num : UInt32} {taken : List RolePackGrid × UInt32 × List UInt32}
      {next : PlayerKnapsackLogic} (enough : num.toNat ≤ itemCount knapsack.pack.grids id)
      (empties : Empties id knapsack.pack.grids num taken)
      (regrids : Regrids knapsack next
        (taken.1.filter fun grid => ¬ (grid.pos ∈ taken.2.2 ∧ grid.pos < knapsack.pack.maxgrid))) :
      Outcome knapsack (.removeItem id num) next 0
  | gridMissing {pos : UInt32} : Outcome knapsack (.removeGrid pos) knapsack (-1)
  | gridRemoved {pos : UInt32} {grid : RolePackGrid} {grids : List RolePackGrid}
      {next : PlayerKnapsackLogic} (found : knapsack.pack.findPackGrid pos = some grid)
      (perm : knapsack.pack.grids.Perm (grid :: grids)) (regrids : Regrids knapsack next grids) :
      Outcome knapsack (.removeGrid pos) next 0
  | grown {chg : UInt8}
      (sum : (knapsack.pack.maxgrid + chg.toUInt32).toNat = knapsack.pack.maxgrid.toNat + chg.toNat)
      (small : knapsack.pack.maxgrid.toNat + chg.toNat < 2 ^ 31) :
      Outcome knapsack (.changeMaxGrid chg) (knapsack.changeMaxGrid chg).1 0

theorem putItem_outcome (valid : knapsack.Valid) (item : RoleItem)
    {num : UInt32} (small : num.toNat < 2 ^ 31) :
    ∃ next ret, knapsack.putItem item num = some (next, ret) ∧
      Outcome knapsack (.putItem item num) next ret := by
  rcases Nat.lt_or_ge (emptyCount knapsack.pack.grids item.id +
      (knapsack.pack.maxgrid.toNat - knapsack.pack.grids.length)) num.toNat with short | enough
  · exact ⟨_, _, putItem_refused valid item small short, .putRefused short⟩
  · obtain ⟨filled, fills, put⟩ := putItem_admitted valid item small enough
    refine ⟨_, _, put, .put fills ?_⟩
    have fits := valid.fits
    rw [fills.length, fills.rest]
    omega

theorem removeItem_outcome (valid : knapsack.Valid) {id num : UInt32} (small : num.toNat < 2 ^ 31) :
    Outcome knapsack (.removeItem id num) (knapsack.removeItem id num).1 (knapsack.removeItem id num).2 := by
  rcases Nat.lt_or_ge (itemCount knapsack.pack.grids id) num.toNat with short | enough
  · rw [removeItem_refused valid small short]
    exact .removeRefused
  · obtain ⟨zero, taken, empties, regrids⟩ := removeItem_admitted valid small enough
    rw [zero]
    exact .removed enough empties regrids

private theorem removeGrid_outcome (knapsack : PlayerKnapsackLogic) (pos : UInt32) :
    Outcome knapsack (.removeGrid pos) (knapsack.removeGrid pos).1 (knapsack.removeGrid pos).2 := by
  cases found : knapsack.pack.findPackGrid pos with
  | none =>
    rw [removeGrid_none knapsack found]
    exact .gridMissing
  | some grid =>
    obtain ⟨zero, grids, perm, regrids⟩ := removeGrid_some knapsack found
    rw [zero]
    exact .gridRemoved found perm regrids

theorem call_outcome (valid : knapsack.Valid)
    (bounded : call.Bounded knapsack.pack) :
    ∃ next ret, knapsack.call call = some (next, ret) ∧ Outcome knapsack call next ret := by
  cases call with
  | putItem item num => exact putItem_outcome valid item bounded
  | removeItem id num => exact ⟨_, _, rfl, removeItem_outcome valid bounded⟩
  | removeGrid pos => exact ⟨_, _, rfl, removeGrid_outcome knapsack pos⟩
  | changeMaxGrid chg =>
    have small : knapsack.pack.maxgrid.toNat + chg.toNat < 2 ^ 31 := bounded
    refine ⟨_, _, rfl, .grown ?_ small⟩
    rw [UInt32.toNat_add, UInt8.toNat_toUInt32]
    omega

namespace Outcome

variable {knapsack next : PlayerKnapsackLogic} {call : KnapsackCall} {ret : Int32}

theorem put_conserves {item : RoleItem} {filled : List RolePackGrid × UInt32}
    (valid : knapsack.Valid) (fills : Fills item.id knapsack.pack.grids num filled)
    (room : filled.1.length + filled.2.toNat ≤ knapsack.pack.maxgrid.toNat) :
    let next := (withNewGrid item)^[filled.2.toNat] (knapsack.withGrids filled.1)
    next.Valid ∧ Shifts knapsack.pack next.pack item.id num.toNat := by
  have middle : (knapsack.withGrids filled.1).Valid := valid.fill fills
  obtain ⟨after, -, -, counts⟩ := iterate_withNewGrid middle item room
  refine ⟨after, shifts_of_itemCount valid after ?_ ?_⟩
  · have kind := fills.kind
    rw [counts, if_pos rfl]
    exact_mod_cast kind
  · intro other different
    rw [counts, if_neg (Ne.symm different), Nat.add_zero]
    exact fills.others other different

theorem removed_conserves {id num : UInt32} {taken : List RolePackGrid × UInt32 × List UInt32}
    (valid : knapsack.Valid) (enough : num.toNat ≤ itemCount knapsack.pack.grids id)
    (empties : Empties id knapsack.pack.grids num taken) (regrids : Regrids knapsack next
      (taken.1.filter fun grid => ¬ (grid.pos ∈ taken.2.2 ∧ grid.pos < knapsack.pack.maxgrid))) :
    next.Valid ∧ Shifts knapsack.pack next.pack id (-num.toNat) := by
  have after : next.Valid := by
    unfold Valid
    rw [regrids.maxgrid]
    exact (valid.empty empties).perm regrids.grids
  have counts (kind : UInt32) : itemCount next.pack.grids kind = itemCount taken.1 kind := by
    rw [itemCount_perm regrids.grids]
    apply itemCount_filter
    intro grid member dropped
    have recorded := not_not.mp (of_decide_eq_false dropped)
    exact empties.recorded valid.distinct grid member recorded.1
  refine ⟨after, shifts_of_itemCount valid after ?_ ?_⟩
  · have kind := empties.kind
    have rest := empties.rest
    rw [counts]
    omega
  · intro other different
    rw [counts]
    exact empties.others other different

private theorem gridRemoved_conserves {grid : RolePackGrid} {grids : List RolePackGrid} (valid : knapsack.Valid)
    (perm : knapsack.pack.grids.Perm (grid :: grids)) (regrids : Regrids knapsack next grids) :
    next.Valid ∧ Shifts knapsack.pack next.pack grid.item.id (-grid.num.toNat) := by
  have after : next.Valid := by
    unfold Valid
    rw [regrids.maxgrid]
    exact ((ValidGrids.perm valid perm.symm).sublist (List.sublist_cons_self _ _)).perm regrids.grids
  have counts (kind : UInt32) : itemCount knapsack.pack.grids kind =
      (if grid.item.id = kind then grid.num.toNat else 0) + itemCount next.pack.grids kind := by
    rw [itemCount_perm perm, itemCount_cons, itemCount_perm regrids.grids]
  refine ⟨after, shifts_of_itemCount valid after ?_ ?_⟩
  · rw [counts, if_pos rfl]
    omega
  · intro other different
    rw [counts other, if_neg (Ne.symm different), Nat.zero_add]

theorem conserves (outcome : Outcome knapsack call next ret) (valid : knapsack.Valid) :
    (ret = 0 ∨ ret = -1) ∧ next.Valid ∧ Conserves knapsack.pack next.pack call ret := by
  have done {claim : Prop} : (0 : Int32) = -1 → claim := fun refused => absurd refused (by decide)
  cases outcome with
  | putRefused short => exact ⟨.inr rfl, valid, conserves_refused _ _⟩
  | removeRefused => exact ⟨.inr rfl, valid, conserves_refused _ _⟩
  | gridMissing => exact ⟨.inr rfl, valid, conserves_refused _ _⟩
  | put fills room =>
    obtain ⟨after, shifts⟩ := put_conserves valid fills room
    exact ⟨.inl rfl, after, done, fun _ => shifts⟩
  | removed enough empties regrids =>
    obtain ⟨after, shifts⟩ := removed_conserves valid enough empties regrids
    exact ⟨.inl rfl, after, done, fun _ => shifts⟩
  | gridRemoved found perm regrids =>
    obtain ⟨after, shifts⟩ := gridRemoved_conserves valid perm regrids
    exact ⟨.inl rfl, after, done, fun _ => ⟨_, found, shifts⟩⟩
  | grown sum small =>
    refine ⟨.inl rfl, ?_, done, fun _ _ => rfl⟩
    exact valid.grow (sum ▸ Nat.le_add_right _ _) (sum ▸ small)

end Outcome

private theorem call_returns (valid : knapsack.Valid)
    (bounded : call.Bounded knapsack.pack) : knapsack.Returns call := by
  obtain ⟨next, ret, returned, outcome⟩ := call_outcome valid bounded
  exact ⟨next, ret, returned, outcome.conserves valid⟩

theorem birth_valid : birthKnapsack.Valid where
  some := by decide
  small := by decide
  fits := Nat.zero_le _
  single := nofun
  placed := nofun
  distinct := List.nodup_nil

end PlayerKnapsackLogic

open PlayerKnapsackLogic

variable {knapsack : PlayerKnapsackLogic}

theorem KnapsackStep.outcome
    (step : KnapsackStep knapsack call next) (valid : knapsack.Valid) :
    ∃ ret, Outcome knapsack call next ret := by
  obtain ⟨bounded, ret, called⟩ := step
  obtain ⟨after, other, returned, outcome⟩ := call_outcome valid bounded
  cases called.symm.trans returned
  exact ⟨ret, outcome⟩

theorem KnapsackStep.valid
    (step : KnapsackStep knapsack call next) (valid : knapsack.Valid) : next.Valid := by
  obtain ⟨ret, outcome⟩ := step.outcome valid
  exact (outcome.conserves valid).2.1

theorem KnapsackStep.run_valid
    (run : Steps KnapsackStep birthKnapsack calls knapsack) : knapsack.Valid :=
  run.invariant KnapsackStep.valid birth_valid

/-- In every package that calls reach, every call returns and conserves the items: what
`PutItem` adds, `RemoveItem` and `RemoveGrid` take away, and nothing else changes. -/
theorem calls_conserve_items {calls : List KnapsackCall}
   
    (run : Steps KnapsackStep birthKnapsack calls knapsack) (bounded : call.Bounded knapsack.pack) :
    ∃ next ret, knapsack.call call = some (next, ret) ∧ (ret = 0 ∨ ret = -1) ∧
      Conserves knapsack.pack next.pack call ret := by
  obtain ⟨next, ret, returned, values, -, conserves⟩ := call_returns (KnapsackStep.run_valid run) bounded
  exact ⟨next, ret, returned, values, conserves⟩

def stockedKnapsack : PlayerKnapsackLogic :=
  ((birthKnapsack.call (.putItem { id := 7 } 3)).get (by decide +kernel)).1

theorem stocked_step : KnapsackStep birthKnapsack (.putItem { id := 7 } 3) stockedKnapsack := by
  refine ⟨by decide, 0, ?_⟩
  decide +kernel

theorem calls_conserve_items_stocked : ∃ next ret,
    stockedKnapsack.call (.removeItem 7 2) = some (next, ret) ∧ (ret = 0 ∨ ret = -1) ∧
      Conserves stockedKnapsack.pack next.pack (.removeItem 7 2) ret :=
  calls_conserve_items (.single stocked_step) (show (2 : UInt32).toNat < 2 ^ 31 by decide)

/-- The items that are stored have numbers of their own, as long as `CreateItem` has not
used up the 32 bits. -/
structure Numbered (knapsack : PlayerKnapsackLogic) : Prop where
  next : knapsack.pack.nextgid = UInt32.ofNat (knapsack.created + 1)
  given : knapsack.created < 2 ^ 32 - 1 → ∀ item ∈ knapsack.pack.grids.map (·.item),
    ∃ gid, item.gid = some gid ∧ gid.toNat ≤ knapsack.created
  distinct : knapsack.created < 2 ^ 32 - 1 → ((knapsack.pack.grids.map (·.item)).map (·.gid)).Nodup

section

variable (numbered : Numbered knapsack)

include numbered

theorem Numbered.fewer
    (nextgid : next.pack.nextgid = knapsack.pack.nextgid) (created : next.created = knapsack.created)
    (items : (next.pack.grids.map (·.item)).Subperm (knapsack.pack.grids.map (·.item))) : Numbered next where
  next := by rw [nextgid, created, numbered.next]
  given few item member := by
    rw [created] at few ⊢
    exact numbered.given few item (items.subset member)
  distinct few := by
    rw [created] at few
    obtain ⟨middle, perm, sublist⟩ := items
    exact (perm.map _).nodup_iff.mp ((numbered.distinct few).sublist (sublist.map _))

theorem Numbered.nextgid_toNat
    (few : knapsack.created + 1 < 2 ^ 32 - 1) : knapsack.pack.nextgid.toNat = knapsack.created + 1 := by
  rw [numbered.next]
  exact UInt32.toNat_ofNat_of_lt (by simp [UInt32.size]; omega)

theorem Numbered.withNewGrid (item : RoleItem) :
    Numbered (knapsack.withNewGrid item) where
  next := by
    simp only [PlayerKnapsackLogic.withNewGrid, numbered.next]
    rw [UInt32.ofNat_add (knapsack.created + 1) 1]
    rfl
  given few := by
    simp only [PlayerKnapsackLogic.withNewGrid] at few ⊢
    have value := numbered.nextgid_toNat few
    intro stored member
    rw [List.map_append, List.map_singleton] at member
    rcases List.mem_append.mp member with old | new
    · obtain ⟨gid, has, bound⟩ := numbered.given (by omega) stored old
      exact ⟨gid, has, by omega⟩
    · rw [List.mem_singleton.mp new]
      exact ⟨_, rfl, Nat.le_of_eq value⟩
  distinct few := by
    simp only [PlayerKnapsackLogic.withNewGrid] at few ⊢
    have value := numbered.nextgid_toNat few
    rw [List.map_append, List.map_append]
    refine List.nodup_append.mpr ⟨numbered.distinct (by omega), by simp, ?_⟩
    intro old member new created same
    obtain ⟨stored, known, rfl⟩ := List.mem_map.mp member
    obtain ⟨gid, has, bound⟩ := numbered.given (by omega) stored known
    have fresh : new = some knapsack.pack.nextgid := List.mem_singleton.mp created
    rw [has, fresh] at same
    cases same
    omega

theorem Numbered.iterate (item : RoleItem)
    (rounds : Nat) : Numbered ((PlayerKnapsackLogic.withNewGrid item)^[rounds] knapsack) := by
  induction rounds generalizing knapsack with
  | zero => exact numbered
  | succ rounds ih =>
    rw [Function.iterate_succ_apply]
    exact ih (numbered.withNewGrid item)

end

private theorem labels_item {left right : List RolePackGrid}
    (labels : left.map RolePackGrid.label = right.map RolePackGrid.label) :
    left.map (·.item) = right.map (·.item) := by
  have first := congrArg (List.map Prod.fst) labels
  simpa [RolePackGrid.label, Function.comp_def] using first

theorem KnapsackStep.numbered
    (step : KnapsackStep knapsack call next) (valid : knapsack.Valid) (numbered : Numbered knapsack) :
    Numbered next := by
  obtain ⟨ret, outcome⟩ := step.outcome valid
  cases outcome with
  | putRefused short => exact numbered
  | removeRefused => exact numbered
  | gridMissing => exact numbered
  | @put item num filled fills room =>
    have middle : Numbered (knapsack.withGrids filled.1) :=
      numbered.fewer rfl rfl (labels_item fills.labels ▸ List.Subperm.refl _)
    exact (middle.iterate item filled.2.toNat).fewer rfl rfl (List.Subperm.refl _)
  | removed enough empties regrids =>
    refine numbered.fewer regrids.nextgid regrids.created ?_
    rw [← labels_item empties.labels]
    exact (regrids.grids.map _).subperm.trans (List.filter_sublist.map _).subperm
  | gridRemoved found perm regrids =>
    refine numbered.fewer regrids.nextgid regrids.created ?_
    refine (regrids.grids.map _).subperm.trans (List.Subperm.trans ?_ (perm.symm.map _).subperm)
    exact ((List.sublist_cons_self _ _).map _).subperm
  | grown sum small => exact numbered.fewer rfl rfl (List.Subperm.refl _)

theorem KnapsackStep.run_numbered
    (run : Steps KnapsackStep birthKnapsack calls knapsack) : Numbered knapsack := by
  have keeps {knapsack : PlayerKnapsackLogic} {call : KnapsackCall} {next : PlayerKnapsackLogic}
      (step : KnapsackStep knapsack call next) (before : knapsack.Valid ∧ Numbered knapsack) :
      next.Valid ∧ Numbered next :=
    ⟨step.valid before.1, step.numbered before.1 before.2⟩
  have birth : Numbered birthKnapsack := ⟨rfl, nofun, fun _ => List.nodup_nil⟩
  exact (run.invariant keeps ⟨birth_valid, birth⟩).2

/-- The representation of every package that calls reach: it never holds more grids than
`maxgrid`, so the `assert` in `GetItemCapacity` holds, a grid holds at most one item, and
neither positions nor numbers of items are given twice. -/
theorem package_well_formed {calls : List KnapsackCall}
    (run : Steps KnapsackStep birthKnapsack calls knapsack) (few : knapsack.created < 2 ^ 32 - 1) :
    knapsack.pack.grids.length ≤ knapsack.pack.maxgrid.toNat ∧
      (∀ id, (knapsack.pack.getItemCapacity id).isSome) ∧
      (∀ grid ∈ knapsack.pack.grids, grid.num = 0 ∨ grid.num = 1) ∧
      ((knapsack.pack.grids.filter (·.pos < knapsack.pack.maxgrid)).map (·.pos)).Nodup ∧
      (knapsack.pack.grids.filter (knapsack.pack.maxgrid ≤ ·.pos)).length ≤ 1 ∧
      (knapsack.pack.grids.map (·.item.gid)).Nodup := by
  have valid := KnapsackStep.run_valid run
  have numbered := KnapsackStep.run_numbered run
  refine ⟨valid.fits, ?_, valid.single, ?_, ?_, ?_⟩
  · intro id
    rw [getItemCapacity_eq _ _ valid.single valid.small valid.fits]
    rfl
  · exact valid.distinct.sublist (List.filter_sublist.map _)
  · exact valid.outside_le_one
  · have distinct := numbered.distinct few
    rwa [List.map_map] at distinct

theorem package_well_formed_stocked :
    stockedKnapsack.created < 2 ^ 32 - 1 ∧ (stockedKnapsack.pack.grids.map (·.item.gid)).Nodup := by
  have few : stockedKnapsack.created < 2 ^ 32 - 1 := by decide +kernel
  exact ⟨few, (package_well_formed (.single stocked_step) few).2.2.2.2.2⟩

def AllPlaced (pack : RolePackage) : Prop := ∀ grid ∈ pack.grids, grid.PlacedIn pack.maxgrid

instance (pack : RolePackage) : Decidable (AllPlaced pack) :=
  inferInstanceAs (Decidable (∀ grid ∈ pack.grids, grid.PlacedIn pack.maxgrid))

def FillsPackage (pack : RolePackage) : KnapsackCall → Prop
  | .putItem _ num => 0 < num.toNat ∧ pack.grids.length + num.toNat = pack.maxgrid.toNat
  | _ => False

theorem emptyCount_of_placed {pack : RolePackage} (placed : AllPlaced pack) (id : UInt32) :
    emptyCount pack.grids id = 0 := by
  apply List.countP_eq_zero.mpr
  intro grid member empty
  have held := (placed grid member).2.2
  rw [(of_decide_eq_true empty).2] at held
  exact absurd held (by decide)

private theorem put_placed {item : RoleItem}
    {filled : List RolePackGrid × UInt32} (valid : knapsack.Valid) (placed : AllPlaced knapsack.pack)
    (fills : Fills item.id knapsack.pack.grids num filled)
    (room : filled.1.length + filled.2.toNat ≤ knapsack.pack.maxgrid.toNat) :
    AllPlaced ((withNewGrid item)^[filled.2.toNat] (knapsack.withGrids filled.1)).pack ↔
      ¬ FillsPackage knapsack.pack (.putItem item num) := by
  have middle : (knapsack.withGrids filled.1).Valid := valid.fill fills
  obtain ⟨after, size, length, -⟩ := iterate_withNewGrid middle item room
  have rest : filled.2.toNat = num.toNat := by rw [fills.rest, emptyCount_of_placed placed, Nat.sub_zero]
  have same := fills.length
  constructor
  · intro good full
    have shorter := ValidGrids.length_lt_of_placed after good
    have exactly := full.2
    rw [length, size] at shorter
    simp only [withGrids] at shorter
    omega
  · intro short
    have before : ∀ grid ∈ (knapsack.withGrids filled.1).pack.grids,
        grid.PlacedIn knapsack.pack.maxgrid := by
      intro grid member
      obtain ⟨old, stored, -, keeps⟩ := fills.origin member
      exact keeps _ (placed old stored)
    have fewer : filled.2.toNat = 0 ∨ filled.1.length + filled.2.toNat < knapsack.pack.maxgrid.toNat := by
      rcases Nat.eq_zero_or_pos num.toNat with zero | some
      · exact .inl (by omega)
      · exact .inr (Nat.lt_of_le_of_ne room fun full => short ⟨some, by omega⟩)
    intro grid member
    exact size ▸ iterate_placed middle item before fewer grid member

theorem KnapsackStep.placed
    (step : KnapsackStep knapsack call next) (valid : knapsack.Valid) (placed : AllPlaced knapsack.pack) :
    AllPlaced next.pack ↔ ¬ FillsPackage knapsack.pack call := by
  obtain ⟨ret, outcome⟩ := step.outcome valid
  cases outcome with
  | putRefused short =>
    refine iff_of_true placed fun fills => ?_
    have exactly := fills.2
    rw [emptyCount_of_placed placed] at short
    omega
  | put fills room => exact put_placed valid placed fills room
  | removeRefused => exact iff_of_true placed not_false
  | gridMissing => exact iff_of_true placed not_false
  | removed enough empties regrids =>
    refine iff_of_true ?_ not_false
    intro grid member
    rw [regrids.maxgrid]
    rcases empties.origin (regrids.grids.subset member) with old | ⟨old, stored, -, outside⟩
    · exact placed grid old
    · exact absurd (placed old stored) outside
  | gridRemoved found perm regrids =>
    refine iff_of_true ?_ not_false
    intro other member
    rw [regrids.maxgrid]
    exact placed other (perm.symm.subset (List.mem_cons_of_mem _ (regrids.grids.subset member)))
  | grown sum small =>
    refine iff_of_true ?_ not_false
    intro grid member
    exact (placed grid member).grow (sum ▸ Nat.le_add_right _ _)

/-- Behind every call of a run each stored grid holds an item at a position of the package,
if and only if no `PutItem` of the run makes the number of grids reach `maxgrid`: position 0
is never given, so there is one position less than grids. -/
theorem run_placed_iff (calls : List KnapsackCall) (knapsack : PlayerKnapsackLogic) :
    Steps (fun before call after => KnapsackStep before call after ∧ AllPlaced after.pack)
        birthKnapsack calls knapsack ↔
      Steps (fun before call after => KnapsackStep before call after ∧ ¬ FillsPackage before.pack call)
        birthKnapsack calls knapsack := by
  have same {before after : PlayerKnapsackLogic} {call : KnapsackCall}
      (inv : before.Valid ∧ AllPlaced before.pack) :
      (KnapsackStep before call after ∧ AllPlaced after.pack) ↔
        (KnapsackStep before call after ∧ ¬ FillsPackage before.pack call) :=
    and_congr_right fun step => step.placed inv.1 inv.2
  have keeps {before after : PlayerKnapsackLogic} {call : KnapsackCall}
      (step : KnapsackStep before call after ∧ AllPlaced after.pack)
      (inv : before.Valid ∧ AllPlaced before.pack) : after.Valid ∧ AllPlaced after.pack :=
    ⟨step.1.valid inv.1, step.2⟩
  exact Steps.congr same keeps ⟨birth_valid, nofun⟩

def fullKnapsack : PlayerKnapsackLogic :=
  ((birthKnapsack.call (.putItem { id := 7 } 10)).get (by decide +kernel)).1

/-- The birth package takes ten items; the last of them gets no position, and when all are
removed again its grid stays behind, empty. -/
theorem last_grid_misplaced :
    KnapsackStep birthKnapsack (.putItem { id := 7 } 10) fullKnapsack ∧
      ¬ AllPlaced fullKnapsack.pack ∧
      (fullKnapsack.pack.grids.map (·.pos)) = [1, 2, 3, 4, 5, 6, 7, 8, 9, noPosition] ∧
      (fullKnapsack.removeItem 7 10).2 = 0 ∧
      (fullKnapsack.removeItem 7 10).1.pack.grids.map (fun grid => (grid.num, grid.pos)) = [(0, noPosition)] := by
  refine ⟨⟨by decide, 0, ?_⟩, ?_, ?_, ?_, ?_⟩ <;> decide +kernel

end Playground.Player
