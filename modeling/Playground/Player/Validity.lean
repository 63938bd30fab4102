import Mathlib.Data.List.Nodup
import Playground.Player.Package

/-! The packages that calls can reach from the birth package, and what each call does to the number
of items of a kind. -/

namespace Playground.Player

open Transition RolePackage

variable {id : UInt32} {grids : List RolePackGrid}

def RolePackGrid.PlacedIn (grid : RolePackGrid) (maxgrid : UInt32) : Prop :=
  1 ≤ grid.pos.toNat ∧ grid.pos.toNat < maxgrid.toNat ∧ 1 ≤ grid.num

instance (grid : RolePackGrid) (maxgrid : UInt32) : Decidable (grid.PlacedIn maxgrid) :=
  inferInstanceAs (Decidable (_ ∧ _))

/-- The grids of a reachable package: at most one of them has no position. -/
structure ValidGrids (maxgrid : UInt32) (grids : List RolePackGrid) : Prop where
  some : 1 ≤ maxgrid.toNat
  small : maxgrid.toNat < 2 ^ 31
  fits : grids.length ≤ maxgrid.toNat
  single : ∀ grid ∈ grids, grid.Single
  placed : ∀ grid ∈ grids, grid.PlacedIn maxgrid ∨ grid.pos = noPosition
  distinct : (grids.map (·.pos)).Nodup

theorem RolePackGrid.PlacedIn.grow {grid : RolePackGrid} {maxgrid larger : UInt32}
    (placed : grid.PlacedIn maxgrid) (grows : maxgrid.toNat ≤ larger.toNat) : grid.PlacedIn larger :=
  ⟨placed.1, Nat.lt_of_lt_of_le placed.2.1 grows, placed.2.2⟩

theorem Fills.origin {result : List RolePackGrid × UInt32}
    (fills : Fills id grids num result) {grid : RolePackGrid} (member : grid ∈ result.1) :
    ∃ old ∈ grids, old.pos = grid.pos ∧ ∀ maxgrid, old.PlacedIn maxgrid → grid.PlacedIn maxgrid := by
  rcases fills.rises grid member with one | kept
  · have known : grid.label ∈ grids.map RolePackGrid.label := fills.labels ▸ List.mem_map_of_mem member
    obtain ⟨old, stored, same⟩ := List.mem_map.mp known
    have pos : old.pos = grid.pos := congrArg Prod.snd same
    refine ⟨old, stored, pos, ?_⟩
    intro maxgrid placed
    exact ⟨pos ▸ placed.1, pos ▸ placed.2.1, one ▸ UInt32.le_refl _⟩
  · exact ⟨grid, kept, rfl, fun _ placed => placed⟩

theorem Empties.origin {num maxgrid : UInt32}
    {result : List RolePackGrid × UInt32 × List UInt32} (empties : Empties id grids num result)
    {grid : RolePackGrid}
    (member : grid ∈ result.1.filter fun grid => ¬ (grid.pos ∈ result.2.2 ∧ grid.pos < maxgrid)) :
    grid ∈ grids ∨ ∃ old ∈ grids, old.pos = grid.pos ∧ ¬ old.PlacedIn maxgrid := by
  obtain ⟨stored, kept⟩ := List.mem_filter.mp member
  rcases empties.emptied grid stored with ⟨-, recorded⟩ | old
  · have known : grid.label ∈ grids.map RolePackGrid.label := empties.labels ▸ List.mem_map_of_mem stored
    obtain ⟨old, before, same⟩ := List.mem_map.mp known
    have pos : old.pos = grid.pos := congrArg Prod.snd same
    refine .inr ⟨old, before, pos, ?_⟩
    intro placed
    exact of_decide_eq_true kept ⟨recorded, UInt32.lt_iff_toNat_lt.mpr (pos ▸ placed.2.1)⟩
  · exact .inl old

namespace ValidGrids

variable {maxgrid : UInt32} {grids : List RolePackGrid}

section

variable (valid : ValidGrids maxgrid grids)

include valid

theorem perm {other : List RolePackGrid} (perm : other.Perm grids) :
    ValidGrids maxgrid other where
  some := valid.some
  small := valid.small
  fits := perm.length_eq ▸ valid.fits
  single grid member := valid.single grid (perm.subset member)
  placed grid member := valid.placed grid (perm.subset member)
  distinct := (perm.map _).nodup_iff.mpr valid.distinct

theorem sublist {other : List RolePackGrid} (fewer : other.Sublist grids) :
    ValidGrids maxgrid other where
  some := valid.some
  small := valid.small
  fits := Nat.le_trans fewer.length_le valid.fits
  single grid member := valid.single grid (fewer.subset member)
  placed grid member := valid.placed grid (fewer.subset member)
  distinct := valid.distinct.sublist (fewer.map _)

theorem grow {larger : UInt32} (grows : maxgrid.toNat ≤ larger.toNat)
    (small : larger.toNat < 2 ^ 31) : ValidGrids larger grids where
  some := Nat.le_trans valid.some grows
  small := small
  fits := Nat.le_trans valid.fits grows
  single := valid.single
  placed grid member := (valid.placed grid member).imp_left fun placed => placed.grow grows
  distinct := valid.distinct

theorem fill {num : UInt32} {result : List RolePackGrid × UInt32}
    (fills : Fills id grids num result) : ValidGrids maxgrid result.1 where
  some := valid.some
  small := valid.small
  fits := fills.length ▸ valid.fits
  single := fills.single
  placed grid member := by
    obtain ⟨old, stored, pos, placed⟩ := fills.origin member
    exact (valid.placed old stored).imp (placed maxgrid) fun nowhere => pos ▸ nowhere
  distinct := by
    rw [labels_pos fills.labels]
    exact valid.distinct

theorem outside_le_one : (grids.filter (maxgrid ≤ ·.pos)).length ≤ 1 := by
  have nowhere : ∀ pos ∈ (grids.filter (maxgrid ≤ ·.pos)).map (·.pos), pos = noPosition := by
    intro pos member
    obtain ⟨grid, outside, rfl⟩ := List.mem_map.mp member
    obtain ⟨stored, above⟩ := List.mem_filter.mp outside
    have high := UInt32.le_iff_toNat_le.mp (of_decide_eq_true above)
    exact (valid.placed grid stored).resolve_left fun placed => Nat.not_lt.mpr high placed.2.1
  have distinct := valid.distinct.sublist ((List.filter_sublist (p := (maxgrid ≤ ·.pos))).map _)
  rw [List.eq_replicate_of_mem nowhere, List.nodup_replicate] at distinct
  simpa using distinct

end

def positions (grids : List RolePackGrid) : List Nat := grids.map (·.pos.toNat)

theorem nodup_positions (valid : ValidGrids maxgrid grids) : (positions grids).Nodup := by
  have mapped := List.Nodup.map (fun _ _ => UInt32.toNat_inj.mp) valid.distinct
  simpa [positions, Function.comp_def] using mapped

theorem positions_full (taken : ∀ pos, 1 ≤ pos → pos < maxgrid.toNat → pos ∈ positions grids) :
    (List.range' 1 (maxgrid.toNat - 1)).Subperm (positions grids) := by
  apply List.subperm_of_subset List.nodup_range'
  intro pos real
  obtain ⟨low, high⟩ := List.mem_range'_1.mp real
  exact taken pos low (by omega)

theorem length_of_taken (taken : ∀ pos, 1 ≤ pos → pos < maxgrid.toNat → pos ∈ positions grids) :
    maxgrid.toNat ≤ grids.length + 1 := by
  have longer := (positions_full taken).length_le
  simp only [positions, List.length_map, List.length_range'] at longer
  omega

/-- With every position taken and room for another grid, every grid has a position. -/
theorem noPosition_unused (valid : ValidGrids maxgrid grids) (room : grids.length < maxgrid.toNat)
    (taken : ∀ pos, 1 ≤ pos → pos < maxgrid.toNat → pos ∈ positions grids) :
    noPosition ∉ grids.map (·.pos) := by
  intro member
  have perm : (List.range' 1 (maxgrid.toNat - 1)).Perm (positions grids) := by
    refine (positions_full taken).perm_of_length_le ?_
    simp only [positions, List.length_map, List.length_range']
    omega
  obtain ⟨grid, stored, nowhere⟩ := List.mem_map.mp member
  have real := perm.symm.subset (List.mem_map_of_mem stored)
  have high := (List.mem_range'_1.mp real).2
  have small := valid.small
  have large : noPosition.toNat = 4294967295 := rfl
  rw [nowhere, large] at high
  omega

private theorem positions_subset (placed : ∀ grid ∈ grids, grid.PlacedIn maxgrid) :
    positions grids ⊆ List.range' 1 (maxgrid.toNat - 1) := by
  intro pos member
  obtain ⟨grid, stored, rfl⟩ := List.mem_map.mp member
  obtain ⟨low, high, -⟩ := placed grid stored
  exact List.mem_range'_1.mpr ⟨low, by omega⟩

theorem length_lt_of_placed (valid : ValidGrids maxgrid grids)
    (placed : ∀ grid ∈ grids, grid.PlacedIn maxgrid) : grids.length < maxgrid.toNat := by
  have shorter := (List.subperm_of_subset valid.nodup_positions (positions_subset placed)).length_le
  have some := valid.some
  simp only [positions, List.length_map, List.length_range'] at shorter
  omega

end ValidGrids

theorem ValidGrids.empty {maxgrid num : UInt32}
    {result : List RolePackGrid × UInt32 × List UInt32} (valid : ValidGrids maxgrid grids)
    (empties : Empties id grids num result) :
    ValidGrids maxgrid (result.1.filter fun grid => ¬ (grid.pos ∈ result.2.2 ∧ grid.pos < maxgrid)) where
  some := valid.some
  small := valid.small
  fits := by
    have same := congrArg List.length empties.labels
    simp only [List.length_map] at same
    exact Nat.le_trans (List.length_filter_le _ _) (same ▸ valid.fits)
  single grid member := empties.single grid (List.mem_filter.mp member).1
  placed grid member := by
    rcases empties.origin member with old | ⟨old, stored, pos, outside⟩
    · exact valid.placed grid old
    · exact .inr (pos ▸ (valid.placed old stored).resolve_left outside)
  distinct := by
    refine List.Nodup.sublist (List.filter_sublist.map _) ?_
    rw [labels_pos empties.labels]
    exact valid.distinct

theorem itemCount_filter
    (empty : ∀ grid ∈ grids, keep grid = false → grid.num = 0) (id : UInt32) :
    itemCount (grids.filter keep) id = itemCount grids id := by
  induction grids with
  | nil => rfl
  | cons grid grids ih =>
    have rest := ih fun other member => empty other (List.mem_cons_of_mem _ member)
    cases kept : keep grid with
    | true => rw [List.filter_cons_of_pos kept, itemCount_cons, itemCount_cons, rest]
    | false =>
      have none := empty grid List.mem_cons_self kept
      rw [List.filter_cons_of_neg (by simp [kept]), itemCount_cons, rest]
      simp [none]

private theorem positions_of_holds {pack : RolePackage} (low : pos < 2 ^ 31)
    (held : pack.Holds (UInt32.ofNat pos)) : pos ∈ ValidGrids.positions pack.grids := by
  obtain ⟨grid, stored, same, -⟩ := held
  refine List.mem_map.mpr ⟨grid, stored, ?_⟩
  rw [same]
  exact UInt32.toNat_ofNat_of_lt (by simp [UInt32.size]; omega)

namespace PlayerKnapsackLogic

variable {knapsack : PlayerKnapsackLogic} {num : UInt32}

def Valid (knapsack : PlayerKnapsackLogic) : Prop := ValidGrids knapsack.pack.maxgrid knapsack.pack.grids

variable (valid : knapsack.Valid)

include valid

theorem newGrid_cases (item : RoleItem) :
    ((knapsack.newGrid item).pos = noPosition ∧ ∀ pos, 1 ≤ pos → pos < knapsack.pack.maxgrid.toNat →
        pos ∈ ValidGrids.positions knapsack.pack.grids) ∨
      ((knapsack.newGrid item).PlacedIn knapsack.pack.maxgrid ∧
        (knapsack.newGrid item).pos ∉ knapsack.pack.grids.map (·.pos)) := by
  have small := valid.small
  rcases knapsack.pack.getFreeGridPos_cases valid.some small with ⟨nowhere, held⟩ | ⟨pos, low, high, same, free⟩
  · exact .inl ⟨nowhere, fun pos low high => positions_of_holds (by omega) (held pos low high)⟩
  · have value : (UInt32.ofNat pos).toNat = pos := UInt32.toNat_ofNat_of_lt (by simp [UInt32.size]; omega)
    have place : (knapsack.newGrid item).pos = UInt32.ofNat pos := same
    refine .inr ⟨⟨?_, ?_, UInt32.le_refl _⟩, ?_⟩
    · rw [place, value]
      exact low
    · rw [place, value]
      exact high
    · intro member
      obtain ⟨grid, stored, there⟩ := List.mem_map.mp member
      rw [place] at there
      rcases valid.placed grid stored with placed | nowhere
      · exact free ⟨grid, stored, there, UInt32.lt_of_lt_of_le (by decide) placed.2.2⟩
      · have large : noPosition.toNat = 4294967295 := rfl
        rw [← nowhere, there, value] at large
        omega

theorem withNewGrid_valid (item : RoleItem)
    (room : knapsack.pack.grids.length < knapsack.pack.maxgrid.toNat) : (knapsack.withNewGrid item).Valid where
  some := valid.some
  small := valid.small
  fits := by
    simp [withNewGrid]
    omega
  single := by
    intro grid member
    rcases List.mem_append.mp member with old | new
    · exact valid.single grid old
    · exact .inr (List.mem_singleton.mp new ▸ rfl)
  placed := by
    intro grid member
    rcases List.mem_append.mp member with old | new
    · exact valid.placed grid old
    · rw [List.mem_singleton.mp new]
      exact (newGrid_cases valid item).symm.imp And.left And.left
  distinct := by
    have fresh : (knapsack.newGrid item).pos ∉ knapsack.pack.grids.map (·.pos) := by
      rcases newGrid_cases valid item with ⟨nowhere, taken⟩ | ⟨-, free⟩
      · exact nowhere ▸ ValidGrids.noPosition_unused valid room taken
      · exact free
    simp only [withNewGrid, List.map_append, List.map_cons, List.map_nil]
    exact List.nodup_append.mpr ⟨valid.distinct, by simp, by simpa using fresh⟩

theorem iterate_withNewGrid (item : RoleItem)
    (room : knapsack.pack.grids.length + rounds ≤ knapsack.pack.maxgrid.toNat) :
    let next := (withNewGrid item)^[rounds] knapsack
    next.Valid ∧ next.pack.maxgrid = knapsack.pack.maxgrid ∧
      next.pack.grids.length = knapsack.pack.grids.length + rounds ∧
      ∀ id, itemCount next.pack.grids id =
        itemCount knapsack.pack.grids id + if item.id = id then rounds else 0 := by
  induction rounds generalizing knapsack with
  | zero => exact ⟨valid, rfl, rfl, by simp⟩
  | succ rounds ih =>
    rw [Function.iterate_succ_apply]
    have longer : (knapsack.withNewGrid item).pack.grids.length = knapsack.pack.grids.length + 1 := by
      simp [withNewGrid]
    have count (id : UInt32) : itemCount (knapsack.withNewGrid item).pack.grids id =
        itemCount knapsack.pack.grids id + if item.id = id then 1 else 0 := by
      simp [withNewGrid, newGrid]
    have first := withNewGrid_valid valid item (by omega)
    have size : (knapsack.withNewGrid item).pack.maxgrid = knapsack.pack.maxgrid := rfl
    obtain ⟨after, same, length, counts⟩ := ih first (by rw [longer, size]; omega)
    refine ⟨after, same, by rw [length, longer]; omega, ?_⟩
    intro id
    rw [counts, count]
    split <;> omega

theorem iterate_placed (item : RoleItem)
    (placed : ∀ grid ∈ knapsack.pack.grids, grid.PlacedIn knapsack.pack.maxgrid)
    (room : rounds = 0 ∨ knapsack.pack.grids.length + rounds < knapsack.pack.maxgrid.toNat) :
    ∀ grid ∈ ((withNewGrid item)^[rounds] knapsack).pack.grids, grid.PlacedIn knapsack.pack.maxgrid := by
  induction rounds generalizing knapsack with
  | zero => exact placed
  | succ rounds ih =>
    have first := withNewGrid_valid valid item (by omega)
    have longer : (knapsack.withNewGrid item).pack.grids.length = knapsack.pack.grids.length + 1 := by
      simp [withNewGrid]
    have size : (knapsack.withNewGrid item).pack.maxgrid = knapsack.pack.maxgrid := rfl
    rw [Function.iterate_succ_apply, ← size]
    refine ih first ?_ (by rw [longer, size]; omega)
    intro grid member
    rcases List.mem_append.mp member with old | new
    · exact placed grid old
    · rw [List.mem_singleton.mp new]
      rcases newGrid_cases valid item with ⟨-, taken⟩ | ⟨real, -⟩
      · have full := ValidGrids.length_of_taken taken
        omega
      · exact real

theorem putItem_refused (item : RoleItem)
    (small : num.toNat < 2 ^ 31) (short : emptyCount knapsack.pack.grids item.id +
      (knapsack.pack.maxgrid.toNat - knapsack.pack.grids.length) < num.toNat) :
    knapsack.putItem item num = some (knapsack, -1) := by
  rw [putItem, getItemCapacity_eq _ _ valid.single valid.small valid.fits, Option.map_some, if_pos]
  rw [Int32.lt_iff_toInt_lt, toInt_toInt32 small, Int32.toInt_ofNat_of_lt (by omega)]
  omega

theorem putItem_admitted (item : RoleItem) (small : num.toNat < 2 ^ 31)
    (enough : num.toNat ≤ emptyCount knapsack.pack.grids item.id +
      (knapsack.pack.maxgrid.toNat - knapsack.pack.grids.length)) :
    ∃ filled, Fills item.id knapsack.pack.grids num filled ∧
      knapsack.putItem item num = some (((withNewGrid item)^[filled.2.toNat]
        (knapsack.withGrids filled.1)).fireEvent eventPlayerItemAdd (eventParam item.id 0), 0) := by
  have fills := fillGrids_spec item.id small valid.single
  have capacity : emptyCount knapsack.pack.grids item.id +
      (knapsack.pack.maxgrid.toNat - knapsack.pack.grids.length) < 2 ^ 31 := by
    have bound : emptyCount knapsack.pack.grids item.id ≤ knapsack.pack.grids.length :=
      List.countP_le_length
    have fits := valid.fits
    have small := valid.small
    omega
  refine ⟨_, fills, ?_⟩
  have rest := fills.rest
  rw [putItem, getItemCapacity_eq _ _ valid.single valid.small valid.fits, Option.map_some, if_neg]
  · dsimp only
    rw [appendGrids_eq item _ (by omega) (by omega)]
  · rw [Int32.lt_iff_toInt_lt, toInt_toInt32 small, Int32.toInt_ofNat_of_lt capacity]
    omega

theorem toInt_getItemNum (id : UInt32) :
    (knapsack.pack.getItemNum id).toInt = itemCount knapsack.pack.grids id := by
  have bound := itemCount_le_length valid.single id
  have fits := valid.fits
  have small := valid.small
  rw [getItemNum_eq, Int32.toInt_ofNat_of_lt (by omega)]

theorem removeItem_refused
    (small : num.toNat < 2 ^ 31) (short : itemCount knapsack.pack.grids id < num.toNat) :
    knapsack.removeItem id num = (knapsack, -1) := by
  rw [removeItem, if_pos]
  rw [Int32.lt_iff_toInt_lt, toInt_toInt32 small, toInt_getItemNum valid]
  omega

theorem removeItem_admitted
    (small : num.toNat < 2 ^ 31) (enough : num.toNat ≤ itemCount knapsack.pack.grids id) :
    (knapsack.removeItem id num).2 = 0 ∧ ∃ taken, Empties id knapsack.pack.grids num taken ∧
      Regrids knapsack (knapsack.removeItem id num).1
        (taken.1.filter fun grid => ¬ (grid.pos ∈ taken.2.2 ∧ grid.pos < knapsack.pack.maxgrid)) := by
  have empties := takeGrids_spec id small valid.single
  have distinct :
      ((knapsack.withGrids (takeGrids id knapsack.pack.grids num).1).pack.grids.map (·.pos)).Nodup := by
    rw [withGrids, labels_pos empties.labels]
    exact valid.distinct
  have removed := removeGrids_filter _ (takeGrids id knapsack.pack.grids num).2.2 distinct
  rw [removeItem, if_neg]
  · exact ⟨rfl, _, empties, removed.grids, removed.maxgrid, removed.nextgid, removed.created⟩
  · rw [Int32.lt_iff_toInt_lt, toInt_toInt32 small, toInt_getItemNum valid]
    omega

end PlayerKnapsackLogic

end Playground.Player
