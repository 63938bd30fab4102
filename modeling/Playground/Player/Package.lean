import Mathlib.Algebra.BigOperators.Group.List.Basic
import Mathlib.Algebra.GroupWithZero.Nat
import Mathlib.Data.List.Perm.Subperm
import Playground.Player.Knapsack
import Playground.Transition.Steps

/-! What the calls of `PlayerKnapsackLogic` do to a package. -/

namespace Playground.Player

open Transition

variable {num id : UInt32} {grids : List RolePackGrid}
variable {grid : RolePackGrid}

theorem toInt_toInt32 (small : num.toNat < 2 ^ 31) : num.toInt32.toInt = num.toNat := by
  rw [← UInt32.ofNat_toNat (x := num), UInt32.toInt32_ofNat', Int32.toInt_ofNat_of_lt (by simpa using small)]
  simp

theorem toNat_sub_one (some : num ≠ 0) : (num - 1).toNat + 1 = num.toNat := by
  have positive : num.toNat ≠ 0 := fun zero => some (UInt32.toNat_inj.mp zero)
  have one : (1 : UInt32) ≤ num := UInt32.le_iff_toNat_le.mpr (Nat.pos_of_ne_zero positive)
  rw [UInt32.toNat_sub_of_le _ _ one]
  exact Nat.succ_pred_eq_of_ne_zero positive

def itemCount (grids : List RolePackGrid) (id : UInt32) : Nat :=
  (grids.map fun grid => if grid.item.id = id then grid.num.toNat else 0).sum

def emptyCount (grids : List RolePackGrid) (id : UInt32) : Nat :=
  grids.countP fun grid => grid.item.id = id ∧ grid.num = 0

@[simp] theorem itemCount_nil (id : UInt32) : itemCount [] id = 0 := rfl

@[simp] theorem itemCount_cons (grid : RolePackGrid) (grids : List RolePackGrid) (id : UInt32) :
    itemCount (grid :: grids) id = (if grid.item.id = id then grid.num.toNat else 0) + itemCount grids id := by
  simp [itemCount]

@[simp] theorem itemCount_append (left right : List RolePackGrid) (id : UInt32) :
    itemCount (left ++ right) id = itemCount left id + itemCount right id := by
  simp [itemCount]

theorem itemCount_perm {left : List RolePackGrid} (perm : left.Perm right) (id : UInt32) :
    itemCount left id = itemCount right id :=
  (perm.map _).sum_eq

@[simp] theorem emptyCount_cons (grid : RolePackGrid) (grids : List RolePackGrid) (id : UInt32) :
    emptyCount (grid :: grids) id =
      emptyCount grids id + if grid.item.id = id ∧ grid.num = 0 then 1 else 0 := by
  simp [emptyCount, List.countP_cons]

private theorem foldl_itemCount (grids : List RolePackGrid) (id : UInt32) (count : Nat) :
    grids.foldl (fun iNum grid =>
      if id = grid.item.id ∧ 0 < grid.num then iNum + grid.num.toInt32 else iNum) (Int32.ofNat count) =
      Int32.ofNat (count + itemCount grids id) := by
  induction grids generalizing count with
  | nil => simp
  | cons grid grids ih =>
    have same : (if id = grid.item.id ∧ 0 < grid.num then Int32.ofNat count + grid.num.toInt32
        else Int32.ofNat count) =
        Int32.ofNat (count + if grid.item.id = id then grid.num.toNat else 0) := by
      rw [← UInt32.ofNat_toNat (x := grid.num), UInt32.toInt32_ofNat']
      by_cases kind : id = grid.item.id
      · by_cases some : 0 < grid.num
        · simp [kind, some, Int32.ofNat_add]
        · have none : grid.num = 0 := by simpa using some
          simp [none]
      · simp [kind, Ne.symm kind]
    rw [List.foldl_cons, same, ih]
    simp [Nat.add_assoc]

theorem RolePackage.getItemNum_eq (pack : RolePackage) (id : UInt32) :
    pack.getItemNum id = Int32.ofNat (itemCount pack.grids id) := by
  have fold := foldl_itemCount pack.grids id 0
  simpa [RolePackage.getItemNum] using fold

def RolePackGrid.Single (grid : RolePackGrid) : Prop := grid.num = 0 ∨ grid.num = 1

theorem itemCount_le_length (single : ∀ grid ∈ grids, grid.Single)
    (id : UInt32) : itemCount grids id ≤ grids.length := by
  induction grids with
  | nil => simp
  | cons grid grids ih =>
    have rest := ih fun other member => single other (List.mem_cons_of_mem _ member)
    have first : grid.num.toNat ≤ 1 := by
      rcases single grid List.mem_cons_self with num | num <;> simp [num]
    rw [itemCount_cons, List.length_cons]
    split <;> omega

private theorem foldl_emptyCount (single : ∀ grid ∈ grids, grid.Single) (id : UInt32) (count : Nat) :
    grids.foldl (fun iNum grid =>
      if id = grid.item.id ∧ 0 < iMaxTiled - grid.num.toInt32 then iNum + (iMaxTiled - grid.num.toInt32)
      else iNum) (Int32.ofNat count) = Int32.ofNat (count + emptyCount grids id) := by
  induction grids generalizing count with
  | nil => simp [emptyCount]
  | cons grid grids ih =>
    have rest := ih fun other member => single other (List.mem_cons_of_mem _ member)
    have same : (if id = grid.item.id ∧ 0 < iMaxTiled - grid.num.toInt32
        then Int32.ofNat count + (iMaxTiled - grid.num.toInt32) else Int32.ofNat count) =
        Int32.ofNat (count + if grid.item.id = id ∧ grid.num = 0 then 1 else 0) := by
      rcases single grid List.mem_cons_self with num | num
      · by_cases kind : id = grid.item.id
        · simp [num, kind, iMaxTiled, Int32.ofNat_add]
        · simp [num, kind, Ne.symm kind]
      · simp [num, iMaxTiled]
    rw [List.foldl_cons, same, rest, emptyCount_cons]
    congr 1
    omega

theorem RolePackage.getItemCapacity_eq (pack : RolePackage) (id : UInt32)
    (single : ∀ grid ∈ pack.grids, grid.Single) (small : pack.maxgrid.toNat < 2 ^ 31)
    (fits : pack.grids.length ≤ pack.maxgrid.toNat) :
    pack.getItemCapacity id =
      some (Int32.ofNat (emptyCount pack.grids id + (pack.maxgrid.toNat - pack.grids.length))) := by
  have below : UInt32.ofNat pack.grids.length ≤ pack.maxgrid :=
    (UInt32.ofNat_le_iff (Nat.lt_of_le_of_lt fits pack.maxgrid.toNat_lt)).mpr fits
  have empty : (pack.maxgrid - UInt32.ofNat pack.grids.length).toInt32 =
      Int32.ofNat (pack.maxgrid.toNat - pack.grids.length) := by
    rw [← UInt32.toInt32_ofNat']
    congr 1
    apply UInt32.toNat_inj.mp
    rw [UInt32.toNat_sub_of_le _ _ below]
    simp
    omega
  have fold := foldl_emptyCount single id 0
  rw [show Int32.ofNat 0 = 0 from rfl] at fold
  have nonneg : 0 ≤ Int32.ofNat (pack.maxgrid.toNat - pack.grids.length) := by
    rw [Int32.le_iff_toInt_le, Int32.toInt_ofNat_of_lt (by omega)]
    simp
  simp only [RolePackage.getItemCapacity, empty, if_pos nonneg]
  rw [fold, iMaxTiled]
  simp [Int32.ofNat_add]

theorem fillGrid_keeps (single : grid.Single)
    (idle : num = 0 ∨ ¬ (grid.item.id = id ∧ grid.num = 0)) : fillGrid id grid num = (grid, num) := by
  unfold fillGrid
  dsimp only
  split
  · next free =>
    rcases single with empty | full
    · have zero : num = 0 := idle.resolve_right fun other => other ⟨free.1.symm, empty⟩
      rw [if_neg (by simp [zero, empty, iMaxTiled]), zero, UInt32.toUInt32_toInt32, UInt32.add_zero]
    · simp [full, iMaxTiled] at free
  · rfl

theorem fillGrid_fills (small : num.toNat < 2 ^ 31)
    (some : num ≠ 0) (kind : grid.item.id = id) (empty : grid.num = 0) :
    fillGrid id grid num = ({ grid with num := 1 }, num - 1) := by
  have free : iMaxTiled - grid.num.toInt32 = 1 := by simp [empty, iMaxTiled]
  unfold fillGrid
  dsimp only
  rw [free, if_pos ⟨kind.symm, by decide⟩]
  split
  · rfl
  · next few =>
    rw [Int32.lt_iff_toInt_lt, toInt_toInt32 small, Int32.toInt_one] at few
    have positive : num.toNat ≠ 0 := fun zero => some (UInt32.toNat_inj.mp zero)
    have one : num = 1 := UInt32.toNat_inj.mp (by simp; omega)
    rw [UInt32.toUInt32_toInt32, one, empty]
    rfl

def RolePackGrid.label (grid : RolePackGrid) : RoleItem × UInt32 := (grid.item, grid.pos)

structure Fills (id : UInt32) (grids : List RolePackGrid) (num : UInt32)
    (result : List RolePackGrid × UInt32) : Prop where
  labels : result.1.map RolePackGrid.label = grids.map RolePackGrid.label
  single : ∀ grid ∈ result.1, grid.Single
  rises : ∀ grid ∈ result.1, grid.num = 1 ∨ grid ∈ grids
  rest : result.2.toNat = num.toNat - emptyCount grids id
  kind : itemCount result.1 id + result.2.toNat = itemCount grids id + num.toNat
  others : ∀ other, other ≠ id → itemCount result.1 other = itemCount grids other

theorem Fills.length {result : List RolePackGrid × UInt32}
    (fills : Fills id grids num result) : result.1.length = grids.length := by
  simpa using congrArg List.length fills.labels

theorem Fills.keep
    {result : List RolePackGrid × UInt32} (later : Fills id grids num result) (single : grid.Single)
    (idle : num = 0 ∨ ¬ (grid.item.id = id ∧ grid.num = 0)) :
    Fills id (grid :: grids) num (grid :: result.1, result.2) where
  labels := by simp [later.labels]
  single := by simpa [single] using later.single
  rises := by
    simp only [List.mem_cons, forall_eq_or_imp, true_or, or_true, true_and]
    intro other member
    exact (later.rises other member).imp_right .inr
  rest := by
    have rest := later.rest
    rw [emptyCount_cons]
    rcases idle with zero | full
    · simp [zero] at rest ⊢
      exact rest
    · simp [rest, full]
  kind := by
    have kind := later.kind
    simp only [itemCount_cons]
    omega
  others other different := by simp [later.others other different]

theorem Fills.fill (later : Fills id grids (num - 1) result) (some : num ≠ 0)
    (kind : grid.item.id = id) (empty : grid.num = 0) :
    Fills id (grid :: grids) num ({ grid with num := 1 } :: result.1, result.2) where
  labels := by simp [later.labels, RolePackGrid.label]
  single := by simpa [RolePackGrid.Single] using later.single
  rises := by
    simp only [List.mem_cons, forall_eq_or_imp, true_or, true_and]
    intro other member
    exact (later.rises other member).imp_right .inr
  rest := by
    have fewer := toNat_sub_one some
    have rest := later.rest
    rw [emptyCount_cons, if_pos ⟨kind, empty⟩]
    dsimp only
    omega
  kind := by
    have fewer := toNat_sub_one some
    have count := later.kind
    simp only [itemCount_cons, kind, empty, if_true]
    simp
    omega
  others other different := by simp [later.others other different, kind, Ne.symm different]

theorem fillGrids_spec (id : UInt32)
    (small : num.toNat < 2 ^ 31) (single : ∀ grid ∈ grids, grid.Single) :
    Fills id grids num (fillGrids id grids num) := by
  induction grids generalizing num with
  | nil =>
    exact ⟨rfl, nofun, nofun, by simp [fillGrids, emptyCount], rfl, fun _ _ => rfl⟩
  | cons grid grids ih =>
    have first := single grid List.mem_cons_self
    have tail : ∀ grid ∈ grids, grid.Single :=
      fun other member => single other (List.mem_cons_of_mem _ member)
    rw [fillGrids]
    by_cases idle : num = 0 ∨ ¬ (grid.item.id = id ∧ grid.num = 0)
    · rw [fillGrid_keeps first idle]
      exact (ih small tail).keep first idle
    · obtain ⟨some, kind, empty⟩ : num ≠ 0 ∧ grid.item.id = id ∧ grid.num = 0 := by
        simpa only [not_or, not_not] using idle
      rw [fillGrid_fills small some kind empty]
      have fewer := toNat_sub_one some
      exact (ih (show (num - 1).toNat < 2 ^ 31 by omega) tail).fill some kind empty

theorem takeGrid_keeps (single : grid.Single)
    (other : ¬ (grid.item.id = id ∧ grid.num = 1)) : takeGrid id grid num = (grid, num, false) := by
  unfold takeGrid
  dsimp only
  rw [if_neg]
  intro held
  rcases single with empty | full
  · simp [empty] at held
  · exact other ⟨held.1.symm, full⟩

theorem takeGrid_takes (small : num.toNat < 2 ^ 31)
    (some : num ≠ 0) (kind : grid.item.id = id) (full : grid.num = 1) :
    takeGrid id grid num = ({ grid with num := 0 }, num - 1, true) := by
  unfold takeGrid
  simp only [full, kind]
  rw [if_pos ⟨trivial, by decide⟩]
  have compare : num.toInt32 ≤ UInt32.toInt32 1 ↔ num = 1 := by
    have positive : num.toNat ≠ 0 := fun zero => some (UInt32.toNat_inj.mp zero)
    rw [Int32.le_iff_toInt_le, toInt_toInt32 small, ← UInt32.toNat_inj]
    simp
    omega
  simp only [compare]
  by_cases one : num = 1
  · subst one
    rfl
  · simp only [one, if_false]
    rfl

/-- What the loop of `RemoveItem` makes of the grids and of `num`, and what it
puts into `rmposvec`. -/
structure Empties (id : UInt32) (grids : List RolePackGrid) (num : UInt32)
    (result : List RolePackGrid × UInt32 × List UInt32) : Prop where
  labels : result.1.map RolePackGrid.label = grids.map RolePackGrid.label
  single : ∀ grid ∈ result.1, grid.Single
  rest : result.2.1.toNat = num.toNat - itemCount grids id
  kind : itemCount result.1 id + num.toNat = itemCount grids id + result.2.1.toNat
  others : ∀ other, other ≠ id → itemCount result.1 other = itemCount grids other
  positions : result.2.2.Sublist (grids.map (·.pos))
  emptied : ∀ grid ∈ result.1, grid.num = 0 ∧ grid.pos ∈ result.2.2 ∨ grid ∈ grids
  recorded : (grids.map (·.pos)).Nodup → ∀ grid ∈ result.1, grid.pos ∈ result.2.2 → grid.num = 0

theorem labels_pos {left right : List RolePackGrid}
    (labels : left.map RolePackGrid.label = right.map RolePackGrid.label) :
    left.map (·.pos) = right.map (·.pos) := by
  have second := congrArg (List.map Prod.snd) labels
  simpa [RolePackGrid.label, Function.comp_def] using second

theorem Empties.take (later : Empties id grids (num - 1) result)
    (some : num ≠ 0) (kind : grid.item.id = id) (full : grid.num = 1) :
    Empties id (grid :: grids) num
      ({ grid with num := 0 } :: result.1, result.2.1, grid.pos :: result.2.2) where
  labels := by simp [later.labels, RolePackGrid.label]
  single := by simpa [RolePackGrid.Single] using later.single
  rest := by
    have fewer := toNat_sub_one some
    have rest := later.rest
    have one : (1 : UInt32).toNat = 1 := rfl
    rw [itemCount_cons, if_pos kind, full]
    dsimp only
    omega
  kind := by
    have fewer := toNat_sub_one some
    have count := later.kind
    have zero : (0 : UInt32).toNat = 0 := rfl
    have one : (1 : UInt32).toNat = 1 := rfl
    rw [itemCount_cons, itemCount_cons, if_pos kind, if_pos kind, full]
    dsimp only
    omega
  others other different := by simp [later.others other different, kind, Ne.symm different]
  positions := later.positions.cons_cons _
  emptied := by
    simp only [List.mem_cons, forall_eq_or_imp, true_or, true_and]
    intro other member
    exact (later.emptied other member).imp (fun held => ⟨held.1, .inr held.2⟩) .inr
  recorded := by
    simp only [List.map_cons, List.nodup_cons, List.mem_cons, forall_eq_or_imp, implies_true, true_and]
    rintro ⟨fresh, distinct⟩ other member recorded
    refine later.recorded distinct other member (recorded.resolve_left fun same => fresh ?_)
    rw [← labels_pos later.labels, ← same]
    exact List.mem_map_of_mem member

theorem Empties.keep
    {result : List RolePackGrid × UInt32 × List UInt32} (later : Empties id grids num result)
    (single : grid.Single) (other : ¬ (grid.item.id = id ∧ grid.num = 1)) :
    Empties id (grid :: grids) num (grid :: result.1, result.2.1, result.2.2) := by
  have none : (if grid.item.id = id then grid.num.toNat else 0) = 0 := by
    split
    · next kind =>
      rcases single with empty | one
      · simp [empty]
      · exact absurd ⟨kind, one⟩ other
    · rfl
  refine ⟨?_, ?_, ?_, ?_, ?_, ?_, ?_, ?_⟩
  · simp [later.labels]
  · simpa [single] using later.single
  · rw [itemCount_cons, none, Nat.zero_add]
    exact later.rest
  · rw [itemCount_cons, itemCount_cons, none, Nat.zero_add, Nat.zero_add]
    exact later.kind
  · intro kind different
    simp [later.others kind different]
  · exact later.positions.cons _
  · simp only [List.mem_cons, forall_eq_or_imp, true_or, or_true, true_and]
    intro stored member
    exact (later.emptied stored member).imp_right .inr
  · simp only [List.map_cons, List.nodup_cons, List.mem_cons, forall_eq_or_imp]
    rintro ⟨fresh, distinct⟩
    refine ⟨fun recorded => ?_, later.recorded distinct⟩
    exact absurd (later.positions.subset recorded) fresh

theorem takeGrids_spec (id : UInt32)
    (small : num.toNat < 2 ^ 31) (single : ∀ grid ∈ grids, grid.Single) :
    Empties id grids num (takeGrids id grids num) := by
  induction grids generalizing num with
  | nil =>
    exact ⟨rfl, nofun, by simp [takeGrids], rfl, fun _ _ => rfl, List.Sublist.refl _, nofun, nofun⟩
  | cons grid grids ih =>
    have first := single grid List.mem_cons_self
    have tail : ∀ grid ∈ grids, grid.Single :=
      fun other member => single other (List.mem_cons_of_mem _ member)
    rw [takeGrids]
    split
    · next zero =>
      exact ⟨rfl, single, by simp [zero], rfl, fun _ _ => rfl, List.nil_sublist _,
        fun _ member => .inr member, nofun⟩
    · next some =>
      by_cases full : grid.item.id = id ∧ grid.num = 1
      · rw [takeGrid_takes small some full.1 full.2]
        have fewer := toNat_sub_one some
        exact (ih (show (num - 1).toNat < 2 ^ 31 by omega) tail).take some full.1 full.2
      · rw [takeGrid_keeps first full]
        exact (ih small tail).keep first full

namespace RolePackage

def Holds (pack : RolePackage) (pos : UInt32) : Prop := ∃ grid ∈ pack.grids, grid.pos = pos ∧ 0 < grid.num

private theorem isGridFill_iff (pack : RolePackage) (inside : pos < pack.maxgrid) :
    pack.isGridFill pos = true ↔ pack.Holds pos := by
  simp [isGridFill, Holds, UInt32.not_le.mpr inside]

private theorem skipFilled_spec (pack : RolePackage) (small : pack.maxgrid.toNat < 2 ^ 31)
    (start : first ≤ pack.maxgrid.toNat) (enough : pack.maxgrid.toNat ≤ first + fuel) :
    ∃ pos, first ≤ pos ∧ pos ≤ pack.maxgrid.toNat ∧
      pack.skipFilled fuel (Int32.ofNat first) = Int32.ofNat pos ∧
      (∀ before, first ≤ before → before < pos → pack.Holds (UInt32.ofNat before)) ∧
      (pos < pack.maxgrid.toNat → ¬ pack.Holds (UInt32.ofNat pos)) := by
  induction fuel generalizing first with
  | zero => exact ⟨first, Nat.le_refl _, start, rfl, by omega, by omega⟩
  | succ fuel ih =>
    have compare : Int32.ofNat first < pack.maxgrid.toInt32 ↔ first < pack.maxgrid.toNat := by
      rw [Int32.lt_iff_toInt_lt, toInt_toInt32 small, Int32.toInt_ofNat_of_lt (by omega)]
      omega
    have within : first < pack.maxgrid.toNat → UInt32.ofNat first < pack.maxgrid :=
      (UInt32.ofNat_lt_iff (by simp [UInt32.size]; omega)).mpr
    rw [skipFilled, Int32.toUInt32_ofNat']
    split
    · next filled =>
      have inside := compare.mp filled.1
      have held := (pack.isGridFill_iff (within inside)).mp filled.2
      obtain ⟨pos, after, before, same, holds, free⟩ := ih (Nat.succ_le_of_lt inside) (by omega)
      refine ⟨pos, by omega, before, ?_, ?_, free⟩
      · rw [← same, Nat.succ_eq_add_one, Int32.ofNat_add]
        rfl
      · intro earlier behind ahead
        rcases Nat.eq_or_lt_of_le behind with rfl | later
        · exact held
        · exact holds earlier later ahead
    · next stopped =>
      refine ⟨first, Nat.le_refl _, start, rfl, by omega, ?_⟩
      intro inside held
      exact stopped ⟨compare.mpr inside, (pack.isGridFill_iff (within inside)).mpr held⟩

/-- The position of a grid for which there was none: `GetFreeGridPos` returned -1. -/
def noPosition : UInt32 := 4294967295

theorem getFreeGridPos_cases (pack : RolePackage) (some : 1 ≤ pack.maxgrid.toNat)
    (small : pack.maxgrid.toNat < 2 ^ 31) :
    (pack.getFreeGridPos.toUInt32 = noPosition ∧
        ∀ pos, 1 ≤ pos → pos < pack.maxgrid.toNat → pack.Holds (UInt32.ofNat pos)) ∨
      ∃ pos, 1 ≤ pos ∧ pos < pack.maxgrid.toNat ∧ pack.getFreeGridPos.toUInt32 = UInt32.ofNat pos ∧
        ¬ pack.Holds (UInt32.ofNat pos) := by
  obtain ⟨pos, after, before, same, holds, free⟩ :=
    pack.skipFilled_spec small some (Nat.le_add_left pack.maxgrid.toNat 1)
  have compare : pack.maxgrid.toInt32 ≤ Int32.ofNat pos ↔ pack.maxgrid.toNat ≤ pos := by
    rw [Int32.le_iff_toInt_le, toInt_toInt32 small, Int32.toInt_ofNat_of_lt (by omega)]
    omega
  unfold getFreeGridPos
  rw [show (1 : Int32) = Int32.ofNat 1 from rfl, same]
  dsimp only
  split
  · next full =>
    left
    refine ⟨rfl, ?_⟩
    intro earlier behind ahead
    exact holds earlier behind (Nat.lt_of_lt_of_le ahead (compare.mp full))
  · next room =>
    right
    have inside : pos < pack.maxgrid.toNat := Nat.not_le.mp fun above => room (compare.mpr above)
    exact ⟨pos, after, inside, Int32.toUInt32_ofNat', free inside⟩

end RolePackage

namespace PlayerKnapsackLogic

def newGrid (knapsack : PlayerKnapsackLogic) (item : RoleItem) : RolePackGrid :=
  { item := { item with gid := some knapsack.pack.nextgid }
    num := 1
    pos := knapsack.pack.getFreeGridPos.toUInt32 }

private theorem getFreeGridPos_half (pack : RolePackage) (half : RolePackGrid) (empty : half.num = 0)
    (nextgid : UInt32) :
    { pack with grids := pack.grids ++ [half], nextgid }.getFreeGridPos = pack.getFreeGridPos := by
  have filled (pos : UInt32) :
      { pack with grids := pack.grids ++ [half], nextgid }.isGridFill pos = pack.isGridFill pos := by
    simp [RolePackage.isGridFill, empty]
  have skipped (fuel : Nat) (pos : Int32) :
      { pack with grids := pack.grids ++ [half], nextgid }.skipFilled fuel pos = pack.skipFilled fuel pos := by
    induction fuel generalizing pos with
    | zero => rfl
    | succ fuel ih => simp only [RolePackage.skipFilled, filled, ih]
  simp only [RolePackage.getFreeGridPos, skipped]

/-- One round of the second loop of `PutItem` puts one item into a new grid. -/
def withNewGrid (item : RoleItem) (knapsack : PlayerKnapsackLogic) : PlayerKnapsackLogic :=
  { knapsack with
    pack := { knapsack.pack with
      grids := knapsack.pack.grids ++ [knapsack.newGrid item]
      nextgid := knapsack.pack.nextgid + 1 }
    created := knapsack.created + 1 }

private theorem appendGrid_eq (knapsack : PlayerKnapsackLogic) (item : RoleItem) {num : UInt32}
    (small : num.toNat < 2 ^ 31) (some : 0 < num) :
    knapsack.appendGrid item num = (knapsack.withNewGrid item, num - 1) := by
  have enough : ¬ num.toInt32 < iMaxTiled := by
    have positive : 0 < num.toNat := UInt32.lt_iff_toNat_lt.mp some
    rw [Int32.lt_iff_toInt_lt, toInt_toInt32 small, iMaxTiled, Int32.toInt_one]
    omega
  unfold appendGrid createItem
  dsimp only
  rw [if_neg enough, if_neg enough, getFreeGridPos_half _ _ rfl]
  rfl

theorem appendGrids_eq (item : RoleItem) (knapsack : PlayerKnapsackLogic) {num : UInt32}
    (small : num.toNat < 2 ^ 31) (enough : num.toNat ≤ fuel) :
    appendGrids item fuel knapsack num = ((withNewGrid item)^[num.toNat] knapsack, 0) := by
  induction fuel generalizing knapsack num with
  | zero =>
    have zero : num = 0 := UInt32.toNat_inj.mp (Nat.le_zero.mp enough)
    subst zero
    rfl
  | succ fuel ih =>
    rw [appendGrids]
    split
    · next some =>
      have fewer := toNat_sub_one (UInt32.pos_iff_ne_zero.mp some)
      rw [appendGrid_eq knapsack item small some]
      dsimp only
      rw [ih _ (by omega) (by omega), ← Function.iterate_succ_apply, Nat.succ_eq_add_one, fewer]
    · next none =>
      have zero : num = 0 := by simpa using none
      subst zero
      rfl

end PlayerKnapsackLogic

theorem swapRemove_perm {list : List α} (found : list[idx]? = some item) :
    list.Perm (item :: swapRemove list idx) := by
  rcases List.eq_nil_or_concat list with nil | ⟨init, last, concat⟩
  · simp [nil] at found
  · rw [List.concat_eq_append] at concat
    have final : list.getLast? = some last := by simp [concat]
    rw [swapRemove, final]
    dsimp only
    obtain ⟨within, rfl⟩ := List.getElem?_eq_some_iff.mp found
    subst concat
    rcases Nat.lt_or_ge idx init.length with inner | outer
    · rw [List.set_append_left _ _ inner, List.dropLast_concat, List.getElem_append_left inner]
      have moved : (init.set idx last).Perm (last :: init.eraseIdx idx) := by
        rw [List.set_eq_take_append_cons_drop, if_pos inner, List.eraseIdx_eq_take_drop_succ]
        exact List.perm_middle
      calc (init ++ [last]).Perm (last :: init) := List.perm_append_singleton last init
        List.Perm _ (last :: init[idx] :: init.eraseIdx idx) :=
          .cons _ (List.getElem_cons_eraseIdx_perm inner).symm
        List.Perm _ (init[idx] :: last :: init.eraseIdx idx) := .swap _ _ _
        List.Perm _ (init[idx] :: init.set idx last) := .cons _ moved.symm
    · have same : idx = init.length := by simp at within; omega
      subst same
      simp

theorem RolePackage.findPackGrid_some {pack : RolePackage}
    (found : pack.findPackGrid pos = some grid) :
    ∃ idx, pack.findPackGridIdx pos = some idx ∧ pack.grids[idx]? = some grid ∧
      pos < pack.maxgrid ∧ grid.pos = pos := by
  obtain ⟨idx, index, stored⟩ := Option.bind_eq_some_iff.mp found
  refine ⟨idx, index, stored, ?_⟩
  unfold RolePackage.findPackGridIdx at index
  split at index
  · cases index
  · next inside =>
    obtain ⟨within, same, -⟩ := List.findIdx?_eq_some_iff_getElem.mp index
    obtain ⟨-, rfl⟩ := List.getElem?_eq_some_iff.mp stored
    exact ⟨UInt32.not_le.mp inside, by simpa using same⟩

theorem RolePackage.findPackGrid_none {pack : RolePackage} (missing : pack.findPackGrid pos = none) :
    pack.findPackGridIdx pos = none ∧ (pos < pack.maxgrid → ∀ grid ∈ pack.grids, grid.pos ≠ pos) := by
  have index : pack.findPackGridIdx pos = none := by
    cases index : pack.findPackGridIdx pos with
    | none => rfl
    | some idx =>
      rw [RolePackage.findPackGrid, index, Option.bind_some] at missing
      unfold RolePackage.findPackGridIdx at index
      split at index
      · cases index
      · obtain ⟨within, -⟩ := List.findIdx?_eq_some_iff_getElem.mp index
        simp [within] at missing
  refine ⟨index, ?_⟩
  intro inside grid member same
  rw [RolePackage.findPackGridIdx, if_neg (UInt32.not_le.mpr inside)] at index
  simpa [same] using List.findIdx?_eq_none_iff.mp index grid member

namespace PlayerKnapsackLogic

variable (knapsack : PlayerKnapsackLogic)

structure Regrids (knapsack next : PlayerKnapsackLogic) (grids : List RolePackGrid) : Prop where
  grids : next.pack.grids.Perm grids
  maxgrid : next.pack.maxgrid = knapsack.pack.maxgrid
  nextgid : next.pack.nextgid = knapsack.pack.nextgid
  created : next.created = knapsack.created

theorem removeGrid_some (found : knapsack.pack.findPackGrid pos = some grid) :
    (knapsack.removeGrid pos).2 = 0 ∧ ∃ grids, knapsack.pack.grids.Perm (grid :: grids) ∧
      Regrids knapsack (knapsack.removeGrid pos).1 grids := by
  obtain ⟨idx, index, stored, -, -⟩ := RolePackage.findPackGrid_some found
  rw [removeGrid, index]
  exact ⟨rfl, _, swapRemove_perm stored, .refl _, rfl, rfl, rfl⟩

theorem removeGrid_none
    (missing : knapsack.pack.findPackGrid pos = none) : knapsack.removeGrid pos = (knapsack, -1) := by
  rw [removeGrid, (RolePackage.findPackGrid_none missing).1]

private theorem removeGrid_filter (pos : UInt32) (distinct : (knapsack.pack.grids.map (·.pos)).Nodup) :
    Regrids knapsack (knapsack.removeGrid pos).1
      (knapsack.pack.grids.filter fun grid => ¬ (grid.pos = pos ∧ pos < knapsack.pack.maxgrid)) := by
  cases found : knapsack.pack.findPackGrid pos with
  | none =>
    rw [removeGrid_none knapsack found, List.filter_eq_self.mpr]
    · exact ⟨.refl _, rfl, rfl, rfl⟩
    · intro grid member
      simpa only [decide_eq_true_eq, not_and'] using
        fun inside => (RolePackage.findPackGrid_none found).2 inside grid member
  | some grid =>
    obtain ⟨-, -, -, inside, place⟩ := RolePackage.findPackGrid_some found
    obtain ⟨-, grids, perm, removed⟩ := removeGrid_some knapsack found
    refine { removed with grids := removed.grids.trans ?_ }
    have apart := (perm.map (·.pos)).nodup_iff.mp distinct
    have others : grids.filter (fun other => ¬ (other.pos = pos ∧ pos < knapsack.pack.maxgrid)) = grids := by
      apply List.filter_eq_self.mpr
      intro other member
      have different : other.pos ≠ pos := fun same =>
        (List.nodup_cons.mp apart).1 (List.mem_map.mpr ⟨other, member, same.trans place.symm⟩)
      simp [different]
    have filtered := perm.filter fun other => ¬ (other.pos = pos ∧ pos < knapsack.pack.maxgrid)
    rw [List.filter_cons_of_neg (by simp [place, inside]), others] at filtered
    exact filtered.symm

theorem removeGrids_filter (positions : List UInt32)
    (distinct : (knapsack.pack.grids.map (·.pos)).Nodup) :
    Regrids knapsack (positions.foldl (fun knapsack pos => (knapsack.removeGrid pos).1) knapsack)
      (knapsack.pack.grids.filter fun grid => ¬ (grid.pos ∈ positions ∧ grid.pos < knapsack.pack.maxgrid)) := by
  induction positions generalizing knapsack with
  | nil =>
    refine ⟨?_, rfl, rfl, rfl⟩
    simp
  | cons pos positions ih =>
    have first := removeGrid_filter knapsack pos distinct
    rw [List.foldl_cons]
    generalize (knapsack.removeGrid pos).1 = middle at first
    have apart : (middle.pack.grids.map (·.pos)).Nodup :=
      (first.grids.map _).nodup_iff.mpr (distinct.sublist (List.filter_sublist.map _))
    have rest := ih middle apart
    refine ⟨?_, rest.maxgrid.trans first.maxgrid, rest.nextgid.trans first.nextgid,
      rest.created.trans first.created⟩
    refine (rest.grids.trans (first.grids.filter _)).trans (.of_eq ?_)
    rw [List.filter_filter, first.maxgrid]
    apply List.filter_congr
    intro grid member
    by_cases same : grid.pos = pos
    · simpa [same] using Or.inr
    · simp [same]

end PlayerKnapsackLogic

end Playground.Player
