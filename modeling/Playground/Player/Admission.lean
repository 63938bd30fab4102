import Playground.Player.Conservation

/-! Which requests `PutItem` and `RemoveItem` accept. -/

namespace Playground.Player

open Transition RolePackage

variable {num : UInt32}

/-- The request returns 0 exactly if it fits, and a rejected one changes nothing. -/
structure Decides (num : UInt32) (limit : Int32) (knapsack next : PlayerKnapsackLogic) (ret : Int32) : Prop where
  fits : ret = 0 ↔ (num.toNat : Int) ≤ limit.toInt
  rejected : ret ≠ 0 → next = knapsack
  tiled : ret = 0 → ∀ grid ∈ next.pack.grids, (grid.num.toNat : Int) ≤ iMaxTiled.toInt

namespace PlayerKnapsackLogic

def PutDecided (knapsack : PlayerKnapsackLogic) (item : RoleItem) (num : UInt32) : Prop :=
  ∃ iCap next ret, knapsack.pack.getItemCapacity item.id = some iCap ∧
    knapsack.putItem item num = some (next, ret) ∧ Decides num iCap knapsack next ret

def RemoveDecided (knapsack : PlayerKnapsackLogic) (id num : UInt32) : Prop :=
  Decides num (knapsack.pack.getItemNum id) knapsack (knapsack.removeItem id num).1 (knapsack.removeItem id num).2

variable {knapsack next : PlayerKnapsackLogic}

theorem Valid.tiled (valid : knapsack.Valid) :
    ∀ grid ∈ knapsack.pack.grids, (grid.num.toNat : Int) ≤ iMaxTiled.toInt := by
  intro grid member
  rcases valid.single grid member with empty | full
  · rw [empty]
    decide
  · rw [full]
    decide

theorem toInt32_neg (large : 2 ^ 31 ≤ num.toNat) : num.toInt32.toInt < 0 := by
  have bound := num.toNat_lt
  rw [← UInt32.ofNat_toNat (x := num), UInt32.toInt32_ofNat', Int32.toInt_ofNat']
  have size : Int32.size = 4294967296 := rfl
  rw [size, Int.bmod_eq_emod, if_pos (by omega)]
  omega

variable (valid : knapsack.Valid)

include valid

theorem getItemCapacity_valid (id : UInt32) :
    ∃ iCap, knapsack.pack.getItemCapacity id = some iCap ∧
      iCap.toInt = (emptyCount knapsack.pack.grids id +
        (knapsack.pack.maxgrid.toNat - knapsack.pack.grids.length) : Nat) := by
  have bound : emptyCount knapsack.pack.grids id ≤ knapsack.pack.grids.length := List.countP_le_length
  have fits := valid.fits
  have small := valid.small
  exact ⟨_, getItemCapacity_eq _ _ valid.single valid.small valid.fits, Int32.toInt_ofNat_of_lt (by omega)⟩

theorem putDecided_of_small (item : RoleItem)
    (small : num.toNat < 2 ^ 31) : knapsack.PutDecided item num := by
  obtain ⟨iCap, capacity, limit⟩ := getItemCapacity_valid valid item.id
  rcases Nat.lt_or_ge (emptyCount knapsack.pack.grids item.id +
      (knapsack.pack.maxgrid.toNat - knapsack.pack.grids.length)) num.toNat with short | enough
  · refine ⟨iCap, knapsack, -1, capacity, putItem_refused valid item small short, ?_⟩
    refine ⟨iff_of_false (by decide) (by omega), fun _ => rfl, fun accepted => absurd accepted (by decide)⟩
  · obtain ⟨next, ret, returned, outcome⟩ := putItem_outcome valid item small
    have after := (outcome.conserves valid).2.1
    obtain ⟨filled, _, accepted⟩ := putItem_admitted valid item small enough
    obtain ⟨-, rfl⟩ := Prod.mk.inj (Option.some.inj (accepted.symm.trans returned))
    exact ⟨iCap, next, 0, capacity, returned, iff_of_true rfl (by omega), nofun, fun _ => after.tiled⟩

theorem removeDecided_of_small (id : UInt32)
    (small : num.toNat < 2 ^ 31) : knapsack.RemoveDecided id num := by
  have held := toInt_getItemNum valid id
  rcases Nat.lt_or_ge (itemCount knapsack.pack.grids id) num.toNat with short | enough
  · have refused : (-1 : Int32) ≠ 0 := by decide
    rw [RemoveDecided, removeItem_refused valid small short]
    exact ⟨iff_of_false refused (by omega), fun _ => rfl, fun accepted => absurd accepted refused⟩
  · have after : (knapsack.removeItem id num).1.Valid := ((removeItem_outcome valid small).conserves valid).2.1
    have accepted := (removeItem_admitted valid small enough).1
    exact ⟨iff_of_true accepted (by omega), fun rejected => absurd accepted rejected, fun _ => after.tiled⟩

private theorem putDecided_small
    (decided : knapsack.PutDecided item num) : num.toNat < 2 ^ 31 := by
  obtain ⟨iCap, next, ret, capacity, returned, decides⟩ := decided
  by_contra large
  have negative := toInt32_neg (Nat.le_of_not_lt large)
  obtain ⟨known, limited, limit⟩ := getItemCapacity_valid valid item.id
  cases capacity.symm.trans limited
  have passes : ¬ iCap < num.toInt32 := by
    rw [Int32.lt_iff_toInt_lt]
    omega
  rw [putItem, capacity, Option.map_some, if_neg passes] at returned
  have accepted : ret = 0 := (Prod.mk.inj (Option.some.inj returned)).2.symm
  have fits := decides.fits.mp accepted
  have bound := iCap.toInt_lt
  omega

private theorem removeDecided_small {id : UInt32}
    (decided : knapsack.RemoveDecided id num) : num.toNat < 2 ^ 31 := by
  by_contra large
  have negative := toInt32_neg (Nat.le_of_not_lt large)
  have held := toInt_getItemNum valid id
  have passes : ¬ knapsack.pack.getItemNum id < num.toInt32 := by
    rw [Int32.lt_iff_toInt_lt]
    omega
  have accepted : (knapsack.removeItem id num).2 = 0 := by rw [removeItem, if_neg passes]
  have fits := decided.fits.mp accepted
  have bound := (knapsack.pack.getItemNum id).toInt_lt
  omega

end PlayerKnapsackLogic

open PlayerKnapsackLogic

/-- In every package that bounded calls reach, `PutItem` and `RemoveItem` accept exactly the
requests that fit if and only if the count is below 2^31. -/
theorem requests_decided_iff {calls : List KnapsackCall} {knapsack : PlayerKnapsackLogic}
    (run : Steps KnapsackStep birthKnapsack calls knapsack) (num : UInt32) :
    (∀ id, knapsack.RemoveDecided id num ↔ num.toNat < 2 ^ 31) ∧
      ∀ item, knapsack.PutDecided item num ↔ num.toNat < 2 ^ 31 := by
  have valid := KnapsackStep.run_valid run
  constructor
  · exact fun id => ⟨removeDecided_small valid, removeDecided_of_small valid id⟩
  · exact fun item => ⟨putDecided_small valid, putDecided_of_small valid item⟩

theorem requests_decided_stocked :
    stockedKnapsack.RemoveDecided 7 2 ∧ stockedKnapsack.PutDecided { id := 7 } 8 :=
  ⟨((requests_decided_iff (.single stocked_step) 2).1 7).mpr (by decide),
    ((requests_decided_iff (.single stocked_step) 8).2 { id := 7 }).mpr (by decide)⟩

/-- The birth package is empty and has ten grids. It gives away 2^31 items, and it takes 2^31
items into one grid. -/
theorem large_request_accepted :
    (birthKnapsack.removeItem 7 2147483648).2 = 0 ∧ birthKnapsack.pack.getItemNum 7 = 0 ∧
      birthKnapsack.pack.getItemCapacity 7 = some 10 ∧
      (birthKnapsack.putItem { id := 7 } 2147483648).map (fun result =>
        (result.2, result.1.pack.grids.map (·.num))) = some (0, [2147483648]) := by
  refine ⟨by decide +kernel, by decide, by decide, by decide +kernel⟩

end Playground.Player
