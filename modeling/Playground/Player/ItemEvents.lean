import Playground.Player.Handlers

/-! The amount that the item events carry. -/

namespace Playground.Player

/-- The parameter as `CheckOneTask` takes it apart: `dwParam` and `dwValue`. -/
def RaisedEvent.decoded (event : RaisedEvent) : UInt32 × UInt32 :=
  ((event.ulParam >>> 32).toUInt32, event.ulParam.toUInt32)

theorem eventParam_high (high low : UInt32) : (eventParam high low >>> 32).toUInt32 = high := by
  apply UInt32.toBitVec_inj.mp
  ext i below
  have first : 32 + i < 64 := by omega
  have second : i < 64 := by omega
  simp [eventParam, first, second, BitVec.getLsbD_eq_getElem below]

theorem eventParam_low (high low : UInt32) : (eventParam high low).toUInt32 = low := by
  apply UInt32.toBitVec_inj.mp
  ext i below
  simp [eventParam]

/-- The call fired one event of the code, which says which item was moved and how many of it. -/
def CarriesAmount (iEventCode : Int) (id num : UInt32) (knapsack next : PlayerKnapsackLogic) : Prop :=
  ∃ others event, next.fired = knapsack.fired ++ others ++ [event] ∧
    (∀ other ∈ others, other.iEventCode ≠ iEventCode) ∧
    event.iEventCode = iEventCode ∧ event.decoded = (id, num)

/-- The item lies in no grid with a positive number, as an `int`. -/
def NoneToTake (grids : List RolePackGrid) (id : UInt32) : Prop :=
  ∀ grid ∈ grids, grid.item.id = id → ¬ 0 < grid.num.toInt32

private theorem toNat_toUInt32 {num : Int32} (positive : 0 < num) : (num.toUInt32.toNat : Int) = num.toInt := by
  have nonneg : 0 ≤ num.toInt := by
    have above := Int32.lt_iff_toInt_lt.mp positive
    rw [Int32.toInt_zero] at above
    omega
  have sign : num.toBitVec.msb = false := by
    rw [BitVec.msb_eq_toInt]
    simpa using nonneg
  exact (num.toBitVec.toInt_eq_toNat_of_msb sign).symm

section Loops

variable {id num : UInt32} {grids : List RolePackGrid}

theorem toNat_sub_toUInt32 {one : Int32} (small : num.toNat < 2 ^ 31) (positive : 0 < one)
    (more : one < num.toInt32) : (num - one.toUInt32).toNat < num.toNat := by
  have above := Int32.lt_iff_toInt_lt.mp positive
  rw [Int32.toInt_zero] at above
  have below := Int32.lt_iff_toInt_lt.mp more
  rw [toInt_toInt32 small] at below
  have same := toNat_toUInt32 positive
  have fits : one.toUInt32 ≤ num := UInt32.le_iff_toNat_le.mpr (by omega)
  rw [UInt32.toNat_sub_of_le _ _ fits]
  omega

private theorem fillGrid_le (id : UInt32) (grid : RolePackGrid) (small : num.toNat < 2 ^ 31) :
    (fillGrid id grid num).2.toNat ≤ num.toNat := by
  unfold fillGrid
  dsimp only
  split
  · next free =>
    split
    · next more => exact Nat.le_of_lt (toNat_sub_toUInt32 small free.2 more)
    · exact Nat.zero_le _
  · exact Nat.le_refl _

theorem fillGrids_le (id : UInt32) (grids : List RolePackGrid) (small : num.toNat < 2 ^ 31) :
    (fillGrids id grids num).2.toNat ≤ num.toNat := by
  induction grids generalizing num with
  | nil => exact Nat.le_refl _
  | cons grid grids ih =>
    have first := fillGrid_le id grid small
    exact Nat.le_trans (ih (Nat.lt_of_le_of_lt first small)) first

theorem takeGrid_rest {grid : RolePackGrid} (small : num.toNat < 2 ^ 31) (some : num ≠ 0) :
    (grid.item.id = id ∧ 0 < grid.num.toInt32 ∧ (takeGrid id grid num).2.1.toNat < num.toNat) ∨
      (¬ (grid.item.id = id ∧ 0 < grid.num.toInt32) ∧ (takeGrid id grid num).2.1 = num) := by
  unfold takeGrid
  dsimp only
  split
  · next full =>
    refine .inl ⟨full.1.symm, full.2, ?_⟩
    dsimp only
    split
    · exact Nat.pos_of_ne_zero fun zero => some (UInt32.toNat_inj.mp zero)
    · next more => exact toNat_sub_toUInt32 small full.2 (Int32.not_le.mp more)
  · next other => exact .inr ⟨fun full => other ⟨full.1.symm, full.2⟩, rfl⟩

private theorem takeGrids_le (id : UInt32) (grids : List RolePackGrid) (small : num.toNat < 2 ^ 31) :
    (takeGrids id grids num).2.1.toNat ≤ num.toNat := by
  induction grids generalizing num with
  | nil => exact Nat.le_refl _
  | cons grid grids ih =>
    rw [takeGrids]
    split
    · exact Nat.le_refl _
    · next some =>
      have first : (takeGrid id grid num).2.1.toNat ≤ num.toNat := by
        rcases @takeGrid_rest id num grid small some with ⟨_, _, less⟩ | ⟨_, same⟩
        · exact Nat.le_of_lt less
        · rw [same]
      exact Nat.le_trans (ih (Nat.lt_of_le_of_lt first small)) first

theorem takeGrids_same_iff (id : UInt32) (grids : List RolePackGrid) (small : num.toNat < 2 ^ 31) :
    (takeGrids id grids num).2.1 = num ↔ num = 0 ∨ NoneToTake grids id := by
  induction grids with
  | nil => exact iff_of_true rfl (.inr nofun)
  | cons grid grids ih =>
    rw [takeGrids]
    split
    · next zero => exact iff_of_true rfl (.inl zero)
    · next some =>
      rw [NoneToTake, List.forall_mem_cons, or_iff_right some]
      rw [or_iff_right some] at ih
      rcases @takeGrid_rest id num grid small some with ⟨kind, full, less⟩ | ⟨other, same⟩
      · have bound := takeGrids_le id grids (Nat.lt_trans less small)
        refine iff_of_false (fun same => ?_) (fun none => none.1 kind full)
        have equal := congrArg UInt32.toNat same
        dsimp only at equal
        omega
      · dsimp only
        rw [same, ih]
        exact ⟨fun none => ⟨fun kind full => other ⟨kind, full⟩, none⟩, fun none => none.2⟩

end Loops

section Events

variable {knapsack next : PlayerKnapsackLogic} {iEventCode : Int} {id num rest : UInt32}

theorem carriesAmount_iff (fired : next.fired = knapsack.fired ++ others ++
      [{ iEventCode, receiver := none, ulParam := eventParam id rest }])
    (foreign : ∀ other ∈ others, other.iEventCode ≠ iEventCode) :
    CarriesAmount iEventCode id num knapsack next ↔ rest = num := by
  constructor
  · rintro ⟨_, event, appended, _, _, decoded⟩
    obtain ⟨_, last⟩ := List.append_inj' (fired.symm.trans appended) rfl
    obtain rfl := List.singleton_inj.mp last
    exact (eventParam_low id rest).symm.trans (congrArg Prod.snd decoded)
  · rintro rfl
    refine ⟨others, _, fired, foreign, rfl, ?_⟩
    rw [RaisedEvent.decoded, eventParam_high, eventParam_low]

private theorem putItem_fired (small : num.toNat < 2 ^ 31) (put : knapsack.putItem item num = some (next, 0)) :
    next.fired = knapsack.fired ++ [] ++
      [{ iEventCode := eventPlayerItemAdd, receiver := none, ulParam := eventParam item.id 0 }] := by
  obtain ⟨iCap, _, result⟩ := Option.map_eq_some_iff.mp put
  split at result
  · cases congrArg Prod.snd result
  · have below := fillGrids_le item.id knapsack.pack.grids small
    have silent := PlayerKnapsackLogic.appendGrids_fired item num.toNat
      (knapsack.withGrids (fillGrids item.id knapsack.pack.grids num).1) (fillGrids item.id knapsack.pack.grids num).2
    have emptied := congrArg Prod.snd (PlayerKnapsackLogic.appendGrids_eq item
      (knapsack.withGrids (fillGrids item.id knapsack.pack.grids num).1) (by omega) below)
    have same := congrArg Prod.fst result
    dsimp only at same emptied
    rw [← same, emptied, List.append_nil]
    exact congrArg (· ++ _) silent

private theorem removeItem_fired (removed : knapsack.removeItem id num = (next, 0)) :
    ∃ others, next.fired = knapsack.fired ++ others ++
        [{ iEventCode := eventPlayerItemDec, receiver := none
           ulParam := eventParam id (takeGrids id knapsack.pack.grids num).2.1 }] ∧
      ∀ other ∈ others, other.iEventCode ≠ eventPlayerItemDec := by
  unfold PlayerKnapsackLogic.removeItem at removed
  split at removed
  · cases congrArg Prod.snd removed
  · have gridEvent : eventPlayerRemoveGridItem ≠ eventPlayerItemDec := by decide
    obtain ⟨others, fired, kinds⟩ := @PlayerKnapsackLogic.removeGrids_firesOnly
      (fun other => other.iEventCode ≠ eventPlayerItemDec)
      (knapsack.withGrids (takeGrids id knapsack.pack.grids num).1) (takeGrids id knapsack.pack.grids num).2.2
      fun _ => gridEvent
    obtain rfl : _ = next := congrArg Prod.fst removed
    exact ⟨others, congrArg (· ++ _) fired, kinds⟩

end Events

/-- For every package and every count below 2^31: the event of a `PutItem` that returned 0
says how many items were put if and only if none were, and the event of a `RemoveItem` if
and only if none were removed or there was nothing to take. -/
theorem item_events_carry_iff (knapsack next : PlayerKnapsackLogic) {num : UInt32}
    (small : num.toNat < 2 ^ 31) :
    (∀ item, knapsack.putItem item num = some (next, 0) →
      (CarriesAmount eventPlayerItemAdd item.id num knapsack next ↔ num = 0)) ∧
    ∀ id, knapsack.removeItem id num = (next, 0) →
      (CarriesAmount eventPlayerItemDec id num knapsack next ↔ num = 0 ∨ NoneToTake knapsack.pack.grids id) := by
  constructor
  · intro item put
    rw [carriesAmount_iff (putItem_fired small put) nofun]
    exact eq_comm
  · intro id removed
    obtain ⟨others, fired, foreign⟩ := removeItem_fired removed
    rw [carriesAmount_iff fired foreign]
    exact takeGrids_same_iff id knapsack.pack.grids small

theorem item_events_carry_none : CarriesAmount eventPlayerItemDec 7 0 birthKnapsack
    (birthKnapsack.removeItem 7 0).1 :=
  ((item_events_carry_iff birthKnapsack (birthKnapsack.removeItem 7 0).1 (by decide)).2 7 (by decide)).mpr
    (.inl rfl)

def RaisedEvent.told (event : RaisedEvent) : Int × UInt32 × UInt32 := (event.iEventCode, event.decoded)

/-- Three items of kind 7 come into the birth package and two leave it; either event says that
none did. -/
theorem item_events_empty :
    (birthKnapsack.putItem { id := 7 } 3).map (fun put => (put.2, put.1.fired.map RaisedEvent.told)) =
        some (0, [(eventPlayerItemAdd, 7, 0)]) ∧
      (birthKnapsack.putItem { id := 7 } 3).map (fun put =>
        ((put.1.removeItem 7 2).2, (put.1.removeItem 7 2).1.fired.map RaisedEvent.told)) =
        some (0, [(eventPlayerItemAdd, 7, 0), (eventPlayerRemoveGridItem, 0, 1),
          (eventPlayerRemoveGridItem, 0, 2), (eventPlayerItemDec, 7, 0)]) := by
  decide +kernel

end Playground.Player
