import Playground.Player.Event

/-! `PlayerKnapsackLogic`: the package of a role as a list of grids. -/

namespace Playground.Player

structure RoleItem where
  id : UInt32
  level : Option UInt32 := none
  gid : Option UInt32 := none
deriving DecidableEq

structure RolePackGrid where
  item : RoleItem
  num : UInt32 := 0
  pos : UInt32 := 0
deriving DecidableEq

structure RolePackage where
  maxgrid : UInt32 := 0
  grids : List RolePackGrid := []
  nextgid : UInt32 := 1
deriving DecidableEq

/-- The package of the player, the events fired so far, and how many items
`CreateItem` has numbered. -/
structure PlayerKnapsackLogic where
  pack : RolePackage := {}
  fired : List RaisedEvent := []
  created : Nat := 0
deriving DecidableEq

def iMaxTiled : Int32 := 1

namespace RolePackage

def isGridFill (pack : RolePackage) (pos : UInt32) : Bool :=
  decide (pack.maxgrid ≤ pos) || pack.grids.any fun grid => grid.pos == pos && decide (0 < grid.num)

/-- The loop of `GetFreeGridPos`; it leaves within `maxgrid` rounds. -/
def skipFilled (pack : RolePackage) : Nat → Int32 → Int32
  | 0, pos => pos
  | fuel + 1, pos =>
    if pos < pack.maxgrid.toInt32 ∧ pack.isGridFill pos.toUInt32 then pack.skipFilled fuel (pos + 1)
    else pos

def getFreeGridPos (pack : RolePackage) : Int32 :=
  let pos := pack.skipFilled pack.maxgrid.toNat 1
  if pack.maxgrid.toInt32 ≤ pos then -1 else pos

def getItemCapacity (pack : RolePackage) (id : UInt32) : Option Int32 :=
  let iNum := pack.grids.foldl (fun iNum grid =>
    let iOneFree := iMaxTiled - grid.num.toInt32
    if id = grid.item.id ∧ 0 < iOneFree then iNum + iOneFree else iNum) 0
  let nEmptyGrids := (pack.maxgrid - UInt32.ofNat pack.grids.length).toInt32
  if 0 ≤ nEmptyGrids then some (iNum + nEmptyGrids * iMaxTiled) else none

def getItemNum (pack : RolePackage) (id : UInt32) : Int32 :=
  pack.grids.foldl (fun iNum grid =>
    if id = grid.item.id ∧ 0 < grid.num then iNum + grid.num.toInt32 else iNum) 0

def findPackGridIdx (pack : RolePackage) (pos : UInt32) : Option Nat :=
  if pack.maxgrid ≤ pos then none else pack.grids.findIdx? fun grid => grid.pos == pos

def findPackGrid (pack : RolePackage) (pos : UInt32) : Option RolePackGrid :=
  (pack.findPackGridIdx pos).bind fun idx => pack.grids[idx]?

end RolePackage

/-- `SwapElements(idx, size - 1)` and `RemoveLast`. -/
def swapRemove {α : Type} (list : List α) (idx : Nat) : List α :=
  match list.getLast? with
  | none => []
  | some last => (list.set idx last).dropLast

/-- One grid in the first loop of `PutItem`, with what is left of `num`. -/
def fillGrid (id : UInt32) (grid : RolePackGrid) (num : UInt32) : RolePackGrid × UInt32 :=
  let iOneFill := grid.num.toInt32
  let iOneFree := iMaxTiled - iOneFill
  if id = grid.item.id ∧ 0 < iOneFree then
    if iOneFree < num.toInt32 then ({ grid with num := iMaxTiled.toUInt32 }, num - iOneFree.toUInt32)
    else ({ grid with num := iOneFill.toUInt32 + num }, 0)
  else (grid, num)

def fillGrids (id : UInt32) : List RolePackGrid → UInt32 → List RolePackGrid × UInt32
  | [], num => ([], num)
  | grid :: grids, num =>
    let one := fillGrid id grid num
    let rest := fillGrids id grids one.2
    (one.1 :: rest.1, rest.2)

/-- One grid in the loop of `RemoveItem`: the grid, the rest of `num`, and whether
its position joins `rmposvec`. -/
def takeGrid (id : UInt32) (grid : RolePackGrid) (num : UInt32) : RolePackGrid × UInt32 × Bool :=
  let iOneItemNum := grid.num.toInt32
  if id = grid.item.id ∧ 0 < iOneItemNum then
    let left := if num.toInt32 ≤ iOneItemNum then iOneItemNum - num.toInt32 else 0
    let num := if num.toInt32 ≤ iOneItemNum then 0 else num - iOneItemNum.toUInt32
    ({ grid with num := left.toUInt32 }, num, decide (left = 0))
  else (grid, num, false)

/-- The loop of `RemoveItem`, with what is left of `num` and `rmposvec`. -/
def takeGrids (id : UInt32) : List RolePackGrid → UInt32 → List RolePackGrid × UInt32 × List UInt32
  | [], num => ([], num, [])
  | grid :: grids, num =>
    if num = 0 then (grid :: grids, num, [])
    else
      let one := takeGrid id grid num
      let rest := takeGrids id grids one.2.1
      (one.1 :: rest.1, rest.2.1, if one.2.2 then grid.pos :: rest.2.2 else rest.2.2)

namespace PlayerKnapsackLogic

variable (knapsack : PlayerKnapsackLogic)

def onInitBirthPlayer : PlayerKnapsackLogic :=
  { knapsack with pack := { knapsack.pack with maxgrid := 10 } }

def fireEvent (iEventCode : Int) (ulParam : UInt64) : PlayerKnapsackLogic :=
  { knapsack with fired := knapsack.fired ++ [{ iEventCode, receiver := none, ulParam }] }

def withGrids (grids : List RolePackGrid) : PlayerKnapsackLogic :=
  { knapsack with pack := { knapsack.pack with grids } }

def createItem (item : RoleItem) : PlayerKnapsackLogic × RoleItem :=
  ({ knapsack with
      pack := { knapsack.pack with nextgid := knapsack.pack.nextgid + 1 }
      created := knapsack.created + 1 },
    { item with gid := some knapsack.pack.nextgid })

/-- One round of the second loop of `PutItem`. The new grid has no position yet when one is searched. -/
def appendGrid (item : RoleItem) (num : UInt32) : PlayerKnapsackLogic × UInt32 :=
  let new := knapsack.createItem item
  let pack := new.1.pack
  let half : RolePackGrid := { item := new.2 }
  let pos := { pack with grids := pack.grids ++ [half] }.getFreeGridPos.toUInt32
  let grid := { half with pos, num := if num.toInt32 < iMaxTiled then num else iMaxTiled.toUInt32 }
  ({ new.1 with pack := { pack with grids := pack.grids ++ [grid] } },
    if num.toInt32 < iMaxTiled then 0 else num - iMaxTiled.toUInt32)

/-- The second loop of `PutItem`; it leaves within `num` rounds. -/
def appendGrids (item : RoleItem) : Nat → PlayerKnapsackLogic → UInt32 → PlayerKnapsackLogic × UInt32
  | 0, knapsack, num => (knapsack, num)
  | fuel + 1, knapsack, num =>
    if 0 < num then
      let next := knapsack.appendGrid item num
      appendGrids item fuel next.1 next.2
    else (knapsack, num)

def putItem (item : RoleItem) (num : UInt32) : Option (PlayerKnapsackLogic × Int32) :=
  (knapsack.pack.getItemCapacity item.id).map fun iCap =>
    if iCap < num.toInt32 then (knapsack, -1)
    else
      let filled := fillGrids item.id knapsack.pack.grids num
      let done := appendGrids item num.toNat (knapsack.withGrids filled.1) filled.2
      (done.1.fireEvent eventPlayerItemAdd (eventParam item.id done.2), 0)

def removeGrid (pos : UInt32) : PlayerKnapsackLogic × Int32 :=
  match knapsack.pack.findPackGridIdx pos with
  | none => (knapsack, -1)
  | some idx =>
    ((knapsack.withGrids (swapRemove knapsack.pack.grids idx)).fireEvent eventPlayerRemoveGridItem
      pos.toUInt64, 0)

def removeItem (id num : UInt32) : PlayerKnapsackLogic × Int32 :=
  if knapsack.pack.getItemNum id < num.toInt32 then (knapsack, -1)
  else
    let taken := takeGrids id knapsack.pack.grids num
    let removed := taken.2.2.foldl (fun knapsack pos => (knapsack.removeGrid pos).1)
      (knapsack.withGrids taken.1)
    (removed.fireEvent eventPlayerItemDec (eventParam id taken.2.1), 0)

def changeMaxGrid (chg : UInt8) : PlayerKnapsackLogic × Int32 :=
  let old := knapsack.pack.maxgrid + chg.toUInt32
  ({ knapsack with pack := { knapsack.pack with maxgrid := old } }.fireEvent
    eventPlayerChangePackMaxGrid old.toInt32.toInt64.toUInt64, 0)

end PlayerKnapsackLogic

inductive KnapsackCall where
  | putItem (item : RoleItem) (num : UInt32)
  | removeItem (id num : UInt32)
  | removeGrid (pos : UInt32)
  | changeMaxGrid (chg : UInt8)

/-- A call and what it returns, `none` where an `assert` ends the process. -/
def PlayerKnapsackLogic.call (knapsack : PlayerKnapsackLogic) : KnapsackCall → Option (PlayerKnapsackLogic × Int32)
  | .putItem item num => knapsack.putItem item num
  | .removeItem id num => some (knapsack.removeItem id num)
  | .removeGrid pos => some (knapsack.removeGrid pos)
  | .changeMaxGrid chg => some (knapsack.changeMaxGrid chg)

def birthKnapsack : PlayerKnapsackLogic := ({} : PlayerKnapsackLogic).onInitBirthPlayer

end Playground.Player
