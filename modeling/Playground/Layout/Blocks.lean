import Mathlib.Algebra.GroupWithZero.Nat

/-! Blocks of a memory that are laid one behind the other, and reading and writing one of them. -/

namespace Playground.Layout

universe u

/-- A block of memory. -/
structure Block where
  start : Nat
  size : Nat
deriving DecidableEq

namespace Block

def stop (block : Block) : Nat := block.start + block.size

/-- The blocks have no place in common. -/
def Apart (block other : Block) : Prop := block.stop ≤ other.start ∨ other.stop ≤ block.start

theorem Apart.symm {block other : Block} (apart : block.Apart other) : other.Apart block := Or.symm apart

end Block

/-- The blocks lie one behind the other, from the base up to the limit. -/
def Packed (base : Nat) : List Block → Nat → Prop
  | [], limit => limit = base
  | block :: rest, limit => block.start = base ∧ Packed block.stop rest limit

section Packed

variable {base limit : Nat} {blocks : List Block} {block : Block} (packed : Packed base blocks limit)

include packed

theorem Packed.base_le : base ≤ limit := by
  induction blocks generalizing base with
  | nil => exact Nat.le_of_eq packed.symm
  | cons first rest ih =>
    have later := ih packed.2
    have here := packed.1
    unfold Block.stop at later
    omega

theorem Packed.append (size : Nat) : Packed base (blocks ++ [⟨limit, size⟩]) (limit + size) := by
  induction blocks generalizing base with
  | nil => exact ⟨packed, rfl⟩
  | cons first rest ih => exact ⟨packed.1, ih packed.2⟩

theorem Packed.limit_eq : limit = base + (blocks.map (·.size)).sum := by
  induction blocks generalizing base with
  | nil => exact packed
  | cons first rest ih =>
    have later := ih packed.2
    have here := packed.1
    unfold Block.stop at later
    rw [List.map_cons, List.sum_cons]
    omega

theorem Packed.bounds (member : block ∈ blocks) : base ≤ block.start ∧ block.stop ≤ limit := by
  induction blocks generalizing base with
  | nil => cases member
  | cons first rest ih =>
    have behind := packed.2.base_le
    have here := packed.1
    rcases List.mem_cons.mp member with rfl | later
    · exact ⟨Nat.le_of_eq here.symm, behind⟩
    · obtain ⟨from_base, upto⟩ := ih packed.2 later
      unfold Block.stop at from_base
      exact ⟨by omega, upto⟩

theorem Packed.pairwise : blocks.Pairwise fun block later => block.stop ≤ later.start := by
  induction blocks generalizing base with
  | nil => exact .nil
  | cons first rest ih =>
    refine .cons (fun later member => ?_) (ih packed.2)
    exact (packed.2.bounds member).1

end Packed

section Memory

variable {Cell : Type u} (memory : Nat → Cell) (block : Block)

/-- The contents of a block. -/
def read : List Cell := (List.range block.size).map fun place => memory (block.start + place)

/-- The memory after cells are written into a block. -/
def write (cells : List Cell) (place : Nat) : Cell :=
  if block.start ≤ place ∧ place < block.stop then cells.getD (place - block.start) (memory place)
  else memory place

def fill (cell : Cell) (place : Nat) : Cell :=
  if block.start ≤ place ∧ place < block.stop then cell else memory place

variable {memory block} {other : Block}

theorem read_congr {changed : Nat → Cell}
    (agree : ∀ place, block.start ≤ place → place < block.stop → changed place = memory place) :
    read changed block = read memory block := by
  unfold read
  refine List.map_congr_left fun place member => agree _ (Nat.le_add_right _ _) ?_
  exact Nat.add_lt_add_left (List.mem_range.mp member) _

theorem write_outside {cells : List Cell} {place : Nat}
    (outside : place < block.start ∨ block.stop ≤ place) :
    write memory block cells place = memory place :=
  if_neg fun inside => by omega

theorem fill_outside {cell : Cell} {place : Nat} (outside : place < block.start ∨ block.stop ≤ place) :
    fill memory block cell place = memory place :=
  if_neg fun inside => by omega

theorem read_write_apart {cells : List Cell} (apart : other.Apart block) :
    read (write memory block cells) other = read memory other := by
  refine read_congr fun place from_start upto => write_outside ?_
  rcases apart with before | behind <;> omega

theorem read_fill_self {cell : Cell} :
    read (fill memory block cell) block = List.replicate block.size cell := by
  refine List.ext_getElem (by simp [read]) fun place inside _ => ?_
  have bound : place < block.size := by simpa [read] using inside
  simp [read, fill, Block.stop, bound]

end Memory

end Playground.Layout
