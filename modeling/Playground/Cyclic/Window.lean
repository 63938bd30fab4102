import Mathlib.Data.BitVec

/-! Numbers that a counter gives out and a cursor follows, both of them wrapping around. -/

namespace Playground.Cyclic

variable {w : Nat} {cursor counter number : BitVec w}

theorem toNat_succ (nonzero : number + 1 ≠ 0) : (number + 1).toNat = number.toNat + 1 := by
  have reduced : (number + 1).toNat = (number.toNat + 1) % 2 ^ w := by simp [BitVec.toNat_add]
  have carry : number.toNat + 1 ≠ 2 ^ w := by
    intro full
    rw [full, Nat.mod_self] at reduced
    exact nonzero (BitVec.eq_of_toNat_eq (by simpa using reduced))
  have bound := number.isLt
  rw [reduced, Nat.mod_eq_of_lt (by omega)]

/-- How far a number is ahead of the cursor, around the circle. -/
def distance (cursor number : BitVec w) : Nat := (number - cursor).toNat

@[simp] theorem distance_self (cursor : BitVec w) : distance cursor cursor = 0 := by
  simp [distance]

theorem distance_succ (apart : number + 1 ≠ cursor) :
    distance cursor (number + 1) = distance cursor number + 1 := by
  have shift : number + 1 - cursor = number - cursor + 1 := add_sub_right_comm number 1 cursor
  unfold distance
  rw [shift]
  refine toNat_succ ?_
  rw [← shift]
  exact sub_ne_zero.mpr apart

theorem distance_advance (apart : number ≠ cursor) :
    distance (cursor + 1) number + 1 = distance cursor number := by
  have shift : number - cursor = number - (cursor + 1) + 1 := by
    rw [sub_add_eq_sub_sub, sub_add_cancel]
  unfold distance
  rw [shift, toNat_succ]
  rw [← shift]
  exact sub_ne_zero.mpr apart

/-- The live numbers lie in the window: the cursor reaches them before it reaches the counter. -/
def Window (cursor counter : BitVec w) (live : BitVec w → Prop) : Prop :=
  ∀ number, live number → distance cursor number < distance cursor counter

variable {live : BitVec w → Prop}

theorem Window.not_live (window : Window cursor counter live) : ¬ live counter :=
  fun isLive => Nat.lt_irrefl _ (window counter isLive)

theorem Window.empty (window : Window cursor cursor live) (number : BitVec w) : ¬ live number := by
  intro isLive
  have inside := window number isLive
  rw [distance_self] at inside
  exact Nat.not_lt_zero _ inside

theorem Window.mono {fewer : BitVec w → Prop} (window : Window cursor counter live)
    (imp : ∀ number, fewer number → live number) : Window cursor counter fewer :=
  fun number isLive => window number (imp number isLive)

/-- The counter gives out a number, unless it thereby runs into the cursor. -/
theorem Window.allocate {more : BitVec w → Prop} (window : Window cursor counter live)
    (apart : counter + 1 ≠ cursor) (imp : ∀ number, more number → number = counter ∨ live number) :
    Window cursor (counter + 1) more := by
  intro number isLive
  rw [distance_succ apart]
  rcases imp number isLive with rfl | old
  · exact Nat.lt_succ_self _
  · exact Nat.lt_succ_of_lt (window number old)

theorem Window.advance (window : Window cursor counter live) (passed : ¬ live cursor) :
    Window (cursor + 1) counter live := by
  intro number isLive
  have other : number ≠ cursor := fun same => passed (same ▸ isLive)
  have inside := window number isLive
  have apart : counter ≠ cursor := by
    rintro rfl
    exact window.empty number isLive
  have nearer := distance_advance other
  have counterNearer := distance_advance apart
  omega

end Playground.Cyclic
