import Playground.Transition.Steps

/-! Two systems that take the same steps, and what an observer sees of their logs. -/

namespace Playground.Transition

universe u v w

variable {State : Type u} {Label : Type v} {Entry : Type w}

/-- Two logs grow by as many entries each, and by the same ones if and only if `same`. -/
def Matches (one next two next' : List Entry) (same : Prop) : Prop :=
  ∃ first second, next = first ++ one ∧ next' = second ++ two ∧ first.length = second.length ∧
    (first = second ↔ same)

namespace Matches

variable {one next final two next' final' : List Entry} {same later : Prop}

theorem refl (one two : List Entry) : Matches one one two two True :=
  ⟨[], [], rfl, rfl, rfl, by simp⟩

theorem cons (entry entry' : Entry) (one two : List Entry) :
    Matches one (entry :: one) two (entry' :: two) (entry = entry') :=
  ⟨[entry], [entry'], rfl, rfl, rfl, by simp⟩

theorem congr (grown : Matches one next two next' same) (equivalent : same ↔ later) :
    Matches one next two next' later := by
  obtain ⟨first, second, left, right, sizes, equal⟩ := grown
  exact ⟨first, second, left, right, sizes, equal.trans equivalent⟩

theorem trans (grown : Matches one next two next' same) (again : Matches next final next' final' later) :
    Matches one final two final' (same ∧ later) := by
  obtain ⟨first, second, rfl, rfl, sizes, equal⟩ := grown
  obtain ⟨third, fourth, rfl, rfl, sizes', equal'⟩ := again
  refine ⟨third ++ first, fourth ++ second, by simp, by simp, by simp [sizes, sizes'], ?_⟩
  rw [← equal, ← equal']
  constructor
  · intro appended
    exact (List.append_inj appended sizes').symm
  · rintro ⟨rfl, rfl⟩
    rfl

theorem iff_same (grown : Matches one next two next' same) :
    same ↔ ∃ added, next = added ++ one ∧ next' = added ++ two := by
  obtain ⟨first, second, rfl, rfl, sizes, equal⟩ := grown
  rw [← equal]
  constructor
  · rintro rfl
    exact ⟨first, rfl, rfl⟩
  · rintro ⟨added, left, right⟩
    rw [List.append_cancel_right_eq] at left right
    rw [left, right]

end Matches

/-- Two systems that take a step on the same label, where the guard holds. -/
def Lockstep (rel rel' : State → Label → State → Prop) (guard : State → State → Label → Prop)
    (pair : State × State) (label : Label) (next : State × State) : Prop :=
  rel pair.1 label next.1 ∧ rel' pair.2 label next.2 ∧ guard pair.1 pair.2 label

variable {rel rel' : State → Label → State → Prop} {guard : State → State → Label → Prop}

/-- If a step shows a difference exactly where the guard fails, then so do runs. -/
theorem Steps.lockstep {log : State → List Entry} {Alike : State → State → Prop}
    (functional : ∀ {state label next other}, rel state label next → rel state label other → next = other)
    (functional' : ∀ {state label next other}, rel' state label next → rel' state label other → next = other)
    (advance : ∀ {one two label next}, Alike one two → rel one label next → ∃ next', rel' two label next' ∧
      Alike next next' ∧ Matches (log one) (log next) (log two) (log next') (guard one two label))
    {one two final : State} {labels : List Label} (alike : Alike one two) (run : Steps rel one labels final) :
    ∃ final', Steps rel' two labels final' ∧
      Matches (log one) (log final) (log two) (log final')
        (Steps (Lockstep rel rel' guard) (one, two) labels (final, final')) := by
  induction run generalizing two with
  | nil => exact ⟨two, .nil, (Matches.refl _ _).congr (iff_of_true trivial .nil)⟩
  | @cons state label next labels final first rest ih =>
    obtain ⟨next', first', alike', grown⟩ := advance alike first
    obtain ⟨final', rest', grown'⟩ := ih alike'
    refine ⟨final', .cons first' rest', (grown.trans grown').congr ?_⟩
    constructor
    · rintro ⟨here, later⟩
      exact .cons ⟨first, first', here⟩ later
    · intro guarded
      cases guarded with
      | @cons _ _ middle _ _ taken later =>
        obtain ⟨left, right⟩ := middle
        obtain rfl := functional first taken.1
        obtain rfl := functional' first' taken.2.1
        exact ⟨taken.2.2, later⟩

end Playground.Transition
