/-! Finite runs of a labelled transition relation, and the logs that they write. -/

namespace Playground.Transition

universe u v

/-- A finite run: the labels are in the order in which they were taken. -/
inductive Steps {State : Type u} {Label : Type v} (rel : State → Label → State → Prop) :
    State → List Label → State → Prop where
  | nil : Steps rel state [] state
  | cons (first : rel state label next) (rest : Steps rel next labels final) :
      Steps rel state (label :: labels) final

variable {State : Type u} {Label : Type v} {rel : State → Label → State → Prop}

variable {state final : State} {Inv : State → Prop}

theorem Steps.single {next : State} {label : Label} (step : rel state label next) :
    Steps rel state [label] next :=
  .cons step .nil

theorem Steps.append {middle : State} {before after : List Label}
    (left : Steps rel state before middle) (right : Steps rel middle after final) :
    Steps rel state (before ++ after) final := by
  induction left with
  | nil => exact right
  | cons first rest ih => exact .cons first (ih right)

/-- What one step preserves, a whole run preserves. -/
theorem Steps.invariant {labels : List Label} (run : Steps rel state labels final)
    (keeps : ∀ {state label next}, rel state label next → Inv state → Inv next)
    (initial : Inv state) : Inv final := by
  induction run with
  | nil => exact initial
  | cons first rest ih => exact ih (keeps first initial)

/-- What every step preserves that is taken under a guard, a run preserves all of whose steps are. -/
theorem Steps.invariant_of_guard {labels : List Label}
    (run : Steps rel state labels final) (guard : State → Label → Prop)
    (keeps : ∀ {state label next}, rel state label next → guard state label → Inv state → Inv next)
    (guarded : ∀ before label after middle, labels = before ++ label :: after →
      Steps rel state before middle → guard middle label)
    (initial : Inv state) : Inv final := by
  induction run with
  | nil => exact initial
  | cons first rest ih =>
    refine ih (fun before label after middle split steps => ?_)
      (keeps first (guarded [] _ _ _ rfl .nil) initial)
    exact guarded (_ :: before) label after middle (congrArg _ split) (.cons first steps)

/-- A run that ends with a property which no step regains took no step that loses it. -/
theorem Steps.guarded {Good : State → Prop} {loses : State → Label → Prop}
    {labels : List Label} (run : Steps rel state labels final)
    (keeps : ∀ {state label next}, rel state label next → Inv state → Inv next)
    (back : ∀ {state label next}, rel state label next → Inv state → Good next → Good state)
    (safe : ∀ {state label next}, rel state label next → Inv state → Good state → Good next →
      ¬ loses state label)
    (initial : Inv state) (good : Good final) :
    Good state ∧
      Steps (fun state label next => rel state label next ∧ ¬ loses state label) state labels final := by
  induction run with
  | nil => exact ⟨good, .nil⟩
  | cons first rest ih =>
    obtain ⟨after, steps⟩ := ih (keeps first initial) good
    have before := back first initial after
    exact ⟨before, .cons ⟨first, safe first initial before after⟩ steps⟩

theorem Steps.mono {wider : State → Label → State → Prop}
    (imp : ∀ {state label next}, rel state label next → wider state label next)
    {labels : List Label}
    (run : Steps rel state labels final) : Steps wider state labels final := by
  induction run with
  | nil => exact .nil
  | cons first rest ih => exact .cons (imp first) ih

/-- Two relations that agree wherever the run can be have the same runs. -/
theorem Steps.congr {other : State → Label → State → Prop} {labels : List Label}
    (same : ∀ {state label next}, Inv state → (rel state label next ↔ other state label next))
    (keeps : ∀ {state label next}, rel state label next → Inv state → Inv next) (initial : Inv state) :
    Steps rel state labels final ↔ Steps other state labels final := by
  constructor
  · intro run
    induction run with
    | nil => exact .nil
    | cons first rest ih => exact .cons ((same initial).mp first) (ih (keeps first initial))
  · intro run
    induction run with
    | nil => exact .nil
    | cons first rest ih =>
      have taken := (same initial).mpr first
      exact .cons taken (ih (keeps taken initial))

/-- What holds of every label of a run can be used at each of its steps. -/
theorem Steps.restrict {allowed : Label → Prop} {labels : List Label}
    (run : Steps rel state labels final) (every : ∀ label ∈ labels, allowed label) :
    Steps (fun state label next => rel state label next ∧ allowed label) state labels final := by
  induction run with
  | nil => exact .nil
  | cons first rest ih =>
    refine .cons ⟨first, every _ List.mem_cons_self⟩ (ih ?_)
    intro label member
    exact every label (List.mem_cons_of_mem _ member)

/-- The labels of a run, taken one after the other by a function that may refuse one. -/
def runAll (step : State → Label → Option State) (state : State) : List Label → Option State
  | [] => some state
  | label :: labels => (step state label).bind fun next => runAll step next labels

theorem steps_of_runAll {step : State → Label → Option State} {labels : List Label}
    (ran : runAll step state labels = some final) :
    Steps (fun state label next => step state label = some next) state labels final := by
  induction labels generalizing state with
  | nil =>
    cases ran
    exact .nil
  | cons label labels ih =>
    obtain ⟨next, stepped, rest⟩ := Option.bind_eq_some_iff.mp ran
    exact .cons stepped (ih rest)

/-- The function that refuses every label the guard does not allow. -/
def guarded (allowed : State → Label → Prop) [∀ state label, Decidable (allowed state label)]
    (step : State → Label → Option State) (state : State) (label : Label) : Option State :=
  if allowed state label then step state label else none

theorem steps_of_guarded {allowed : State → Label → Prop} [∀ state label, Decidable (allowed state label)]
    {step : State → Label → Option State} {labels : List Label}
    (ran : runAll (guarded allowed step) state labels = some final) :
    Steps (fun state label next => step state label = some next ∧ allowed state label) state labels final := by
  refine (steps_of_runAll ran).mono fun {state label next} stepped => ?_
  obtain ⟨allows, taken⟩ := Option.ite_none_right_eq_some.mp stepped
  exact ⟨taken, allows⟩

/-- A log in which every entry stands in the given relation to the log before it. -/
def Justified {Entry : Type u} (rule : List Entry → Entry → Prop) : List Entry → Prop
  | [] => True
  | entry :: log => rule log entry ∧ Justified rule log

section Log

variable {Entry : Type u} {rule : List Entry → Entry → Prop}

theorem Justified.suffix {later log : List Entry} (justified : Justified rule (later ++ log)) :
    Justified rule log := by
  induction later with
  | nil => exact justified
  | cons _ later ih => exact ih justified.2

theorem Justified.split {later earlier : List Entry} {entry : Entry}
    (justified : Justified rule (later ++ entry :: earlier)) : rule earlier entry :=
  justified.suffix.1

theorem Justified.append {Fine : List Entry → Prop} {log entries : List Entry}
    (justified : Justified rule log)
    (keeps : ∀ entry ∈ entries, ∀ log, Fine log → rule log entry ∧ Fine (entry :: log)) (fine : Fine log) :
    Justified rule (entries ++ log) ∧ Fine (entries ++ log) := by
  induction entries with
  | nil => exact ⟨justified, fine⟩
  | cons entry entries ih =>
    obtain ⟨before, fineBefore⟩ := ih fun entry member => keeps entry (List.mem_cons_of_mem _ member)
    obtain ⟨ruled, fineAfter⟩ := keeps entry List.mem_cons_self _ fineBefore
    exact ⟨⟨ruled, before⟩, fineAfter⟩

end Log

end Playground.Transition
