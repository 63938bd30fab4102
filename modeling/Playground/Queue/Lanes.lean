import Mathlib.Logic.Function.Basic
import Mathlib.Tactic.Simps.Basic

/-! Jobs that travel on several lanes. -/

namespace Playground.Queue

universe u v

/-- The jobs under way on each lane, the oldest first, and the jobs sent and done so far. -/
@[ext] structure Lanes (Lane : Type u) (Job : Type v) where
  pending : Lane → List Job
  sent : List Job
  done : List Job

variable {Lane : Type u} {Job : Type v}

namespace Lanes

def empty : Lanes Lane Job := { pending := fun _ => [], sent := [], done := [] }

/-- The jobs of a kind are under way on one lane only, and those done are the first ones sent. -/
def Ordered (kind : Job → Bool) (lanes : Lanes Lane Job) : Prop :=
  ∃ lane, (∀ other, other ≠ lane → (lanes.pending other).filter kind = []) ∧
    lanes.sent.filter kind = lanes.done.filter kind ++ (lanes.pending lane).filter kind

theorem ordered_empty [Nonempty Lane] (kind : Job → Bool) : (empty : Lanes Lane Job).Ordered kind :=
  ⟨Classical.choice ‹_›, fun _ _ => rfl, rfl⟩

variable {kind : Job → Bool} {lanes : Lanes Lane Job} {lane : Lane} {job : Job} {rest : List Job}

theorem Ordered.done_isPrefix (ordered : lanes.Ordered kind) :
    lanes.done.filter kind <+: lanes.sent.filter kind := by
  obtain ⟨lane, _, along⟩ := ordered
  exact ⟨_, along.symm⟩

/-- Once no job of the kind is under way, all of them are done, in the order they were sent. -/
theorem Ordered.drained (ordered : lanes.Ordered kind)
    (idle : ∀ lane, (lanes.pending lane).filter kind = []) :
    lanes.done.filter kind = lanes.sent.filter kind := by
  obtain ⟨lane, _, along⟩ := ordered
  rw [along, idle lane, List.append_nil]

theorem Ordered.along (ordered : lanes.Ordered kind)
    (alone : ∀ other, other ≠ lane → (lanes.pending other).filter kind = []) :
    lanes.sent.filter kind = lanes.done.filter kind ++ (lanes.pending lane).filter kind := by
  obtain ⟨found, others, along⟩ := ordered
  by_cases same : found = lane
  · exact same ▸ along
  · rw [along, alone found same, others lane (Ne.symm same)]

variable [DecidableEq Lane]

@[simps] def send (lanes : Lanes Lane Job) (lane : Lane) (job : Job) : Lanes Lane Job where
  pending := Function.update lanes.pending lane (lanes.pending lane ++ [job])
  sent := lanes.sent ++ [job]
  done := lanes.done

@[simps] def finish (lanes : Lanes Lane Job) (lane : Lane) (job : Job) (rest : List Job) :
    Lanes Lane Job where
  pending := Function.update lanes.pending lane rest
  sent := lanes.sent
  done := lanes.done ++ [job]

/-- A job may join the jobs of its kind: none of them is under way on another lane. -/
def Joins (kind : Job → Bool) (lanes : Lanes Lane Job) (lane : Lane) (job : Job) : Prop :=
  kind job → ∀ other, other ≠ lane → (lanes.pending other).filter kind = []

theorem Ordered.send (ordered : lanes.Ordered kind) (joins : lanes.Joins kind lane job) :
    (lanes.send lane job).Ordered kind := by
  by_cases ofKind : kind job
  · have alone := joins ofKind
    refine ⟨lane, fun other different => ?_, ?_⟩
    · simpa [different] using alone other different
    · simp [ordered.along alone, ofKind]
  · obtain ⟨found, others, along⟩ := ordered
    have kept (other : Lane) :
        ((lanes.send lane job).pending other).filter kind = (lanes.pending other).filter kind := by
      by_cases same : other = lane <;> simp [same, ofKind]
    refine ⟨found, fun other different => (kept other).trans (others other different), ?_⟩
    rw [kept found]
    simpa [ofKind] using along

theorem Ordered.finish (ordered : lanes.Ordered kind) (head : lanes.pending lane = job :: rest) :
    (lanes.finish lane job rest).Ordered kind := by
  obtain ⟨found, others, along⟩ := ordered
  refine ⟨found, fun other different => ?_, ?_⟩
  · by_cases same : other = lane
    · have none := others other different
      rw [same, head, List.filter_cons] at none
      split at none
      · cases none
      · simpa [same] using none
    · simpa [same] using others other different
  · by_cases same : found = lane
    · subst same
      by_cases ofKind : kind job <;> simp [along, head, ofKind]
    · -- the job is of another kind: those of this kind are on another lane
      have none := others lane (Ne.symm same)
      rw [head, List.filter_cons] at none
      split at none
      · cases none
      · rename_i other
        simp [along, same, other]

end Lanes

end Playground.Queue
