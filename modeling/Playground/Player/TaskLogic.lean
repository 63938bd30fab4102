import Playground.Player.Event

/-! `PlayerTaskLogic::CheckOneTask`: how an event moves one task of a role. -/

namespace Playground.Player

def taskStateDoing : UInt32 := 0
def taskStateDone : UInt32 := 1

structure RoleOneTask where
  id : UInt32
  cur : Option UInt32 := none
  state : UInt32 := taskStateDoing
deriving DecidableEq

structure TaskObj where
  event : UInt32 := 0
  param : UInt32 := 0
  value : UInt32 := 0
  method : UInt32 := 0
deriving DecidableEq

def RoleOneTask.isDoing (task : RoleOneTask) : Bool := task.state == taskStateDoing

/-- The update of `cur`: set by method 0, added to by the others while the task is doing. -/
def RoleOneTask.count (task : RoleOneTask) (obj : TaskObj) (dwValue : UInt32) : RoleOneTask :=
  if obj.method = 0 then { task with cur := some dwValue }
  else if task.isDoing then { task with cur := some (task.cur.getD 0 + dwValue) }
  else task

/-- `CheckOneTask`, `none` for a task that the table does not have, which is then deleted. -/
def checkOneTask (table : UInt32 → Option TaskObj) (task : RoleOneTask) (iEvent : Int) (ulParam : UInt64) :
    Option RoleOneTask :=
  let dwParam := (ulParam >>> 32).toUInt32
  let dwValue := ulParam.toUInt32
  (table task.id).map fun obj =>
    if obj.event.toInt32.toInt ≠ iEvent then task
    else if obj.param ≠ 0 ∧ obj.param ≠ dwParam then task
    else
      let counted := task.count obj dwValue
      if counted.isDoing ∧ obj.value ≤ counted.cur.getD 0 then { counted with state := taskStateDone }
      else counted

theorem RoleOneTask.count_frame (task : RoleOneTask) (obj : TaskObj) (dwValue : UInt32) :
    (task.count obj dwValue).id = task.id ∧ (task.count obj dwValue).state = task.state := by
  unfold count
  split
  · exact ⟨rfl, rfl⟩
  · split <;> exact ⟨rfl, rfl⟩

theorem checkOneTask_some (checked : checkOneTask table task iEvent ulParam = some next) :
    next.id = task.id ∧ (next.state = task.state ∨ task.isDoing ∧ next.state = taskStateDone) := by
  obtain ⟨obj, _, rfl⟩ := Option.map_eq_some_iff.mp checked
  obtain ⟨id, state⟩ := task.count_frame obj ulParam.toUInt32
  dsimp only
  split
  · exact ⟨rfl, .inl rfl⟩
  · split
    · exact ⟨rfl, .inl rfl⟩
    · split
      · next completes =>
        refine ⟨id, .inr ⟨?_, rfl⟩⟩
        rw [RoleOneTask.isDoing, ← state]
        exact completes.1
      · exact ⟨id, .inl state⟩

end Playground.Player
