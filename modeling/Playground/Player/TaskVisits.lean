import Playground.Player.Cascade

/-! The loop of `PlayerTaskLogic::OnEvent` over the tasks of a player. -/

namespace Playground.Player

open Component

def Configured (table : UInt32 → Option TaskObj) (id : UInt32) : Bool := (table id).isSome

/-- The configured ids are still there, and a front of only those is the same. -/
structure Prunes (table : UInt32 → Option TaskObj) (ids next : List UInt32) : Prop where
  kept : (next.filter (Configured table)).Perm (ids.filter (Configured table))
  front : ∀ {k}, (∀ id ∈ ids.take k, Configured table id) → next.take k = ids.take k

section Lists

variable {table : UInt32 → Option TaskObj} {ids middle next : List UInt32}

theorem Prunes.refl (ids : List UInt32) : Prunes table ids ids := ⟨.rfl, fun _ => rfl⟩

theorem Prunes.trans (first : Prunes table ids middle) (second : Prunes table middle next) :
    Prunes table ids next where
  kept := second.kept.trans first.kept
  front configured := by
    have same := first.front configured
    rw [← same]
    exact second.front (same ▸ configured)

private theorem take_swapRemove {list : List α} (inside : idx < list.length) (before : k ≤ idx) :
    (swapRemove list idx).take k = list.take k := by
  obtain ⟨last, final⟩ : ∃ last, list.getLast? = some last := by
    cases list with
    | nil => simp at inside
    | cons head tail => exact ⟨_, List.getLast?_cons⟩
  rw [swapRemove, final]
  dsimp only
  rw [List.dropLast_eq_take, List.take_take, List.length_set, Nat.min_eq_left (by omega), List.take_set_of_le before]

theorem map_swapRemove (f : α → β) (list : List α) (idx : Nat) :
    (swapRemove list idx).map f = swapRemove (list.map f) idx := by
  unfold swapRemove
  rw [List.getLast?_map]
  cases list.getLast? with
  | none => rfl
  | some last => simp [List.map_set, List.map_dropLast]

theorem Prunes.remove {id : UInt32} (found : ids[i]? = some id) (missing : table id = none) :
    Prunes table ids (swapRemove ids i) where
  kept := by
    have perm := (swapRemove_perm found).filter (Configured table)
    rw [List.filter_cons, if_neg (by simp [Configured, missing])] at perm
    exact perm.symm
  front := by
    intro k configured
    obtain ⟨inside, rfl⟩ := List.getElem?_eq_some_iff.mp found
    refine take_swapRemove inside ?_
    by_contra beyond
    have present := configured _ (List.mem_take_iff_getElem.mpr ⟨i, by omega, rfl⟩)
    rw [Configured, missing] at present
    cases present

end Lists

variable {Player : Type} [DecidableEq Player]

def EventWorld.taskIds (world : EventWorld Player) (player : Player) : List UInt32 :=
  (world.players player).doing.map RoleOneTask.id

def TasksPruned (env : EventEnv Player) (world next : EventWorld Player) : Prop :=
  ∀ player, Prunes env.taskTable (world.taskIds player) (next.taskIds player)

def Nested.Prunes (env : EventEnv Player) (nested : Nested Player) : Prop :=
  ∀ {world call result}, nested world call = some result → TasksPruned env world result.1

section Worlds

variable {env : EventEnv Player} {nested : Nested Player} {world middle next : EventWorld Player}
  {player : Player} {one task : RoleOneTask}

omit [DecidableEq Player] in
theorem TasksPruned.of_same (same : ∀ player, next.taskIds player = world.taskIds player) :
    TasksPruned env world next := by
  intro player
  rw [same]
  exact .refl _

omit [DecidableEq Player] in
theorem TasksPruned.trans (first : TasksPruned env world middle) (second : TasksPruned env middle next) :
    TasksPruned env world next :=
  fun player => (first player).trans (second player)

theorem TasksPruned.modify (world : EventWorld Player) (player : Player)
    (change : PlayerState → PlayerState)
    (same : ∀ state, (change state).doing = state.doing) : TasksPruned env world (world.modify player change) := by
  refine .of_same fun other => ?_
  by_cases own : other = player
  · subst own
    simp [EventWorld.taskIds, EventWorld.modify, same]
  · simp [EventWorld.taskIds, EventWorld.modify, own]

@[simp] theorem taskIds_setDoing (world : EventWorld Player) (player : Player) (doing : List RoleOneTask) :
    (world.setDoing player doing).taskIds player = doing.map RoleOneTask.id := by
  rw [EventWorld.taskIds, doing_setDoing]

theorem TasksPruned.setDoing {doing : List RoleOneTask}
    (prunes : Prunes env.taskTable (world.taskIds player) (doing.map RoleOneTask.id)) :
    TasksPruned env world (world.setDoing player doing) := by
  intro other
  by_cases own : other = player
  · subst own
    rwa [taskIds_setDoing]
  · simp [EventWorld.taskIds, EventWorld.setDoing, EventWorld.modify, own, Prunes.refl]

omit [DecidableEq Player] in
private theorem checkOneTask_eq_none : checkOneTask table one iEvent ulParam = none ↔ table one.id = none :=
  Option.map_eq_none_iff

theorem checkOneTask_configured (checked : checkOneTask table one iEvent ulParam = some task) :
    Configured table one.id := by
  obtain ⟨obj, found, _⟩ := Option.map_eq_some_iff.mp checked
  rw [Configured, found]
  rfl

theorem TasksPruned.delete (found : (world.players player).doing[i]? = some one)
    (missing : checkOneTask env.taskTable one iEvent ulParam = none) :
    TasksPruned env world (world.setDoing player (swapRemove (world.players player).doing i)) := by
  refine .setDoing ?_
  rw [map_swapRemove]
  refine .remove ?_ (checkOneTask_eq_none.mp missing)
  rw [EventWorld.taskIds, List.getElem?_map, found, Option.map_some]

theorem map_id_set {doing : List RoleOneTask} (found : doing[i]? = some one) (same : task.id = one.id) :
    (doing.set i task).map RoleOneTask.id = doing.map RoleOneTask.id := by
  obtain ⟨inside, rfl⟩ := List.getElem?_eq_some_iff.mp found
  rw [List.map_set, same, ← List.getElem_map RoleOneTask.id (h := by simpa using inside), List.set_getElem_self]

theorem taskIds_check (found : (world.players player).doing[i]? = some one)
    (checked : checkOneTask env.taskTable one iEvent ulParam = some task) :
    (world.setDoing player ((world.players player).doing.set i task)).taskIds player = world.taskIds player := by
  rw [taskIds_setDoing, map_id_set found (checkOneTask_some checked).1, EventWorld.taskIds]

theorem TasksPruned.check (found : (world.players player).doing[i]? = some one)
    (checked : checkOneTask env.taskTable one iEvent ulParam = some task) :
    TasksPruned env world (world.setDoing player ((world.players player).doing.set i task)) := by
  refine .setDoing ?_
  rw [map_id_set found (checkOneTask_some checked).1]
  exact .refl _

section

variable (prunes : nested.Prunes env)

include prunes

private theorem syncLater_prunes
    (synced : syncLater env nested world player = some next) : TasksPruned env world next := by
  obtain ⟨fired, delayed, rfl⟩ := Option.map_eq_some_iff.mp synced
  exact (prunes delayed).trans (.modify fired.1 player _ fun _ => rfl)

theorem autoSyncOnEvent_prunes
    (handled : autoSyncOnEvent env nested world player iEvent = some next) : TasksPruned env world next := by
  unfold autoSyncOnEvent at handled
  split at handled
  · split at handled
    · dsimp only at handled
      have updated : TasksPruned env world { world with updates := world.updates + 1 } :=
        .of_same fun _ => rfl
      split at handled
      · cases handled
        exact updated
      · have cleaned := @TasksPruned.modify _ _ env { world with updates := world.updates + 1 } player
          (fun state => { state with dirty := false }) fun _ => rfl
        exact updated.trans (cleaned.trans (syncLater_prunes prunes handled))
    · exact syncLater_prunes prunes handled
  · cases handled
    exact .of_same fun _ => rfl

private theorem taskLoop_prunes (fuel i : Nat)
    (handled : taskLoop env nested player iEvent ulParam fuel i world = some next) :
    TasksPruned env world next := by
  induction fuel generalizing i world with
  | zero => cases handled
  | succ fuel ih =>
    rw [taskLoop] at handled
    dsimp only at handled
    split at handled
    · cases handled
      exact .of_same fun _ => rfl
    · next one found =>
      split at handled
      · next missing => exact (TasksPruned.delete found missing).trans (ih i handled)
      · next task checked =>
        have checks := TasksPruned.check found checked
        split at handled
        · obtain ⟨fired, raised, rest⟩ := Option.bind_eq_some_iff.mp handled
          exact checks.trans ((prunes raised).trans (ih (i + 1) rest))
        · exact checks.trans (ih (i + 1) handled)

private theorem taskOnEvent_prunes
    (handled : taskOnEvent env nested world player iEvent ulParam = some next) : TasksPruned env world next := by
  have marked : TasksPruned env world (world.modify player fun state => { state with dirty := true }) :=
    .modify world player _ fun _ => rfl
  exact marked.trans (taskLoop_prunes prunes _ _ handled)

private theorem notifyEvent_prunes
    (notified : notifyEvent env nested world player iEvent ulParam receiver = some next) :
    TasksPruned env world next := by
  rw [notifyEvent_eq] at notified
  obtain ⟨middle, first, second⟩ := Option.bind_eq_some_iff.mp notified
  have synced : TasksPruned env world middle := by
    split at first
    · exact autoSyncOnEvent_prunes prunes first
    · cases first
      exact .of_same fun _ => rfl
  split at second
  · exact synced.trans (taskOnEvent_prunes prunes second)
  · cases second
    exact synced

end

private theorem note_taskIds (world : EventWorld Player) (call : FireCall Player) (notified : Option Player)
    (player : Player) : (world.note env call notified).taskIds player = world.taskIds player := by
  rw [EventWorld.taskIds, note_players, EventWorld.taskIds]

private theorem fireEvent_prunes (prunes : nested.Prunes env) : Nested.Prunes env (fireEvent env nested) := by
  intro world call result fired
  have way := fireEvent_way env nested world call
  generalize fireEvent env nested world call = outcome at way fired
  cases way with
  | lost ret _ =>
    cases fired
    exact .of_same (note_taskIds world call none)
  | delayed found _ =>
    obtain ⟨seq, _, rfl⟩ := Option.map_eq_some_iff.mp fired
    exact .of_same fun _ => rfl
  | @notified target found _ =>
    obtain ⟨notified, handled, rfl⟩ := Option.map_eq_some_iff.mp fired
    have noted : TasksPruned env world (world.note env call (some target)) :=
      .of_same (note_taskIds world call (some target))
    refine noted.trans ((notifyEvent_prunes prunes handled).trans ?_)
    dsimp only
    split <;> exact .of_same fun _ => rfl

private theorem fireAt_prunes (env : EventEnv Player) (depth : Nat) : (fireAt env depth).Prunes env := by
  induction depth with
  | zero =>
    intro world call result fired
    cases fired
  | succ depth ih => exact fireEvent_prunes ih

theorem fire_prunes [Fintype Player] (env : EventEnv Player) : Nested.Prunes env (fire env) :=
  fun fired => fireAt_prunes env _ fired

end Worlds

/-- A check that updates a task, the deletion of one, or a call of `FireEvent`. -/
inductive TaskVisit (Player : Type) where
  | checked (one task : RoleOneTask)
  | deleted (one : RoleOneTask)
  | fired (call : FireCall Player)

namespace TaskVisit

def checkedId : TaskVisit Player → Option UInt32
  | .checked one _ => some one.id
  | .deleted _ | .fired _ => none

def taskDone (player : Player) (task : RoleOneTask) : FireCall Player :=
  { iEventCode := eventPlayerTaskDone, receiver := some "task", ulParam := task.id.toUInt64
    raiser := some player }

def moved : TaskVisit Player → Option RoleOneTask
  | .checked one task => if one.isDoing ∧ task.state = taskStateDone then some task else none
  | .deleted _ | .fired _ => none

def firedCall : TaskVisit Player → Option (FireCall Player)
  | .fired call => some call
  | .checked _ _ | .deleted _ => none

end TaskVisit

open TaskVisit

def taskVisits (env : EventEnv Player) (nested : Nested Player) (player : Player) (iEvent : Int)
    (ulParam : UInt64) : Nat → Nat → EventWorld Player → Option (List (TaskVisit Player) × EventWorld Player)
  | 0, _, _ => none
  | fuel + 1, i, world =>
    let doing := (world.players player).doing
    match doing[i]? with
    | none => some ([], world)
    | some one =>
      match checkOneTask env.taskTable one iEvent ulParam with
      | none =>
        (taskVisits env nested player iEvent ulParam fuel i (world.setDoing player (swapRemove doing i))).map
          fun rest => (.deleted one :: rest.1, rest.2)
      | some task =>
        let checked := world.setDoing player (doing.set i task)
        if one.isDoing ∧ task.state = taskStateDone then
          (nested checked (taskDone player task)).bind fun fired =>
            (taskVisits env nested player iEvent ulParam fuel (i + 1) fired.1).map fun rest =>
              (.checked one task :: .fired (taskDone player task) :: rest.1, rest.2)
        else
          (taskVisits env nested player iEvent ulParam fuel (i + 1) checked).map fun rest =>
            (.checked one task :: rest.1, rest.2)

def taskOnEventVisits (env : EventEnv Player) (nested : Nested Player) (world : EventWorld Player)
    (player : Player) (iEvent : Int) (ulParam : UInt64) : Option (List (TaskVisit Player) × EventWorld Player) :=
  taskVisits env nested player iEvent ulParam ((world.players player).doing.length + 1) 0
    (world.modify player fun state => { state with dirty := true })

section Visits

variable {env : EventEnv Player} {nested : Nested Player} {world next : EventWorld Player} {player : Player}

theorem taskVisits_world (env : EventEnv Player) (nested : Nested Player) (player : Player) (iEvent : Int)
    (ulParam : UInt64) (fuel i : Nat) (world : EventWorld Player) :
    (taskVisits env nested player iEvent ulParam fuel i world).map Prod.snd =
      taskLoop env nested player iEvent ulParam fuel i world := by
  induction fuel generalizing i world with
  | zero => rfl
  | succ fuel ih =>
    rw [taskVisits, taskLoop]
    dsimp only
    cases (world.players player).doing[i]? with
    | none => rfl
    | some one =>
      dsimp only
      cases checkOneTask env.taskTable one iEvent ulParam with
      | none =>
        dsimp only
        rw [← ih, Option.map_map]
        rfl
      | some task =>
        dsimp only
        split
        · rw [Option.map_bind]
          refine Option.bind_congr fun fired _ => ?_
          rw [← ih, Function.comp_apply, Option.map_map]
          rfl
        · rw [← ih, Option.map_map]
          rfl

/-- What a loop from task `i` on does, with only configured tasks in front of it. -/
structure Visited (env : EventEnv Player) (player : Player) (iEvent : Int) (ulParam : UInt64) (i : Nat)
    (world : EventWorld Player) (visits : List (TaskVisit Player)) (next : EventWorld Player) : Prop where
  front : (next.taskIds player).take i = (world.taskIds player).take i
  rest : (next.taskIds player).drop i = visits.filterMap checkedId
  kept : (next.taskIds player).Perm ((world.taskIds player).filter (Configured env.taskTable))
  checks : ∀ one task, .checked one task ∈ visits → checkOneTask env.taskTable one iEvent ulParam = some task
  fires : visits.filterMap firedCall = (visits.filterMap moved).map (taskDone player)

omit [DecidableEq Player] in
theorem taskIds_getElem? {i : Nat} {one : RoleOneTask}
    (found : (world.players player).doing[i]? = some one) :
    (world.taskIds player)[i]? = some one.id := by
  rw [EventWorld.taskIds, List.getElem?_map, found, Option.map_some]

theorem front_succ {ids : List UInt32} {id : UInt32}
    (configured : ∀ id ∈ ids.take i, Configured table id) (found : ids[i]? = some id)
    (present : Configured table id) : ∀ id ∈ ids.take (i + 1), Configured table id := by
  intro other member
  rw [List.take_add_one, found, List.mem_append] at member
  rcases member with early | last
  · exact configured other early
  · obtain rfl : other = id := by simpa using last
    exact present

omit [DecidableEq Player] in
/-- The first visit is a check of a task that stays where it is, with the call that it makes. -/
theorem Visited.check {one task : RoleOneTask} {middle : EventWorld Player}
    {visits : List (TaskVisit Player)} {calls : List (FireCall Player)}
    (found : (world.players player).doing[i]? = some one)
    (checked : checkOneTask env.taskTable one iEvent ulParam = some task)
    (configured : ∀ id ∈ (world.taskIds player).take i, Configured env.taskTable id)
    (prunes : Prunes env.taskTable (world.taskIds player) (middle.taskIds player))
    (raised : calls = (TaskVisit.checked one task : TaskVisit Player).moved.toList.map (taskDone player))
    (rest : Visited env player iEvent ulParam (i + 1) middle visits next) :
    Visited env player iEvent ulParam i world (.checked one task :: (calls.map .fired ++ visits)) next := by
  have front := front_succ configured (taskIds_getElem? found) (checkOneTask_configured checked)
  have same : (next.taskIds player).take (i + 1) = (world.taskIds player).take (i + 1) :=
    rest.front.trans (prunes.front front)
  have here : (next.taskIds player)[i]? = some one.id := by
    have both := congrArg (fun ids => ids[i]?) same
    simpa [List.getElem?_take, taskIds_getElem? found] using both
  have unchecked : (calls.map TaskVisit.fired).filterMap checkedId = [] := by
    simp [List.filterMap_map, Function.comp_def, checkedId]
  have unmoved : (calls.map TaskVisit.fired).filterMap moved = [] := by
    simp [List.filterMap_map, Function.comp_def, moved]
  have fired : (calls.map TaskVisit.fired).filterMap firedCall = calls := by
    simp [List.filterMap_map, Function.comp_def, firedCall]
  refine ⟨?_, ?_, rest.kept.trans prunes.kept, ?_, ?_⟩
  · have shorter := congrArg (List.take i) same
    rwa [List.take_take, List.take_take, Nat.min_eq_left (Nat.le_succ i)] at shorter
  · obtain ⟨inside, value⟩ := List.getElem?_eq_some_iff.mp here
    have first : (TaskVisit.checked one task : TaskVisit Player).checkedId = some one.id := rfl
    rw [List.drop_eq_getElem_cons inside, value, rest.rest]
    rw [List.filterMap_cons_some first, List.filterMap_append, unchecked, List.nil_append]
  · intro other update member
    rcases List.mem_cons.mp member with first | later
    · obtain ⟨rfl, rfl⟩ := TaskVisit.checked.inj first
      exact checked
    · exact rest.checks other update (by simpa using later)
  · rw [List.filterMap_cons_none rfl, List.filterMap_append, fired, rest.fires]
    cases moves : (TaskVisit.checked one task : TaskVisit Player).moved with
    | none =>
      rw [List.filterMap_cons_none moves, List.filterMap_append, unmoved, raised, moves]
      rfl
    | some done =>
      rw [List.filterMap_cons_some moves, List.filterMap_append, unmoved, raised, moves]
      rfl

theorem taskVisits_visited (prunes : nested.Prunes env) (fuel i : Nat) (world : EventWorld Player)
    {visits : List (TaskVisit Player)}
    (configured : ∀ id ∈ (world.taskIds player).take i, Configured env.taskTable id)
    (visited : taskVisits env nested player iEvent ulParam fuel i world = some (visits, next)) :
    Visited env player iEvent ulParam i world visits next := by
  induction fuel generalizing i world visits with
  | zero => cases visited
  | succ fuel ih =>
    rw [taskVisits] at visited
    dsimp only at visited
    split at visited
    · next ended =>
      obtain ⟨rfl, rfl⟩ := Prod.mk.inj (Option.some.inj visited)
      have short : (world.taskIds player).length ≤ i := by
        rw [EventWorld.taskIds, List.length_map]
        exact List.getElem?_eq_none_iff.mp ended
      rw [List.take_of_length_le short] at configured
      refine ⟨rfl, List.drop_eq_nil_of_le short, ?_, nofun, rfl⟩
      rw [List.filter_eq_self.mpr configured]
    · next one found =>
      split at visited
      · next missing =>
        obtain ⟨⟨later, final⟩, looped, same⟩ := Option.map_eq_some_iff.mp visited
        obtain ⟨rfl, rfl⟩ := Prod.mk.inj same
        have deletes := TasksPruned.delete found missing player
        have front := deletes.front configured
        have rest := ih i _ (by rwa [front]) looped
        refine ⟨rest.front.trans front, rest.rest, rest.kept.trans deletes.kept, ?_, rest.fires⟩
        intro other task member
        exact rest.checks other task (by simpa using member)
      · next task checked =>
        have front := front_succ configured (taskIds_getElem? found) (checkOneTask_configured checked)
        have same := taskIds_check found checked
        split at visited
        · next completes =>
          obtain ⟨fired, raised, mapped⟩ := Option.bind_eq_some_iff.mp visited
          obtain ⟨⟨later, final⟩, looped, equal⟩ := Option.map_eq_some_iff.mp mapped
          obtain ⟨rfl, rfl⟩ := Prod.mk.inj equal
          have pruned : Prunes env.taskTable (world.taskIds player) (fired.1.taskIds player) :=
            same ▸ prunes raised player
          have rest := ih (i + 1) fired.1 (by rwa [pruned.front front]) looped
          have raises : [taskDone player task] =
              (TaskVisit.checked one task : TaskVisit Player).moved.toList.map (taskDone player) := by
            simp [moved, completes]
          exact rest.check found checked configured pruned raises
        · next unchanged =>
          obtain ⟨⟨later, final⟩, looped, equal⟩ := Option.map_eq_some_iff.mp visited
          obtain ⟨rfl, rfl⟩ := Prod.mk.inj equal
          have rest := ih (i + 1) _ (by rwa [same]) looped
          have silent : [] =
              (TaskVisit.checked one task : TaskVisit Player).moved.toList.map (taskDone player) := by
            simp [moved, unchanged]
          exact rest.check found checked configured (same ▸ .refl _) silent

variable [Fintype Player]

/-- One call of `OnEvent`, whatever handlers its events run: it returns, it checks every
configured task exactly once against its event, the tasks that are left are those it checked
and no others, and it fires `TASK_DONE` for exactly the tasks that it completed. -/
theorem tasks_visited_once (env : EventEnv Player) (world : EventWorld Player) (player : Player)
    (iEvent : Int)
    (ulParam : UInt64) :
    ∃ visits next, taskOnEventVisits env (fire env) world player iEvent ulParam = some (visits, next) ∧
      taskOnEvent env (fire env) world player iEvent ulParam = some next ∧
      (visits.filterMap checkedId).Perm ((world.taskIds player).filter (Configured env.taskTable)) ∧
      (∀ one task, .checked one task ∈ visits → checkOneTask env.taskTable one iEvent ulParam = some task) ∧
      next.taskIds player = visits.filterMap checkedId ∧
      visits.filterMap firedCall = (visits.filterMap moved).map (taskDone player) := by
  obtain ⟨next, returned, _⟩ :=
    taskOnEvent_returns env (fire_tasksReturn env world.doingTasks) world player iEvent ulParam (Nat.le_refl _)
  have looped :=
    taskVisits_world env (fire env) player iEvent ulParam ((world.players player).doing.length + 1) 0
    (world.modify player fun state => { state with dirty := true })
  rw [taskOnEvent] at returned
  rw [returned] at looped
  obtain ⟨⟨visits, final⟩, visited, rfl⟩ := Option.map_eq_some_iff.mp looped
  have all := taskVisits_visited (fire_prunes env) _ 0 _ nofun visited
  have whole : final.taskIds player = visits.filterMap checkedId := all.rest
  have marked : TasksPruned env world (world.modify player fun state => { state with dirty := true }) :=
    .modify world player _ fun _ => rfl
  refine ⟨visits, final, visited, returned, ?_, all.checks, whole, all.fires⟩
  rw [← whole]
  exact all.kept.trans (marked player).kept

end Visits

end Playground.Player
