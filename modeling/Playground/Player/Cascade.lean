import Mathlib.Algebra.Order.BigOperators.Group.Finset
import Playground.Player.Handlers

/-! Handlers that raise events whose handlers raise events. -/

namespace Playground.Player

open Component

variable {Player : Type} [DecidableEq Player]
variable {world : EventWorld Player}

/-- No player got a task, or a task back that was completed. -/
def Settles (world next : EventWorld Player) : Prop :=
  ∀ player, (next.players player).doing.length ≤ (world.players player).doing.length ∧
    (next.players player).doing.countP RoleOneTask.isDoing ≤
      (world.players player).doing.countP RoleOneTask.isDoing

section Settles

variable {world middle next : EventWorld Player} {player : Player}

omit [DecidableEq Player] in
theorem Settles.of_same (same : next.players = world.players) : Settles world next := by
  intro player
  rw [same]
  exact ⟨Nat.le_refl _, Nat.le_refl _⟩

omit [DecidableEq Player] in
theorem Settles.trans (first : Settles world middle) (second : Settles middle next) : Settles world next :=
  fun player => ⟨Nat.le_trans (second player).1 (first player).1, Nat.le_trans (second player).2 (first player).2⟩

@[simp] theorem doing_setDoing (world : EventWorld Player) (player : Player) (doing : List RoleOneTask) :
    ((world.setDoing player doing).players player).doing = doing := by
  simp [EventWorld.setDoing, EventWorld.modify]

theorem Settles.setDoing {doing : List RoleOneTask}
    (length : doing.length ≤ (world.players player).doing.length)
    (count : doing.countP RoleOneTask.isDoing ≤ (world.players player).doing.countP RoleOneTask.isDoing) :
    Settles world (world.setDoing player doing) := by
  intro other
  by_cases same : other = player
  · subst same
    rw [doing_setDoing]
    exact ⟨length, count⟩
  · simp [EventWorld.setDoing, EventWorld.modify, same]

theorem Settles.modify (world : EventWorld Player) (player : Player) (change : PlayerState → PlayerState)
    (same : ∀ state, (change state).doing = state.doing) : Settles world (world.modify player change) := by
  intro other
  by_cases own : other = player
  · subst own
    simp [EventWorld.modify, same]
  · simp [EventWorld.modify, own]

variable [Fintype Player]

omit [DecidableEq Player] in
theorem Settles.doingTasks (settles : Settles world next) : next.doingTasks ≤ world.doingTasks :=
  Finset.sum_le_sum fun player _ => (settles player).2

omit [DecidableEq Player] in
theorem Settles.doingTasks_lt (settles : Settles world next) (player : Player)
    (fewer : (next.players player).doing.countP RoleOneTask.isDoing <
      (world.players player).doing.countP RoleOneTask.isDoing) : next.doingTasks < world.doingTasks :=
  Finset.sum_lt_sum (fun player _ => (settles player).2) ⟨player, Finset.mem_univ _, fewer⟩

end Settles

theorem countP_set_checked {doing : List RoleOneTask} (found : doing[i]? = some one)
    (checked : checkOneTask table one iEvent ulParam = some task) :
    (doing.set i task).countP RoleOneTask.isDoing ≤ doing.countP RoleOneTask.isDoing ∧
      (one.isDoing ∧ task.state = taskStateDone →
        (doing.set i task).countP RoleOneTask.isDoing < doing.countP RoleOneTask.isDoing) := by
  obtain ⟨within, rfl⟩ := List.getElem?_eq_some_iff.mp found
  have counted := List.countP_set (p := RoleOneTask.isDoing) (a := task) within
  have member : doing[i].isDoing → 0 < doing.countP RoleOneTask.isDoing := fun isDoing =>
    List.countP_pos_iff.mpr ⟨_, List.getElem_mem within, isDoing⟩
  have done : task.state = taskStateDone → task.isDoing = false := by
    intro state
    rw [RoleOneTask.isDoing, state]
    decide
  obtain ⟨_, same | ⟨was, state⟩⟩ := checkOneTask_some checked
  · have unchanged : task.isDoing = doing[i].isDoing := by rw [RoleOneTask.isDoing, same, RoleOneTask.isDoing]
    rw [unchanged] at counted
    refine ⟨?_, ?_⟩
    · split at counted
      · next isDoing =>
        have positive := member isDoing
        omega
      · omega
    · rintro ⟨isDoing, state⟩
      rw [← unchanged, done state] at isDoing
      cases isDoing
  · have positive := member was
    rw [done state, if_pos was] at counted
    refine ⟨?_, fun _ => ?_⟩
    · simp at counted
      omega
    · simp at counted
      omega

section Returns

variable {env : EventEnv Player} {nested : Nested Player} {bound : Nat} {call : FireCall Player}

theorem note_players (world : EventWorld Player) (call : FireCall Player) (notified : Option Player) :
    (world.note env call notified).players = world.players := by
  unfold EventWorld.note
  split <;> rfl

theorem notifyEvent_eq (world : EventWorld Player) (player : Player) (iEvent : Int) (ulParam : UInt64)
    (receiver : Option String) :
    notifyEvent env nested world player iEvent ulParam receiver =
      (if receiver.all (· == "autosync") then autoSyncOnEvent env nested world player iEvent
        else some world).bind fun world =>
          if receiver.all (· == "task") then taskOnEvent env nested world player iEvent ulParam
          else some world := by
  rw [notifyEvent, List.filter_cons, List.filter_cons, List.filter_cons, List.filter_nil]
  simp only [Logic.name]
  by_cases autosync : receiver.all (· == "autosync") = true <;>
    by_cases knapsack : receiver.all (· == "knapsack") = true <;>
    by_cases task : receiver.all (· == "task") = true <;> simp [autosync, knapsack, task, onEvent]

private theorem ofNat_injective (small : a < 2 ^ 32) (smaller : b < 2 ^ 32)
    (same : Int32.ofNat a = Int32.ofNat b) : a = b := by
  have values := congrArg (fun seq : Int32 => seq.toUInt32.toNat) same
  simp [Int32.toUInt32_ofNat'] at values
  omega

private theorem used_of_freeSeq_none (params : List (Int32 × DelayEventParam)) (fuel : Nat) (seq : Int32)
    (failed : freeSeq params fuel seq = none) :
    ∀ k < fuel, seq + Int32.ofNat k ∈ params.map Prod.fst := by
  induction fuel generalizing seq with
  | zero => exact fun k below => absurd below (Nat.not_lt_zero _)
  | succ fuel ih =>
    rw [freeSeq] at failed
    split at failed
    · next used =>
      intro k below
      cases k with
      | zero =>
        obtain ⟨entry, member, same⟩ := List.any_eq_true.mp used
        have key : entry.1 = seq + Int32.ofNat 0 := by simpa using same
        exact key ▸ List.mem_map_of_mem member
      | succ k =>
        have later := ih (seq + 1) failed k (Nat.lt_of_succ_lt_succ below)
        rw [Int32.add_assoc, Int32.add_comm 1] at later
        rw [Int32.ofNat_add k 1]
        exact later
    · cases failed

theorem freeSeq_returns (params : List (Int32 × DelayEventParam)) (seq : Int32)
    (room : params.length < 2 ^ 32) : (freeSeq params (params.length + 1) seq).isSome := by
  rw [Option.isSome_iff_ne_none]
  intro failed
  have used := used_of_freeSeq_none params _ seq failed
  have distinct : ((List.range (params.length + 1)).map fun k => seq + Int32.ofNat k).Nodup := by
    refine List.Nodup.map_on ?_ List.nodup_range
    intro a left b right same
    have first := List.mem_range.mp left
    have second := List.mem_range.mp right
    exact ofNat_injective (by omega) (by omega) (Int32.add_right_inj seq |>.mp same)
  have contained : ((List.range (params.length + 1)).map fun k => seq + Int32.ofNat k) ⊆
      params.map Prod.fst := by
    intro key member
    obtain ⟨k, below, rfl⟩ := List.mem_map.mp member
    exact used k (List.mem_range.mp below)
  have bound := (distinct.subperm contained).length_le
  simp at bound

theorem fireEvent_delayed_eq (env : EventEnv Player) (nested other : Nested Player)
    (world : EventWorld Player)
    (later : 0 < call.secondsLater) :
    fireEvent env nested world call = fireEvent env other world call := by
  simp only [fireEvent, if_pos later]

private theorem fireEvent_delayed_players
    {result : EventWorld Player × UInt32} (fired : fireEvent env nested world call = some result)
    (later : 0 < call.secondsLater) : result.1.players = world.players := by
  have way := fireEvent_way env nested world call
  generalize fireEvent env nested world call = outcome at way fired
  cases way with
  | lost ret _ =>
    cases fired
    exact note_players world call none
  | delayed found _ =>
    obtain ⟨seq, _, rfl⟩ := Option.map_eq_some_iff.mp fired
    rfl
  | notified _ now => exact absurd later now

theorem fireEvent_delayed_isSome (env : EventEnv Player) (nested : Nested Player)
   
    (later : 0 < call.secondsLater)
    (room : world.center.mpDelayEventParams.length < 2 ^ 32) : (fireEvent env nested world call).isSome := by
  have way := fireEvent_way env nested world call
  generalize fireEvent env nested world call = outcome at way
  cases way with
  | lost ret _ => rfl
  | delayed found _ =>
    rw [EventWorld.generateDelayEvent, Option.isSome_map]
    exact freeSeq_returns world.center.mpDelayEventParams world.center.iDelayEventNextSeq room
  | notified _ now => exact absurd later now

theorem syncLater_delay : (0 : Int32) < 300 := by decide

private theorem syncLater_settles
    (synced : syncLater env (fireEvent env nested) world player = some next) : Settles world next := by
  obtain ⟨result, fired, rfl⟩ := Option.map_eq_some_iff.mp synced
  have same := fireEvent_delayed_players fired syncLater_delay
  exact (Settles.of_same same).trans (Settles.modify result.1 player _ fun _ => rfl)

theorem autoSyncOnEvent_settles
    (handled : autoSyncOnEvent env (fireEvent env nested) world player iEvent = some next) :
    Settles world next := by
  unfold autoSyncOnEvent at handled
  split at handled
  · split at handled
    · dsimp only at handled
      split at handled
      · cases handled
        exact .of_same rfl
      · have cleaned := Settles.modify { world with updates := world.updates + 1 } player
          (fun state => { state with dirty := false }) fun _ => rfl
        exact (Settles.of_same rfl).trans (cleaned.trans (syncLater_settles handled))
    · exact syncLater_settles handled
  · cases handled
    exact .of_same rfl

theorem autoSyncOnEvent_isSome (env : EventEnv Player) (nested : Nested Player) (world : EventWorld Player)
    (player : Player) (iEvent : Int)
    (room : iEvent = eventPlayerSyncDB → world.center.mpDelayEventParams.length < 2 ^ 32) :
    (autoSyncOnEvent env (fireEvent env nested) world player iEvent).isSome := by
  have synced (world : EventWorld Player) (room : world.center.mpDelayEventParams.length < 2 ^ 32) :
      (syncLater env (fireEvent env nested) world player).isSome := by
    rw [syncLater, Option.isSome_map]
    exact fireEvent_delayed_isSome env nested syncLater_delay room
  unfold autoSyncOnEvent
  split
  · next sync =>
    split
    · dsimp only
      split
      · rfl
      · exact synced _ (room sync)
    · exact synced _ (room sync)
  · rfl

variable [Fintype Player]

/-- Events for the task logic are handled as long as fewer tasks than the bound are doing. -/
def Nested.TasksReturn (nested : Nested Player) (bound : Nat) : Prop :=
  ∀ world call, call.receiver = some "task" → call.secondsLater = 0 → world.doingTasks < bound →
    ∃ result, nested world call = some result ∧ Settles world result.1

theorem taskLoop_returns (env : EventEnv Player) (returns : nested.TasksReturn bound) (player : Player)
    (iEvent : Int) (ulParam : UInt64)
    (fuel i : Nat) (world : EventWorld Player) (enough : (world.players player).doing.length - i < fuel)
    (few : world.doingTasks ≤ bound) :
    ∃ next, taskLoop env nested player iEvent ulParam fuel i world = some next ∧ Settles world next := by
  induction fuel generalizing i world with
  | zero => exact absurd enough (Nat.not_lt_zero _)
  | succ fuel ih =>
    rw [taskLoop]
    dsimp only
    cases found : (world.players player).doing[i]? with
    | none => exact ⟨world, rfl, .of_same rfl⟩
    | some one =>
      obtain ⟨within, _⟩ := List.getElem?_eq_some_iff.mp found
      dsimp only
      cases checked : checkOneTask env.taskTable one iEvent ulParam with
      | none =>
        have perm := swapRemove_perm found
        have length := perm.length_eq
        have count := perm.countP_eq RoleOneTask.isDoing
        rw [List.length_cons] at length
        rw [List.countP_cons] at count
        have settles : Settles world (world.setDoing player (swapRemove (world.players player).doing i)) :=
          .setDoing (by omega) (by omega)
        obtain ⟨next, returned, rest⟩ := ih i (world.setDoing player _) (by rw [doing_setDoing]; omega)
          (Nat.le_trans settles.doingTasks few)
        exact ⟨next, returned, settles.trans rest⟩
      | some task =>
        obtain ⟨counted, completed⟩ := countP_set_checked found checked
        have length : ((world.players player).doing.set i task).length = (world.players player).doing.length :=
          List.length_set
        have settles : Settles world (world.setDoing player ((world.players player).doing.set i task)) :=
          .setDoing (Nat.le_of_eq length) counted
        dsimp only
        split
        · next completes =>
          have fewer : (world.setDoing player ((world.players player).doing.set i task)).doingTasks <
              world.doingTasks := settles.doingTasks_lt player (by rw [doing_setDoing]; exact completed completes)
          obtain ⟨fired, raised, handled⟩ := returns
            (world.setDoing player ((world.players player).doing.set i task))
            { iEventCode := eventPlayerTaskDone, receiver := some "task", ulParam := task.id.toUInt64
              raiser := some player } rfl rfl (Nat.lt_of_lt_of_le fewer few)
          have both := settles.trans handled
          have within' := (both player).1
          obtain ⟨next, returned, rest⟩ := ih (i + 1) fired.1 (by omega) (Nat.le_trans both.doingTasks few)
          refine ⟨next, ?_, both.trans rest⟩
          rw [raised]
          exact returned
        · obtain ⟨next, returned, rest⟩ := ih (i + 1) (world.setDoing player _) (by rw [doing_setDoing]; omega)
            (Nat.le_trans settles.doingTasks few)
          exact ⟨next, returned, settles.trans rest⟩

theorem taskOnEvent_returns (env : EventEnv Player) (returns : nested.TasksReturn bound)
    (world : EventWorld Player) (player : Player)
    (iEvent : Int) (ulParam : UInt64) (few : world.doingTasks ≤ bound) :
    ∃ next, taskOnEvent env nested world player iEvent ulParam = some next ∧ Settles world next := by
  have marked := Settles.modify world player (fun state => { state with dirty := true }) fun _ => rfl
  have length := (marked player).1
  obtain ⟨next, returned, rest⟩ := taskLoop_returns env returns player iEvent ulParam
    ((world.players player).doing.length + 1) 0 _ (by omega) (Nat.le_trans marked.doingTasks few)
  exact ⟨next, returned, marked.trans rest⟩

/-- Task events nest at most as deep as there are tasks to complete. -/
theorem fireAt_tasksReturn (env : EventEnv Player) (depth : Nat) :
    (fireAt env depth).TasksReturn depth := by
  induction depth with
  | zero =>
    intro world call _ _ few
    exact absurd few (Nat.not_lt_zero _)
  | succ depth ih =>
    intro world call receiver now few
    have noted (notified : Option Player) : Settles world (world.note env call notified) :=
      .of_same (note_players world call notified)
    have way := fireEvent_way env (fireAt env depth) world call
    rw [fireAt]
    generalize fireEvent env (fireAt env depth) world call = outcome at way
    cases way with
    | lost ret _ => exact ⟨_, rfl, noted none⟩
    | delayed _ later => exact absurd later (by rw [now]; decide)
    | @notified player found _ =>
      rw [receiver, notifyEvent_eq, if_neg (by decide), Option.bind_some, if_pos (by decide)]
      have fewer : (world.note env call (some player)).doingTasks ≤ depth :=
        Nat.le_trans (noted (some player)).doingTasks (Nat.le_of_lt_succ few)
      obtain ⟨next, returned, rest⟩ := taskOnEvent_returns env ih
        (world.note env call (some player)) player call.iEventCode call.ulParam fewer
      rw [returned]
      refine ⟨_, rfl, (noted (some player)).trans (rest.trans ?_)⟩
      dsimp only
      split <;> exact .of_same rfl

end Returns

section Fixpoint

variable {env : EventEnv Player} {nested other : Nested Player} {world next : EventWorld Player}

/-- What the one returns for an event of the task logic, the other does. -/
def Nested.Agrees (nested other : Nested Player) : Prop :=
  ∀ {world call result}, call.receiver = some "task" → call.secondsLater = 0 →
    nested world call = some result → other world call = some result

theorem taskLoop_agrees (agrees : nested.Agrees other) (fuel i : Nat)
    (handled : taskLoop env nested player iEvent ulParam fuel i world = some next) :
    taskLoop env other player iEvent ulParam fuel i world = some next := by
  induction fuel generalizing i world with
  | zero => cases handled
  | succ fuel ih =>
    rw [taskLoop] at handled ⊢
    dsimp only at handled ⊢
    split at handled
    · exact handled
    · split at handled
      · exact ih i handled
      · split at handled
        · next completes =>
          obtain ⟨fired, raised, rest⟩ := Option.bind_eq_some_iff.mp handled
          rw [if_pos completes, agrees rfl rfl raised]
          exact ih (i + 1) rest
        · next unchanged =>
          rw [if_neg unchanged]
          exact ih (i + 1) handled

private theorem fireEvent_mono {call : FireCall Player} (mono : ∀ {target next},
      notifyEvent env nested (world.note env call (some target)) target call.iEventCode call.ulParam
          call.receiver = some next →
        notifyEvent env other (world.note env call (some target)) target call.iEventCode call.ulParam
          call.receiver = some next)
    (fired : fireEvent env nested world call = some result) : fireEvent env other world call = some result := by
  unfold fireEvent at fired ⊢
  split at fired
  · next test => rwa [if_pos test]
  · next other =>
    rw [if_neg other]
    split at fired
    · next player =>
      rw [if_pos player]
      split at fired
      · next late => rwa [if_pos late]
      · next soon =>
        rw [if_neg soon]
        split at fired
        · exact fired
        · split at fired
          · next later => rwa [if_pos later]
          · next now =>
            obtain ⟨notified, handled, rfl⟩ := Option.map_eq_some_iff.mp fired
            rw [if_neg now, mono handled, Option.map_some]
    · next unsupported => rwa [if_neg unsupported]

private theorem fireAt_agrees (env : EventEnv Player) (below : depth ≤ deeper) :
    (fireAt env depth).Agrees (fireAt env deeper) := by
  induction depth generalizing deeper with
  | zero =>
    intro world call result _ _ fired
    cases fired
  | succ depth ih =>
    obtain ⟨deeper, rfl⟩ := Nat.exists_eq_add_of_le' (Nat.le_trans (Nat.succ_le_succ (Nat.zero_le _)) below)
    intro world call result receiver now fired
    refine fireEvent_mono ?_ fired
    intro target next notified
    rw [receiver, notifyEvent_eq, if_neg (by decide), Option.bind_some, if_pos (by decide)] at notified ⊢
    exact taskLoop_agrees (ih (Nat.le_of_succ_le_succ below)) _ _ notified

variable [Fintype Player]

private theorem fireAt_agrees_fire (env : EventEnv Player) (depth : Nat) :
    (fireAt env depth).Agrees (fire env) := by
  intro world call result receiver now fired
  obtain ⟨other, returned, _⟩ :=
    fireAt_tasksReturn env (world.doingTasks + 2) world call receiver now (by omega)
  have large := fireAt_agrees env (Nat.le_max_left depth (world.doingTasks + 2)) receiver now fired
  have same := fireAt_agrees env (Nat.le_max_right depth (world.doingTasks + 2)) receiver now returned
  cases large.symm.trans same
  exact returned

theorem fire_tasksReturn (env : EventEnv Player) (bound : Nat) : Nested.TasksReturn (fire env) bound := by
  intro world call receiver now _
  exact fireAt_tasksReturn env (world.doingTasks + 2) world call receiver now (by omega)

private theorem syncLater_fire (env : EventEnv Player) (depth : Nat) (world : EventWorld Player) (player : Player) :
    syncLater env (fireAt env (depth + 1)) world player = syncLater env (fire env) world player := by
  have below : fireAt env (depth + 1) = fireEvent env (fireAt env depth) := by rw [fireAt]
  have above : fireAt env (world.doingTasks + 2) = fireEvent env (fireAt env (world.doingTasks + 1)) := by
    rw [fireAt]
  unfold syncLater fire
  rw [below, above]
  exact congrArg _ (fireEvent_delayed_eq env (fireAt env depth) (fireAt env (world.doingTasks + 1)) world
    syncLater_delay)

theorem autoSyncOnEvent_fire (env : EventEnv Player) (depth : Nat) (world : EventWorld Player)
    (player : Player)
    (iEvent : Int) :
    autoSyncOnEvent env (fireAt env (depth + 1)) world player iEvent =
      autoSyncOnEvent env (fire env) world player iEvent := by
  simp only [autoSyncOnEvent, syncLater_fire env depth]

private theorem notifyEvent_fire (env : EventEnv Player) (player : Player)
    (iEvent : Int) (ulParam : UInt64) (receiver : Option String) (few : world.doingTasks ≤ depth + 1) :
    notifyEvent env (fireAt env (depth + 1)) world player iEvent ulParam receiver =
      notifyEvent env (fire env) world player iEvent ulParam receiver := by
  rw [notifyEvent_eq, notifyEvent_eq, autoSyncOnEvent_fire env depth]
  refine Option.bind_congr ?_
  intro middle handled
  have settles : Settles world middle := by
    split at handled
    · rw [← autoSyncOnEvent_fire env depth] at handled
      exact autoSyncOnEvent_settles handled
    · cases handled
      exact .of_same rfl
  split
  · obtain ⟨next, returned, _⟩ := taskOnEvent_returns env (fireAt_tasksReturn env (depth + 1)) middle player
      iEvent ulParam (Nat.le_trans settles.doingTasks few)
    rw [returned]
    exact (taskLoop_agrees (fireAt_agrees_fire env (depth + 1)) _ _ returned).symm
  · rfl

/-- The depth is no restriction: the handlers call `FireEvent` itself. -/
theorem fire_eq (env : EventEnv Player) (world : EventWorld Player) (call : FireCall Player) :
    fire env world call = fireEvent env (fire env) world call := by
  have same (target : Player) :
      notifyEvent env (fireAt env (world.doingTasks + 1)) (world.note env call (some target)) target
          call.iEventCode call.ulParam call.receiver =
        notifyEvent env (fire env) (world.note env call (some target)) target call.iEventCode call.ulParam
          call.receiver := by
    have noted : Settles world (world.note env call (some target)) := .of_same (note_players world call _)
    exact notifyEvent_fire env target _ _ _ (Nat.le_succ_of_le noted.doingTasks)
  rw [fire, fireAt]
  simp only [fireEvent, same]

/-- The event is stored for later, or it makes the synchronisation store its next one. -/
def FireCall.Delays (call : FireCall Player) : Prop :=
  0 < call.secondsLater ∨ call.iEventCode = eventPlayerSyncDB

private theorem notifyEvent_isSome (env : EventEnv Player) (world : EventWorld Player) (player : Player)
    (iEvent : Int)
    (ulParam : UInt64) (receiver : Option String)
    (room : iEvent = eventPlayerSyncDB → world.center.mpDelayEventParams.length < 2 ^ 32) :
    (notifyEvent env (fire env) world player iEvent ulParam receiver).isSome := by
  have synced : ∃ middle, (if receiver.all (· == "autosync") then
      autoSyncOnEvent env (fire env) world player iEvent else some world) = some middle := by
    split
    · rw [← autoSyncOnEvent_fire env 0]
      exact Option.isSome_iff_exists.mp (autoSyncOnEvent_isSome env (fireAt env 0) world player iEvent room)
    · exact ⟨world, rfl⟩
  obtain ⟨middle, handled⟩ := synced
  rw [notifyEvent_eq, handled, Option.bind_some]
  split
  · obtain ⟨next, returned, _⟩ :=
      taskOnEvent_returns env (fire_tasksReturn env middle.doingTasks) middle player iEvent ulParam (Nat.le_refl _)
    rw [returned]
    rfl
  · rfl

private theorem fire_isSome (env : EventEnv Player) (world : EventWorld Player) (call : FireCall Player)
    (room : call.Delays → world.center.mpDelayEventParams.length < 2 ^ 32) : (fire env world call).isSome := by
  rw [fire_eq]
  by_cases later : 0 < call.secondsLater
  · exact fireEvent_delayed_isSome env (fire env) later (room (.inl later))
  · have way := fireEvent_way env (fire env) world call
    generalize fireEvent env (fire env) world call = outcome at way
    cases way with
    | lost ret _ => rfl
    | delayed _ soon => exact absurd soon later
    | @notified player found _ =>
      have table : (world.note env call (some player)).center = world.center := by
        unfold EventWorld.note
        split <;> rfl
      rw [Option.isSome_map]
      refine notifyEvent_isSome env _ player _ _ _ ?_
      intro sync
      rw [table]
      exact room (.inr sync)

/-- Every cascade of task events ends. `FireEvent` and the handlers that call it are total:
`fire` answers every call as `FireEvent` does whose handlers call `fire`, the task logic of
every player returns, and a call that does not return waits for a free sequence number. -/
theorem task_cascade_ends (env : EventEnv Player) (world : EventWorld Player) (call : FireCall Player) :
    fire env world call = fireEvent env (fire env) world call ∧
      (∀ player, (taskOnEvent env (fire env) world player call.iEventCode call.ulParam).isSome) ∧
      ((fire env world call).isSome ∨ call.Delays ∧ 2 ^ 32 ≤ world.center.mpDelayEventParams.length) := by
  refine ⟨fire_eq env world call, ?_, ?_⟩
  · intro player
    obtain ⟨next, returned, _⟩ := taskOnEvent_returns env (fire_tasksReturn env world.doingTasks) world player
      call.iEventCode call.ulParam (Nat.le_refl _)
    rw [returned]
    rfl
  · by_cases full : call.Delays ∧ 2 ^ 32 ≤ world.center.mpDelayEventParams.length
    · exact .inr full
    · refine .inl (fire_isSome env world call fun delays => ?_)
      exact Nat.lt_of_not_le fun many => full ⟨delays, many⟩

end Fixpoint

end Playground.Player
