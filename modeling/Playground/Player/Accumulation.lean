import Mathlib.Algebra.GroupWithZero.Nat
import Mathlib.Data.List.Induction
import Playground.Player.TaskLogic

/-! Tasks that accumulate. -/

namespace Playground.Player

structure TaskEvent where
  iEvent : Int
  ulParam : UInt64
deriving DecidableEq

def TaskEvent.dwParam (event : TaskEvent) : UInt32 := (event.ulParam >>> 32).toUInt32

def TaskEvent.dwValue (event : TaskEvent) : UInt32 := event.ulParam.toUInt32

/-- The event has the code of the task and a parameter that it accepts. -/
def TaskObj.Matches (obj : TaskObj) (event : TaskEvent) : Prop :=
  obj.event.toInt32.toInt = event.iEvent ∧ (obj.param = 0 ∨ obj.param = event.dwParam)

instance (obj : TaskObj) (event : TaskEvent) : Decidable (obj.Matches event) :=
  inferInstanceAs (Decidable (_ ∧ _))

def checkEvents (table : UInt32 → Option TaskObj) (task : RoleOneTask) (events : List TaskEvent) :
    Option RoleOneTask :=
  events.foldlM (fun task event => checkOneTask table task event.iEvent event.ulParam) task

def TaskObj.values (obj : TaskObj) (events : List TaskEvent) : List Nat :=
  (events.filter fun event => obj.Matches event).map fun event => event.dwValue.toNat

def DoneAfter (table : UInt32 → Option TaskObj) (task : RoleOneTask) (events : List TaskEvent) : Prop :=
  ∃ next, checkEvents table task events = some next ∧ next.state = taskStateDone

/-- The task is done if and only if some prefix of the values reaches the one asked for, and stays so. -/
structure Accumulates (table : UInt32 → Option TaskObj) (task : RoleOneTask) (obj : TaskObj)
    (events : List TaskEvent) : Prop where
  checked : (checkEvents table task events).isSome
  reached : ∀ {before event}, before ++ [event] <+: events → obj.Matches event →
    (DoneAfter table task (before ++ [event]) ↔
      ∃ values, values <+: obj.values (before ++ [event]) ∧ obj.value.toNat ≤ values.sum)
  stays : ∀ {before after}, before <+: after → after <+: events →
    DoneAfter table task before → DoneAfter table task after

/-- Short of the value that the task asks for, no matching event takes the sum past 32 bits. -/
def SumsFit (obj : TaskObj) (events : List TaskEvent) : Prop :=
  ∀ {before event}, before ++ [event] <+: events → obj.Matches event →
    (obj.values before).sum < obj.value.toNat →
    (obj.values before).sum + event.dwValue.toNat < 2 ^ 32

section Check

variable {table : UInt32 → Option TaskObj} {task next : RoleOneTask} {obj : TaskObj} {event : TaskEvent}

theorem checkEvents_concat (table : UInt32 → Option TaskObj) (task : RoleOneTask) (events : List TaskEvent)
    (event : TaskEvent) :
    checkEvents table task (events ++ [event]) =
      (checkEvents table task events).bind fun task => checkOneTask table task event.iEvent event.ulParam := by
  rw [checkEvents, List.foldlM_append]
  simp only [List.foldlM_cons, List.foldlM_nil, bind_pure]
  rfl

theorem TaskObj.values_foreign (events : List TaskEvent) (foreign : ¬ obj.Matches event) :
    obj.values (events ++ [event]) = obj.values events := by
  simp [values, List.filter_append, foreign]

theorem TaskObj.values_matching (events : List TaskEvent) (matching : obj.Matches event) :
    obj.values (events ++ [event]) = obj.values events ++ [event.dwValue.toNat] := by
  simp [values, List.filter_append, matching]

theorem checkOneTask_foreign (configured : table task.id = some obj) (foreign : ¬ obj.Matches event) :
    checkOneTask table task event.iEvent event.ulParam = some task := by
  rw [checkOneTask, configured, Option.map_some]
  congr 1
  split
  · rfl
  · next same =>
    rw [if_pos]
    have unlike := fun accepted => foreign ⟨not_not.mp same, accepted⟩
    exact ⟨fun any => unlike (.inl any), fun equal => unlike (.inr equal)⟩

theorem checkOneTask_matching (configured : table task.id = some obj) (adds : obj.method ≠ 0)
    (matching : obj.Matches event) :
    checkOneTask table task event.iEvent event.ulParam = some
      (if task.isDoing then
        { task with
          cur := some (task.cur.getD 0 + event.dwValue)
          state := if obj.value ≤ task.cur.getD 0 + event.dwValue then taskStateDone else task.state }
      else task) := by
  have accepted : ¬ (obj.param ≠ 0 ∧ obj.param ≠ (event.ulParam >>> 32).toUInt32) := by
    rintro ⟨named, other⟩
    exact matching.2.elim named other
  rw [checkOneTask, configured, Option.map_some]
  dsimp only
  rw [if_neg (not_not.mpr matching.1), if_neg accepted, RoleOneTask.count, if_neg adds]
  by_cases doing : task.isDoing
  · have still : ({ task with cur := some (task.cur.getD 0 + event.dwValue) } : RoleOneTask).isDoing := doing
    rw [if_pos doing, if_pos doing]
    by_cases reached : obj.value ≤ task.cur.getD 0 + event.dwValue
    · rw [if_pos ⟨still, reached⟩, if_pos reached]
      rfl
    · rw [if_neg (fun both => reached both.2), if_neg reached]
      rfl
  · rw [if_neg doing, if_neg doing, if_neg fun both => doing both.1]

end Check

section Sequence

variable {table : UInt32 → Option TaskObj} {task next : RoleOneTask} {obj : TaskObj}
  {events : List TaskEvent}

theorem checkEvents_id (checked : checkEvents table task events = some next) : next.id = task.id := by
  induction events using List.reverseRecOn generalizing next with
  | nil => exact congrArg RoleOneTask.id (Option.some.inj checked).symm
  | append_singleton events event ih =>
    rw [checkEvents_concat] at checked
    obtain ⟨middle, early, last⟩ := Option.bind_eq_some_iff.mp checked
    exact (checkOneTask_some last).1.trans (ih early)

theorem checkEvents_isSome (configured : table task.id = some obj) (events : List TaskEvent) :
    ∃ next, checkEvents table task events = some next := by
  induction events using List.reverseRecOn with
  | nil => exact ⟨task, rfl⟩
  | append_singleton events event ih =>
    obtain ⟨middle, early⟩ := ih
    rw [checkEvents_concat, early, Option.bind_some, checkOneTask, checkEvents_id early, configured]
    exact ⟨_, rfl⟩

theorem DoneAfter.concat (configured : table task.id = some obj) (done : DoneAfter table task events)
    (event : TaskEvent) : DoneAfter table task (events ++ [event]) := by
  obtain ⟨middle, early, done⟩ := done
  obtain ⟨next, checked⟩ := checkEvents_isSome configured (events ++ [event])
  refine ⟨next, checked, ?_⟩
  rw [checkEvents_concat, early, Option.bind_some] at checked
  rcases (checkOneTask_some checked).2 with same | completed
  · exact same.trans done
  · exact completed.2

theorem DoneAfter.stays (configured : table task.id = some obj)
    (done : DoneAfter table task events) (longer : events <+: after) : DoneAfter table task after := by
  obtain ⟨rest, rfl⟩ := longer
  induction rest using List.reverseRecOn with
  | nil => simpa using done
  | append_singleton rest event ih =>
    rw [← List.append_assoc]
    exact ih.concat configured event

/-- Where a task stands whose sums have fitted: done, or still doing with the exact sum. -/
inductive Progress (obj : TaskObj) (events : List TaskEvent) (next : RoleOneTask) : Prop
  | done (state : next.state = taskStateDone) (reached : obj.value.toNat ≤ (obj.values events).sum)
  | doing (state : next.isDoing) (exact : (next.cur.getD 0).toNat = (obj.values events).sum)
      (short : obj.values events = [] ∨ (obj.values events).sum < obj.value.toNat)

theorem Progress.done_iff (progress : Progress obj events next) (some : obj.values events ≠ []) :
    next.state = taskStateDone ↔ obj.value.toNat ≤ (obj.values events).sum := by
  cases progress with
  | done state reached => exact iff_of_true state reached
  | doing state _ short =>
    have below := short.resolve_left some
    refine iff_of_false ?_ (Nat.not_le.mpr below)
    intro done
    rw [RoleOneTask.isDoing, done] at state
    cases state

theorem Progress.step {event : TaskEvent} (configured : table next.id = some obj) (adds : obj.method ≠ 0)
    (progress : Progress obj events next)
    (fits : obj.Matches event → (obj.values events).sum < obj.value.toNat →
      (obj.values events).sum + event.dwValue.toNat < 2 ^ 32)
    (checked : checkOneTask table next event.iEvent event.ulParam = some after) :
    Progress obj (events ++ [event]) after := by
  by_cases matching : obj.Matches event
  · rw [checkOneTask_matching configured adds matching] at checked
    have sums : (obj.values (events ++ [event])).sum = (obj.values events).sum + event.dwValue.toNat := by
      simp [obj.values_matching events matching]
    cases progress with
    | done state reached =>
      have idle : ¬ next.isDoing := by
        rw [RoleOneTask.isDoing, state]
        exact Bool.false_ne_true
      rw [if_neg idle] at checked
      cases checked
      exact .done state (by omega)
    | doing state exact short =>
      rw [if_pos state] at checked
      cases checked
      have within : (obj.values events).sum + event.dwValue.toNat < 2 ^ 32 := by
        rcases short with none | short
        · rw [none, List.sum_nil, Nat.zero_add]
          exact event.dwValue.toNat_lt
        · exact fits matching short
      have added : (next.cur.getD 0 + event.dwValue).toNat = (obj.values (events ++ [event])).sum := by
        rw [UInt32.toNat_add, exact, sums, Nat.mod_eq_of_lt within]
      by_cases reached : obj.value ≤ next.cur.getD 0 + event.dwValue
      · refine .done (if_pos reached) ?_
        rw [← added]
        exact UInt32.le_iff_toNat_le.mp reached
      · refine .doing ?_ added (.inr ?_)
        · rw [if_neg reached]
          exact state
        · rw [← added]
          exact UInt32.lt_iff_toNat_lt.mp (UInt32.not_le.mp reached)
  · rw [checkOneTask_foreign configured matching] at checked
    cases checked
    have same := obj.values_foreign events matching
    cases progress with
    | done state reached => exact .done state (by rwa [same])
    | doing state exact short => exact .doing state (by rwa [same]) (by rwa [same])

theorem progress_of_fits (configured : table task.id = some obj) (adds : obj.method ≠ 0)
    (doing : task.isDoing) (unset : task.cur = none) (fits : SumsFit obj events)
    (checked : checkEvents table task events = some next) : Progress obj events next := by
  induction events using List.reverseRecOn generalizing next with
  | nil =>
    cases checked
    exact .doing doing (by rw [unset]; rfl) (.inl rfl)
  | append_singleton events event ih =>
    rw [checkEvents_concat] at checked
    obtain ⟨middle, early, last⟩ := Option.bind_eq_some_iff.mp checked
    have present : table middle.id = some obj := (checkEvents_id early).symm ▸ configured
    have before := ih (fun inside => fits (inside.trans (List.prefix_append _ _))) early
    exact before.step present adds (fits List.prefix_rfl) last

theorem exists_prefix_iff {values : List Nat} :
    (∃ early, early <+: values ∧ value ≤ early.sum) ↔ value ≤ values.sum := by
  constructor
  · rintro ⟨early, ⟨late, rfl⟩, reached⟩
    rw [List.sum_append]
    omega
  · intro reached
    exact ⟨values, List.prefix_rfl, reached⟩

theorem TaskObj.values_ne_nil {event : TaskEvent} (events : List TaskEvent) (matching : obj.Matches event) :
    obj.values (events ++ [event]) ≠ [] := by
  rw [values_matching events matching]
  simp

theorem accumulates_of_fits (configured : table task.id = some obj) (adds : obj.method ≠ 0)
    (doing : task.isDoing) (unset : task.cur = none) (fits : SumsFit obj events) :
    Accumulates table task obj events where
  checked := Option.isSome_iff_exists.mpr (checkEvents_isSome configured events)
  reached := by
    intro before event inside matching
    obtain ⟨next, checked⟩ := checkEvents_isSome configured (before ++ [event])
    have progress :=
      progress_of_fits configured adds doing unset (fun early => fits (early.trans inside)) checked
    rw [exists_prefix_iff, ← progress.done_iff (obj.values_ne_nil before matching)]
    constructor
    · rintro ⟨other, same, done⟩
      cases checked.symm.trans same
      exact done
    · exact fun done => ⟨next, checked, done⟩
  stays longer _ done := done.stays configured longer

private theorem not_done_of_overflow {event : TaskEvent} (configured : table next.id = some obj)
    (adds : obj.method ≠ 0) (matching : obj.Matches event) (progress : Progress obj events next)
    (short : (obj.values events).sum < obj.value.toNat)
    (past : 2 ^ 32 ≤ (obj.values events).sum + event.dwValue.toNat)
    (checked : checkOneTask table next event.iEvent event.ulParam = some after) : after.isDoing := by
  cases progress with
  | done _ reached => omega
  | doing state exact _ =>
    rw [checkOneTask_matching configured adds matching, if_pos state] at checked
    cases checked
    have wrapped : ¬ obj.value ≤ next.cur.getD 0 + event.dwValue := by
      rw [UInt32.le_iff_toNat_le, UInt32.toNat_add, exact]
      have small := event.dwValue.toNat_lt
      have limit := obj.value.toNat_lt
      omega
    rw [RoleOneTask.isDoing, if_neg wrapped]
    exact state

theorem Accumulates.shorter (accumulates : Accumulates table task obj (events ++ [event])) :
    Accumulates table task obj events where
  checked := by
    obtain ⟨next, checked⟩ := Option.isSome_iff_exists.mp accumulates.checked
    rw [checkEvents_concat] at checked
    obtain ⟨middle, early, _⟩ := Option.bind_eq_some_iff.mp checked
    exact Option.isSome_iff_exists.mpr ⟨middle, early⟩
  reached inside := accumulates.reached (inside.trans (List.prefix_append _ _))
  stays longer inside := accumulates.stays longer (inside.trans (List.prefix_append _ _))

/-- The task is done as soon as the total of the matching events reaches the asked value
if and only if no sum that counts passes 32 bits on the way there. -/
theorem accumulates_iff (configured : table task.id = some obj) (adds : obj.method ≠ 0)
    (doing : task.state = taskStateDoing) (unset : task.cur = none) (events : List TaskEvent) :
    Accumulates table task obj events ↔ SumsFit obj events := by
  have idle : task.isDoing := beq_iff_eq.mpr doing
  refine ⟨?_, accumulates_of_fits configured adds idle unset⟩
  intro accumulates
  induction events using List.reverseRecOn with
  | nil => exact fun inside => absurd (List.prefix_nil.mp inside) (by simp)
  | append_singleton events event ih =>
    have fits : SumsFit obj events := ih accumulates.shorter
    intro before last inside matching short
    rcases List.prefix_concat_iff.mp inside with whole | early
    · obtain ⟨rfl, same⟩ := List.append_inj' whole rfl
      obtain rfl := List.singleton_inj.mp same
      by_contra past
      obtain ⟨middle, early⟩ := checkEvents_isSome configured before
      have progress := progress_of_fits configured adds idle unset fits early
      have total : obj.value.toNat ≤ (obj.values (before ++ [last])).sum := by
        have limit := obj.value.toNat_lt
        rw [obj.values_matching before matching, List.sum_append, List.sum_singleton]
        omega
      obtain ⟨next, checked, done⟩ := (accumulates.reached inside matching).mpr (exists_prefix_iff.mpr total)
      rw [checkEvents_concat, early, Option.bind_some] at checked
      have present : table middle.id = some obj := (checkEvents_id early).symm ▸ configured
      have still := not_done_of_overflow present adds matching progress short (by omega) checked
      rw [RoleOneTask.isDoing, done] at still
      cases still
    · exact fits early matching short

end Sequence

def syncTask (value : UInt32) : TaskObj :=
  { event := 2002, value, method := 1 }

def syncTable (value : UInt32) (id : UInt32) : Option TaskObj :=
  if id = 1 then some (syncTask value) else none

def syncEvent (role : UInt64) : TaskEvent := { iEvent := eventPlayerSyncDB, ulParam := role }

theorem accumulates_iff_sync :
    Accumulates (syncTable 10) { id := 1 } (syncTask 10) [syncEvent (eventParam 1 7), syncEvent (eventParam 1 7)] := by
  refine (accumulates_iff rfl (by decide) rfl rfl _).mpr ?_
  intro before event inside matching short
  have small : (syncTask 10).value.toNat = 10 := rfl
  have low : event.dwValue.toNat = 7 := by
    have member := inside.subset (List.mem_append_right before (List.mem_singleton_self event))
    have only : event = syncEvent (eventParam 1 7) := by simpa using member
    rw [only]
    rfl
  omega

/-- Account 2200000000 of area 1 is synchronised twice. -/
def wrappingEvents : List TaskEvent :=
  [syncEvent (eventParam 1 2200000000), syncEvent (eventParam 1 2200000000)]

/-- The sum wraps below the 3000000000 that the task asks for. -/
theorem sync_sum_wraps :
    checkEvents (syncTable 3000000000) { id := 1 } wrappingEvents =
        some { id := 1, cur := some 105032704, state := taskStateDoing } ∧
      (syncTask 3000000000).value.toNat ≤ ((syncTask 3000000000).values wrappingEvents).sum ∧
      ¬ Accumulates (syncTable 3000000000) { id := 1 } (syncTask 3000000000) wrappingEvents := by
  have state : checkEvents (syncTable 3000000000) { id := 1 } wrappingEvents =
      some { id := 1, cur := some 105032704, state := taskStateDoing } := by decide
  have total : (syncTask 3000000000).value.toNat ≤ ((syncTask 3000000000).values wrappingEvents).sum := by
    decide
  refine ⟨state, total, ?_⟩
  intro accumulates
  have done := (@Accumulates.reached _ _ _ _ accumulates [syncEvent (eventParam 1 2200000000)]
    (syncEvent (eventParam 1 2200000000)) List.prefix_rfl (by decide)).mpr (exists_prefix_iff.mpr total)
  obtain ⟨next, checked, finished⟩ := done
  cases state.symm.trans checked
  exact absurd finished (by decide)

end Playground.Player
