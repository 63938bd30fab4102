import Playground.Component.Tick
import Playground.Gate.Arming

/-! The idle check under the ticks of the application. -/

namespace Playground.Gate

open Framing Component Transition

namespace GateServerHandler

/-- `Expired` takes the entry at the iterator, and the event of its timer. -/
def takeTimer (gate : GateServerHandler) (it : Nat) (id : UInt32) : GateServerHandler :=
  { gate with timerMgr := TimerWorld.take { mgr := gate.timerMgr, log := [] } it id }

/-- One round of the loop of `Expired`. The iterator moves when the callback adds a timer in front of it. -/
def expiredRound (env : Env) (gate : GateServerHandler) (it : Nat) (id : UInt32) :
    GateServerHandler × Nat :=
  let taken := gate.takeTimer it id
  match gate.timerMgr.timerEvents.find? (·.dwTimerID == id) with
  | none => (taken, it)
  | some event =>
    match event.cb with
    | none => (taken, it)
    | some .checkConnxFree =>
      let checked := taken.checkConnxFree env event.iEvent.toNat
      let expiry := taken.timerMgr.curMsTime + (taken.iConnxMaxIdleTime * 1000).toInt32.toInt64.toUInt64
      (checked, if checked.timerMgr.timers = taken.timerMgr.timers then it
        else moveIterator (insertPosition expiry taken.timerMgr.timers) it)

/-- The loop of `Expired` for the timers of the gate; `none` without fuel. -/
def expiredLoop (env : Env) : Nat → GateServerHandler → Nat → Option GateServerHandler
  | 0, _, _ => none
  | fuel + 1, gate, it =>
    match gate.timerMgr.timers[it]? with
    | none => some gate
    | some entry =>
      if entry.1 ≤ gate.timerMgr.curMsTime then
        expiredLoop env fuel (gate.expiredRound env it entry.2).1 (gate.expiredRound env it entry.2).2
      else some gate

/-- More rounds than there are timers, with those that the loop arms. -/
def rounds (gate : GateServerHandler) : Nat := gate.timerMgr.timers.length + gate.size + 1

def expired (env : Env) (gate : GateServerHandler) : Option GateServerHandler :=
  expiredLoop env gate.rounds gate 0

end GateServerHandler

/-- The gate with the clocks of the application. -/
structure TickedGate where
  gate : GateServerHandler
  curTime : Timeval
  lastTime : Timeval

namespace TickedGate

/-- The gate behind the start of the timers; `appTime` is the clock of the application. -/
def init (env : Env) (iMaxConnections : Nat) (junk : Nat → UInt32) (curTime lastTime : Timeval)
    (appTime : Int) : TickedGate where
  gate := { GateServerHandler.init env iMaxConnections curTime.msTime.ms junk with curTime := appTime }
  curTime
  lastTime

def elapse (timeEnv : TimeEnv) (world : TickedGate) (tvNow : Timeval) : Timeval × Bool :=
  let lElapseTime := Int32.ofInt (timeEnv.uspast tvNow world.lastTime)
  (timeEnv.usappend world.curTime lElapseTime, 10000 < lElapseTime)

def updateMsTime (world : TickedGate) (curTime : Timeval) : GateServerHandler :=
  { world.gate with timerMgr := { world.gate.timerMgr with curMsTime := curTime.msTime.ms } }

/-- `TimerMgr::UpdateTick` with `App::UpdateTick` behind it. -/
def updateTick (timeEnv : TimeEnv) (env : Env) (world : TickedGate) (tvNow : Timeval) (timeStampNow : Int) :
    Option TickedGate :=
  let curTime := (world.elapse timeEnv tvNow).1
  let gate := world.updateMsTime curTime
  let handled := if (world.elapse timeEnv tvNow).2 then gate.expired env else some gate
  handled.map fun gate =>
    { gate := { gate with curTime := curTime.tv_sec, timeStampNow }, curTime, lastTime := tvNow }

end TickedGate

/-- A call of the gate, or a tick of the application. -/
inductive TickEvent where
  | call (ev : Event)
  | tick (tvNow : Timeval) (timeStampNow : Int)

def Event.Between : Event → Bool
  | .checkConnxFree _ | .clock _ _ _ => false
  | _ => true

def tickedStep (timeEnv : TimeEnv) (env : Env) (world : TickedGate) : TickEvent → Option TickedGate
  | .call ev => if ev.Between then (step env world.gate ev).map fun gate => { world with gate } else none
  | .tick tvNow timeStampNow => world.updateTick timeEnv env tvNow timeStampNow

def TickedStep (timeEnv : TimeEnv) (env : Env) (world : TickedGate) (ev : TickEvent) (next : TickedGate) :
    Prop :=
  tickedStep timeEnv env world ev = some next

def Schedule.recheck (schedule : Schedule) (i : Nat) : Schedule :=
  { schedule.arm i with
    slots := Function.update (schedule.arm i).slots i
      { (schedule.arm i).slots i with tLastCheckTime := schedule.curTime } }

theorem Armed.recheck {schedule : Schedule} (armed : Armed lost schedule)
    (isLost : lost i) : Armed (fun j => lost j ∧ j ≠ i) (schedule.recheck i) := by
  refine (armed.arm isLost).frame rfl rfl ?_ rfl rfl
  intro j
  by_cases same : j = i
  · subst same
    simp [Schedule.recheck]
  · simp [Schedule.recheck, same]

namespace GateServerHandler

/-- Each live slot has exactly one pending timer, its idle check. -/
def KeepsCheck (gate : GateServerHandler) : Prop :=
  ∀ i : Nat, (gate.vecConnections i).bState ≠ .invalid → ∃ event,
    gate.timerMgr.timerEvents.filter (fun event => event.iEvent = (i : Int)) = [event] ∧
    event.dwTimerID = (gate.vecConnections i).dwTimerID ∧ event.cb = some GateTimer.checkConnxFree ∧
    (event.ulExpiredTime, event.dwTimerID) ∈ gate.timerMgr.timers

/-- By the clock of the application the connection is idle, or its last check is a period ago. -/
def InTime (env : Env) (gate : GateServerHandler) (i : Nat) : Prop :=
  (gate.vecConnections i).tLastActTime + env.iIdleCheckPeriod.toInt < gate.curTime ∨
    (gate.vecConnections i).tLastCheckTime + env.iIdleCheckPeriod.toInt ≤ gate.curTime

/-- Every check of the loop finds its connection idle or a period old. -/
def ChecksInTime (env : Env) : Nat → GateServerHandler → Nat → Prop
  | 0, _, _ => True
  | fuel + 1, gate, it =>
    ∀ entry ∈ gate.timerMgr.timers[it]?, entry.1 ≤ gate.timerMgr.curMsTime →
      (∀ event ∈ gate.timerMgr.timerEvents, event.dwTimerID = entry.2 → gate.InTime env event.iEvent.toNat) ∧
        ChecksInTime env fuel (gate.expiredRound env it entry.2).1 (gate.expiredRound env it entry.2).2

instance (env : Env) (gate : GateServerHandler) (i : Nat) : Decidable (gate.InTime env i) :=
  inferInstanceAs (Decidable (_ ∨ _))

instance decidableChecksInTime (env : Env) :
    (fuel : Nat) → (gate : GateServerHandler) → (it : Nat) → Decidable (ChecksInTime env fuel gate it)
  | 0, _, _ => inferInstanceAs (Decidable True)
  | fuel + 1, gate, it =>
    have := fun entry : UInt64 × UInt32 => decidableChecksInTime env fuel
      (gate.expiredRound env it entry.2).1 (gate.expiredRound env it entry.2).2
    Option.decidableForallMem gate.timerMgr.timers[it]?

variable {lost : Nat → Prop} {gate : GateServerHandler} {i : Nat}

theorem keepsCheck_iff (armed : Armed lost gate.schedule) : gate.KeepsCheck ↔ ∀ i, ¬ lost i := by
  rw [armed.none_lost_iff]
  refine forall_congr' fun i => ?_
  exact imp_congr_left (schedule_live_iff gate i).symm

private theorem getConnectionByIdx_of_armed (armed : Armed lost gate.schedule)
    (live : (gate.schedule.slots i).live) :
    gate.getConnectionByIdx i ≠ none := by
  obtain ⟨positive, bounded⟩ := armed.ranged i live
  rw [getConnectionByIdx_eq, Table.byIdx_of_live positive bounded ((schedule_live_iff gate i).mp live)]
  simp

private theorem expiredRound_missing (env : Env) {id : UInt32}
    (missing : ∀ event ∈ gate.timerMgr.timerEvents, event.dwTimerID ≠ id) :
    (gate.expiredRound env it id).1 = gate.takeTimer it id := by
  have search : gate.timerMgr.timerEvents.find? (·.dwTimerID == id) = none := by simpa using missing
  simp only [expiredRound, search]

private theorem expiredRound_event (env : Env) {id : UInt32} {event : TimerEvent GateTimer}
    (search : gate.timerMgr.timerEvents.find? (·.dwTimerID == id) = some event)
    (cb : event.cb = some GateTimer.checkConnxFree) (about : event.iEvent = (i : Nat)) :
    (gate.expiredRound env it id).1 = (gate.takeTimer it id).checkConnxFree env i := by
  simp only [expiredRound, search, cb, about, Int.toNat_natCast]

/-- What a check makes of the schedule. -/
inductive Checked (env : Env) (gate : GateServerHandler) (i : Nat) : Schedule → Prop where
  | idle (inTime : gate.InTime env i) : Checked env gate i (gate.schedule.remove i)
  | again (inTime : (gate.vecConnections i).tLastCheckTime + env.iIdleCheckPeriod.toInt ≤ gate.curTime) :
      Checked env gate i (gate.schedule.recheck i)
  | lapsed (late : ¬ gate.InTime env i) : Checked env gate i gate.schedule

theorem checkConnxFree_checked (env : Env) (found : gate.getConnectionByIdx i ≠ none) :
    Checked env gate i (gate.checkConnxFree env i).schedule := by
  rw [schedule_checkConnxFree, if_neg found]
  split
  · next idle => exact .idle (.inl idle)
  · next active =>
    split
    · next due => exact .again due
    · next early => exact .lapsed (not_or.mpr ⟨active, early⟩)

/-- One round: the timer of the slot that is checked gets lost unless the check comes in time. -/
theorem expiredRound_armed (env : Env) (armed : Armed lost gate.schedule)
    {entry : UInt64 × UInt32} (found : gate.timerMgr.timers[it]? = some entry) :
    ∃ later, Armed later (gate.expiredRound env it entry.2).1.schedule ∧
      ((∀ j, ¬ later j) ↔ (∀ j, ¬ lost j) ∧
        ∀ event ∈ gate.timerMgr.timerEvents, event.dwTimerID = entry.2 →
          gate.InTime env event.iEvent.toNat) := by
  cases search : gate.timerMgr.timerEvents.find? (·.dwTimerID == entry.2) with
  | none =>
    have missing : ∀ event ∈ gate.timerMgr.timerEvents, event.dwTimerID ≠ entry.2 := by simpa using search
    rw [expiredRound_missing env missing]
    refine ⟨lost, armed.take_missing found missing, ?_⟩
    exact ⟨fun none => ⟨none, fun event member named => absurd named (missing event member)⟩, And.left⟩
  | some event =>
    have member := List.mem_of_find?_eq_some search
    have named : event.dwTimerID = entry.2 := by simpa using List.find?_some search
    obtain ⟨cb, i, about, notLost, live, id⟩ := armed.owned event member
    have taken := armed.take_event found member named about
    have others : ∀ j, ((lost j ∨ j = i) ∧ j ≠ i) ↔ lost j := by
      intro j
      refine ⟨fun both => both.1.resolve_right both.2, fun isLost => ⟨.inl isLost, ?_⟩⟩
      rintro rfl
      exact notLost isLost
    have checked : (∀ other ∈ gate.timerMgr.timerEvents, other.dwTimerID = entry.2 →
        gate.InTime env other.iEvent.toNat) ↔ gate.InTime env i := by
      have index : event.iEvent.toNat = i := by rw [about, Int.toNat_natCast]
      constructor
      · intro all
        exact index ▸ all event member named
      · intro inTime other member' named'
        rw [armed.event_eq member' member (named'.trans named.symm), index]
        exact inTime
    rw [checked, expiredRound_event env search cb about]
    have present : (gate.takeTimer it entry.2).getConnectionByIdx i ≠ none :=
      getConnectionByIdx_of_armed taken live
    have outcome := checkConnxFree_checked env present
    generalize ((gate.takeTimer it entry.2).checkConnxFree env i).schedule = after at outcome ⊢
    cases outcome with
    | idle inTime =>
      refine ⟨lost, (taken.remove ?_).congr others, ⟨fun none => ⟨none, inTime⟩, And.left⟩⟩
      intro other member' named'
      refine absurd ?_ (bne_iff_ne.mp (List.mem_filter.mp member').2)
      exact named'.trans (id.trans named)
    | again due =>
      exact ⟨lost, (taken.recheck (.inr rfl)).congr others, ⟨fun none => ⟨none, .inr due⟩, And.left⟩⟩
    | lapsed late =>
      refine ⟨_, taken, ⟨fun none => absurd (.inr rfl) (none i), fun both => absurd both.2 late⟩⟩

theorem expiredLoop_armed (env : Env) (fuel : Nat) (armed : Armed lost gate.schedule)
    {next : GateServerHandler} (returned : expiredLoop env fuel gate it = some next) :
    ∃ later, Armed later next.schedule ∧
      ((∀ j, ¬ later j) ↔ (∀ j, ¬ lost j) ∧ ChecksInTime env fuel gate it) := by
  induction fuel generalizing gate it lost with
  | zero => cases returned
  | succ fuel ih =>
    rw [expiredLoop] at returned
    cases found : gate.timerMgr.timers[it]? with
    | none =>
      simp only [found] at returned
      cases returned
      exact ⟨lost, armed, by simp [ChecksInTime, found]⟩
    | some entry =>
      simp only [found] at returned
      split at returned
      · next due =>
        obtain ⟨middle, after, first⟩ := expiredRound_armed env armed found
        obtain ⟨later, final, rest⟩ := ih after returned
        refine ⟨later, final, ?_⟩
        rw [rest, first, ChecksInTime, and_assoc]
        refine and_congr_right fun _ => ⟨?_, fun checks => checks entry found due⟩
        intro checks other same _
        cases found.symm.trans same
        exact checks
      · next early =>
        cases returned
        refine ⟨lost, armed, (and_iff_left ?_).symm⟩
        intro other same due
        cases found.symm.trans same
        exact absurd due early

end GateServerHandler

/-- The rounds that `Expired` has left: one for each entry, and one for each slot that its callback
may arm again. -/
def Schedule.work (schedule : Schedule) (period : Int) : Nat :=
  schedule.timerMgr.timers.length + ((Finset.range schedule.size).filter fun i =>
    (schedule.slots i).live ∧ (schedule.slots i).tLastCheckTime + period ≤ schedule.curTime).card

namespace Schedule

variable {schedule : Schedule} {period : Int} {i : Nat}

theorem work_take (found : schedule.timerMgr.timers[it]? = some entry)
    (id : UInt32) : (schedule.take it id).work period < schedule.work period := by
  have within : it < schedule.timerMgr.timers.length := (List.getElem?_eq_some_iff.mp found).1
  have shorter : (schedule.timerMgr.timers.eraseIdx it).length < schedule.timerMgr.timers.length := by
    rw [List.length_eraseIdx_of_lt within]
    omega
  exact Nat.add_lt_add_right shorter _

theorem work_remove (schedule : Schedule) (period : Int) (i : Nat) :
    (schedule.remove i).work period ≤ schedule.work period := by
  refine Nat.add_le_add_left (Finset.card_le_card ?_) _
  intro j member
  simp only [Finset.mem_filter, Finset.mem_range] at member ⊢
  by_cases same : j = i
  · subst same
    simp [remove] at member
  · simpa [remove, same] using member

private theorem work_recheck (positive : 0 < period) (live : (schedule.slots i).live) (bounded : i < schedule.size)
    (due : (schedule.slots i).tLastCheckTime + period ≤ schedule.curTime) :
    (schedule.recheck i).work period ≤ schedule.work period := by
  have longer : (schedule.recheck i).timerMgr.timers.length = schedule.timerMgr.timers.length + 1 :=
    (insertTimer_perm _ _).length_eq
  have fewer : ((Finset.range (schedule.recheck i).size).filter fun j =>
      ((schedule.recheck i).slots j).live ∧
        ((schedule.recheck i).slots j).tLastCheckTime + period ≤ (schedule.recheck i).curTime).card <
      ((Finset.range schedule.size).filter fun j =>
        (schedule.slots j).live ∧ (schedule.slots j).tLastCheckTime + period ≤ schedule.curTime).card := by
    refine Finset.card_lt_card (Finset.ssubset_iff_of_subset ?_ |>.mpr ⟨i, ?_, ?_⟩)
    · intro j member
      simp only [Finset.mem_filter, Finset.mem_range] at member ⊢
      by_cases same : j = i
      · subst same
        exact ⟨bounded, live, due⟩
      · simpa [recheck, arm, same] using member
    · simp [bounded, live, due]
    · simp [recheck, arm, positive]
  unfold work
  omega

end Schedule

namespace GateServerHandler

variable {gate : GateServerHandler} {env : Env} (positive : 0 < env.iIdleCheckPeriod.toInt)

include positive

private theorem work_checkConnxFree (gate : GateServerHandler) (idx : Nat) :
    (gate.checkConnxFree env idx).schedule.work env.iIdleCheckPeriod.toInt ≤
      gate.schedule.work env.iIdleCheckPeriod.toInt := by
  by_cases missing : gate.getConnectionByIdx idx = none
  · rw [schedule_checkConnxFree, if_pos missing]
  · obtain ⟨i, found⟩ := Option.ne_none_iff_exists'.mp missing
    have resolved := getConnectionByIdx_eq gate idx ▸ found
    obtain ⟨rfl, _, bounded, live⟩ := Table.byIdx_some resolved
    have outcome := checkConnxFree_checked env missing
    generalize (gate.checkConnxFree env i).schedule = after at outcome ⊢
    cases outcome with
    | idle _ => exact Schedule.work_remove _ _ _
    | again due => exact Schedule.work_recheck positive ((schedule_live_iff gate i).mpr live) bounded due
    | lapsed _ => exact Nat.le_refl _

private theorem work_expiredRound {entry : UInt64 × UInt32} (found : gate.timerMgr.timers[it]? = some entry) :
    (gate.expiredRound env it entry.2).1.schedule.work env.iIdleCheckPeriod.toInt <
      gate.schedule.work env.iIdleCheckPeriod.toInt := by
  have taken : (gate.takeTimer it entry.2).schedule.work env.iIdleCheckPeriod.toInt <
      gate.schedule.work env.iIdleCheckPeriod.toInt :=
    @Schedule.work_take gate.schedule _ it entry found entry.2
  unfold expiredRound
  dsimp only
  split
  · exact taken
  · split
    · exact taken
    · exact Nat.lt_of_le_of_lt (work_checkConnxFree positive _ _) taken

private theorem expiredLoop_returns (fuel : Nat) (it : Nat)
    (enough : gate.schedule.work env.iIdleCheckPeriod.toInt < fuel) :
    (expiredLoop env fuel gate it).isSome := by
  induction fuel generalizing gate it with
  | zero => exact absurd enough (Nat.not_lt_zero _)
  | succ fuel ih =>
    rw [expiredLoop]
    split
    · rfl
    · next entry found =>
      split
      · have less := work_expiredRound positive found
        exact ih _ (by omega)
      · rfl

theorem expired_returns (gate : GateServerHandler) : (gate.expired env).isSome := by
  refine expiredLoop_returns positive _ _ (Nat.lt_succ_iff.mpr (Nat.add_le_add_left ?_ _))
  refine (Finset.card_filter_le _ _).trans ?_
  rw [Finset.card_range]
  exact Nat.le_refl _

end GateServerHandler

theorem step_allArmed {gate next : GateServerHandler} {ev : Event} (between : ev.Between)
    (idle : gate.Idle) (stepped : step env gate ev = some next) (armed : gate.schedule.AllArmed) :
    next.schedule.AllArmed := by
  cases ev with
  | newConnection client =>
    obtain ⟨result, returned, rfl⟩ := Option.map_eq_some_iff.mp stepped
    obtain ⟨i, found, outcome⟩ := GateServerHandler.schedule_onNewConnection env gate client returned
    obtain ⟨positive, bounded, free⟩ := GateServerHandler.getNextIdx_some _ found
    have counted : (gate.countAlive 1).schedule.AllArmed :=
      armed.frame rfl rfl (fun _ => ⟨rfl, rfl⟩) rfl rfl
    have dead : ¬ ((gate.countAlive 1).schedule.slots i).live :=
      mt (GateServerHandler.schedule_live_iff _ i).mp free
    rcases outcome with same | same | same
    · rw [same]
      exact counted
    · rw [same]
      exact (Armed.reset counted dead positive bounded false).congr (by simp)
    · have period : gate.iConnxMaxIdleTime > 0 := armed.period
      rw [same, if_pos period]
      have taken := Armed.reset counted dead positive bounded true
      exact (taken.arm (.inr ⟨rfl, rfl⟩)).congr (by simp)
  | clientDataRecv fd chunk =>
    cases stepped
    exact (GateServerHandler.schedule_onClientDataRecv env gate fd chunk idle).allArmed armed
  | connectionClosed fd =>
    cases stepped
    refine (GateServerHandler.schedule_onConnectionClosed env gate fd).allArmed ?_
    exact armed.frame rfl rfl (fun _ => ⟨rfl, rfl⟩) rfl rfl
  | agentMessage ggc csmsg =>
    cases stepped
    exact (GateServerHandler.schedule_dispatchMessage env gate ggc csmsg).allArmed armed
  | closing reason notifinum =>
    cases stepped
    exact (GateServerHandler.schedule_onClosing env gate reason notifinum).allArmed armed
  | checkConnxFree idx => cases between
  | clock curTime timeStampNow curMsTime => cases between

private theorem idle_checkConnxFree (env : Env) (gate : GateServerHandler) (idx : Nat) (idle : gate.Idle) :
    (gate.checkConnxFree env idx).Idle := by
  have called : step env gate (.checkConnxFree idx) = some (gate.checkConnxFree env idx) := rfl
  obtain ⟨acts, acted⟩ := step_acts idle called
  exact acted.idle

private theorem idle_expiredRound (env : Env) (gate : GateServerHandler) (it : Nat) (id : UInt32)
    (idle : gate.Idle) :
    (gate.expiredRound env it id).1.Idle := by
  unfold GateServerHandler.expiredRound
  dsimp only
  split
  · exact idle
  · split
    · exact idle
    · exact idle_checkConnxFree env (gate.takeTimer it id) _ idle

theorem idle_expiredLoop {gate next : GateServerHandler}
    (returned : gate.expiredLoop env fuel it = some next) (idle : gate.Idle) : next.Idle := by
  induction fuel generalizing gate it with
  | zero => cases returned
  | succ fuel ih =>
    rw [GateServerHandler.expiredLoop] at returned
    split at returned
    · cases returned
      exact idle
    · split at returned
      · exact ih returned (idle_expiredRound env gate it _ idle)
      · cases returned
        exact idle

namespace TickedGate

variable {timeEnv : TimeEnv} {env : Env} {world next : TickedGate}

/-- A call between ticks, or a tick all of whose checks come in time. -/
def InTime (timeEnv : TimeEnv) (env : Env) (world : TickedGate) : TickEvent → Prop
  | .call _ => True
  | .tick tvNow _ =>
    let gate := world.updateMsTime (world.elapse timeEnv tvNow).1
    (world.elapse timeEnv tvNow).2 → gate.ChecksInTime env gate.rounds 0

private theorem updateTick_armed (armed : world.gate.schedule.AllArmed)
    (ticked : world.updateTick timeEnv env tvNow timeStampNow = some next) :
    ∃ lost, Armed lost next.gate.schedule ∧
      ((∀ i, ¬ lost i) ↔ world.InTime timeEnv env (.tick tvNow timeStampNow)) := by
  obtain ⟨gate, handled, rfl⟩ := Option.map_eq_some_iff.mp ticked
  have clocked : Armed (fun _ => False) (world.updateMsTime (world.elapse timeEnv tvNow).1).schedule :=
    armed.frame rfl rfl (fun _ => ⟨rfl, rfl⟩) rfl rfl
  split at handled
  · next long =>
    obtain ⟨lost, after, kept⟩ := GateServerHandler.expiredLoop_armed env _ clocked handled
    refine ⟨lost, after.frame rfl rfl (fun _ => ⟨rfl, rfl⟩) rfl rfl, ?_⟩
    rw [kept]
    exact ⟨fun both _ => both.2, fun inTime => ⟨fun _ => id, inTime long⟩⟩
  · next short =>
    cases handled
    refine ⟨_, clocked.frame rfl rfl (fun _ => ⟨rfl, rfl⟩) rfl rfl, ?_⟩
    exact ⟨fun _ long => absurd long short, fun _ _ => id⟩

/-- Between the calls of a run no timer is lost and every decoder is idle. -/
structure Kept (world : TickedGate) : Prop where
  armed : world.gate.schedule.AllArmed
  idle : world.gate.Idle

private theorem kept_init (positive : 0 < env.iIdleCheckPeriod) (few : iMaxConnections < 2 ^ 31)
    (junk : Nat → UInt32) (curTime lastTime : Timeval) (appTime : Int) :
    Kept (init env iMaxConnections junk curTime lastTime appTime) where
  armed := by
    refine ⟨nofun, fun i live => ?_, nofun, List.nodup_nil, ⟨.nil, nofun⟩, fun i live => ?_, ?_, ?_⟩
    · simp [init, GateServerHandler.init, GateServerHandler.schedule, Connection.timing] at live
    · simp [init, GateServerHandler.init, GateServerHandler.schedule, Connection.timing] at live
    · exact Nat.lt_trans few (by decide)
    · change 0 < env.iIdleCheckPeriod.toUInt32
      rw [UInt32.pos_iff_ne_zero]
      intro zero
      have same : env.iIdleCheckPeriod = 0 := congrArg UInt32.toInt32 zero
      rw [same] at positive
      exact absurd positive (by decide)
  idle := fun _ => rfl

private theorem step_keeps_iff (kept : Kept world) (stepped : TickedStep timeEnv env world ev next) :
    (next.gate.KeepsCheck ↔ world.InTime timeEnv env ev) ∧ (next.gate.KeepsCheck → Kept next) := by
  cases ev with
  | call ev =>
    obtain ⟨between, mapped⟩ := Option.ite_none_right_eq_some.mp stepped
    obtain ⟨gate, called, rfl⟩ := Option.map_eq_some_iff.mp mapped
    have armed := step_allArmed between kept.idle called kept.armed
    obtain ⟨acts, acted⟩ := step_acts kept.idle called
    refine ⟨iff_of_true ((GateServerHandler.keepsCheck_iff armed).mpr fun _ => id) trivial, fun _ => ?_⟩
    exact ⟨armed, acted.idle⟩
  | tick tvNow timeStampNow =>
    obtain ⟨lost, armed, inTime⟩ := updateTick_armed kept.armed stepped
    rw [GateServerHandler.keepsCheck_iff armed]
    refine ⟨inTime, fun none => ⟨armed.congr fun i => iff_of_false (none i) id, ?_⟩⟩
    obtain ⟨gate, handled, rfl⟩ := Option.map_eq_some_iff.mp stepped
    have clocked : (world.updateMsTime (world.elapse timeEnv tvNow).1).Idle := kept.idle
    have still : gate.Idle := by
      split at handled
      · exact idle_expiredLoop handled clocked
      · cases handled
        exact clocked
    exact still

/-- In every state of a run each live slot has its idle check pending, if and only if no tick of the
run checks a connection that is not idle within a period of its last check, by the clock of the
application. Every tick returns. -/
theorem idle_check_pending_iff (timeEnv : TimeEnv) (env : Env) (iMaxConnections : Nat) (junk : Nat → UInt32)
    (curTime lastTime : Timeval) (appTime : Int) (positive : 0 < env.iIdleCheckPeriod)
    (few : iMaxConnections < 2 ^ 31) :
    (∀ events final,
      Steps (fun world ev next => TickedStep timeEnv env world ev next ∧ next.gate.KeepsCheck)
          (init env iMaxConnections junk curTime lastTime appTime) events final ↔
        Steps (fun world ev next => TickedStep timeEnv env world ev next ∧ world.InTime timeEnv env ev)
          (init env iMaxConnections junk curTime lastTime appTime) events final) ∧
    ∀ (world : TickedGate) (tvNow : Timeval) (timeStampNow : Int),
      ∃ next, TickedStep timeEnv env world (.tick tvNow timeStampNow) next := by
  have same {world next : TickedGate} {ev : TickEvent} (kept : Kept world) :
      (TickedStep timeEnv env world ev next ∧ next.gate.KeepsCheck) ↔
        (TickedStep timeEnv env world ev next ∧ world.InTime timeEnv env ev) :=
    and_congr_right fun stepped => (step_keeps_iff kept stepped).1
  have keeps {world next : TickedGate} {ev : TickEvent}
      (stepped : TickedStep timeEnv env world ev next ∧ next.gate.KeepsCheck) (kept : Kept world) :
      Kept next :=
    (step_keeps_iff kept stepped.1).2 stepped.2
  constructor
  · intro events final
    exact Steps.congr same keeps (kept_init positive few junk curTime lastTime appTime)
  · intro world tvNow timeStampNow
    have returns := GateServerHandler.expired_returns (Int32.lt_iff_toInt_lt.mp positive)
      (world.updateMsTime (world.elapse timeEnv tvNow).1)
    obtain ⟨gate, handled⟩ := Option.isSome_iff_exists.mp returns
    cases long : (world.elapse timeEnv tvNow).2 with
    | true => exact ⟨_, by rw [TickedStep, tickedStep, updateTick, long]; simp only [handled]; rfl⟩
    | false => exact ⟨_, by rw [TickedStep, tickedStep, updateTick, long]; rfl⟩

instance (timeEnv : TimeEnv) (env : Env) (world : TickedGate) :
    (ev : TickEvent) → Decidable (world.InTime timeEnv env ev)
  | .call _ => inferInstanceAs (Decidable True)
  | .tick _ _ => inferInstanceAs (Decidable (_ → _))

/-- A gate of four slots with an idle period of ten seconds, 4 ms after the second 1000. -/
def tenSeconds : Env := { soleArea with iIdleCheckPeriod := 10 }

def tenStart : TickedGate :=
  init tenSeconds 4 (fun _ => 0) (.ofMicros 1000004000 (by decide)) (.ofMicros 1000004000 (by decide)) 1000

def tickAt (ms : Nat) (fits : ms * 1000 / 1000 < 2 ^ 63) : TickEvent := .tick (.ofMicros (ms * 1000) fits) 0

/-- A client connects, and its timer is checked once, 11 ms into the second 1010. -/
def checkedOnce : List TickEvent :=
  [.call (.newConnection { fd := 5 }), tickAt 1010000 (by decide), tickAt 1010011 (by decide)]

theorem idle_check_pending_once :
    ∃ final, Steps (fun world ev next => TickedStep plainTime tenSeconds world ev next ∧ next.gate.KeepsCheck)
      tenStart checkedOnce final := by
  let guarded (world : TickedGate) (ev : TickEvent) : Option TickedGate :=
    if world.InTime plainTime tenSeconds ev then tickedStep plainTime tenSeconds world ev else none
  have returned : (runAll guarded tenStart checkedOnce).isSome := by decide +kernel
  obtain ⟨final, ran⟩ := Option.isSome_iff_exists.mp returned
  have timely : Steps (fun world ev next => TickedStep plainTime tenSeconds world ev next ∧
      world.InTime plainTime tenSeconds ev) tenStart checkedOnce final := by
    refine (steps_of_runAll ran).mono fun stepped => ?_
    obtain ⟨inTime, same⟩ := Option.ite_none_right_eq_some.mp stepped
    exact ⟨same, inTime⟩
  exact ⟨final, ((idle_check_pending_iff plainTime tenSeconds 4 _ _ _ 1000 (by decide) (by decide)).1 _ _).mpr
    timely⟩

/-- The client sends a frame, and the timer fires again 12 ms into the second 1020, when the clock of
the application still shows 1019. The connection is not idle, and its last check was in the second
1010. It stays open without a timer. -/
theorem idle_check_lost :
    ∃ final, Steps (TickedStep plainTime tenSeconds) tenStart
        (checkedOnce ++ [.call (.clientDataRecv 5 [0, 1, 9]), tickAt 1019999 (by decide),
          tickAt 1020012 (by decide)]) final ∧
      (final.gate.vecConnections 1).bState = .connected ∧ final.gate.timerMgr.timerEvents = [] ∧
      ¬ final.gate.KeepsCheck := by
  have outcome : ((runAll (tickedStep plainTime tenSeconds) tenStart
      (checkedOnce ++ [.call (.clientDataRecv 5 [0, 1, 9]), tickAt 1019999 (by decide),
        tickAt 1020012 (by decide)])).map fun world =>
      ((world.gate.vecConnections 1).bState, world.gate.timerMgr.timerEvents)) =
      some (.connected, []) := by decide +kernel
  obtain ⟨final, ran, shown⟩ := Option.map_eq_some_iff.mp outcome
  obtain ⟨state, events⟩ := Prod.mk.inj shown
  refine ⟨final, steps_of_runAll ran, state, events, ?_⟩
  intro keeps
  obtain ⟨event, only, _⟩ := keeps 1 (by simp [state])
  simp [events] at only

end TickedGate

end Playground.Gate
