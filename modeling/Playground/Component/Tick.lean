import Playground.Component.Expiry

/-! `TimerMgr::UpdateTick`, the handler of the tick signal. -/

namespace Playground.Component

open Transition

variable {Callback : Type}

/-- `struct timeval`; its milliseconds fit in the `long` in which `UpdateMsTime` computes them. -/
structure Timeval where
  tv_sec : Nat
  tv_usec : Nat
  fits : tv_sec * 1000 + tv_usec / 1000 < 2 ^ 63

def Timeval.msTime (time : Timeval) : MsTime where
  ms := UInt64.ofNat (time.tv_sec * 1000 + time.tv_usec / 1000)
  signed := by
    rw [UInt64.toNat_ofNat_of_lt' (Nat.lt_trans time.fits (by decide))]
    exact time.fits

structure TimeEnv where
  uspast : Timeval → Timeval → Int
  usappend : Timeval → Int32 → Timeval

/-- The timers with the two clocks of the manager. -/
structure TickWorld (Callback : Type) where
  timers : TimerWorld Callback
  curTime : Timeval
  lastTime : Timeval

/-- `TimerMgr::Init`, which reads the time twice. -/
def TickWorld.init (curTime lastTime : Timeval) : TickWorld Callback :=
  { timers := .init curTime.msTime, curTime, lastTime }

/-- `UpdateTick`. The elapsed time is cut to 32 bits. -/
def TickWorld.updateTick (env : TimeEnv) (listeners : Int → Option Callback)
    (script : List (TimerAct Callback) → List (TimerOp Callback)) (world : TickWorld Callback)
    (tvNow : Timeval) : Option (TickWorld Callback) :=
  let lElapseTime := Int32.ofInt (env.uspast tvNow world.lastTime)
  let curTime := env.usappend world.curTime lElapseTime
  let timers := world.timers.updateMsTime curTime.msTime
  let handled := if 10000 < lElapseTime then timers.expired listeners script else some timers
  handled.map fun timers => { timers, curTime, lastTime := tvNow }

inductive TickCall (Callback : Type) where
  | op (op : TimerOp Callback)
  | tick (tvNow : Timeval) (script : List (TimerAct Callback) → List (TimerOp Callback))

def tickStep (env : TimeEnv) (listeners : Int → Option Callback) (world : TickWorld Callback) :
    TickCall Callback → Option (TickWorld Callback)
  | .op op => some { world with timers := world.timers.apply op }
  | .tick tvNow script => world.updateTick env listeners script tvNow

def TickCall.Admissible : TickCall Callback → Prop
  | .op _ => True
  | .tick _ script => Delaying script

def TickStep (env : TimeEnv) (listeners : Int → Option Callback) (world : TickWorld Callback)
    (call : TickCall Callback) (next : TickWorld Callback) : Prop :=
  call.Admissible ∧ tickStep env listeners world call = some next

def NothingDue (now : UInt64) (mgr : TimerMgr Callback) : Prop :=
  ∀ event ∈ mgr.timerEvents, now < event.ulExpiredTime

def Fired (call : TickCall Callback) (next : TickWorld Callback) : Prop :=
  match call with
  | .op _ => True
  | .tick _ _ => NothingDue next.timers.mgr.curMsTime next.timers.mgr

/-- No tick, a tick more than 10 ms after the last one, or one that reaches no expiry. -/
def LongOrIdle (env : TimeEnv) (world : TickWorld Callback) : TickCall Callback → Prop
  | .op _ => True
  | .tick tvNow _ =>
    let elapsed := Int32.ofInt (env.uspast tvNow world.lastTime)
    10000 < elapsed ∨ NothingDue (env.usappend world.curTime elapsed).msTime.ms world.timers.mgr

variable {env : TimeEnv} {listeners : Int → Option Callback}

theorem updateTick_fired {world next : TickWorld Callback} (delaying : Delaying script)
    (indexed : world.timers.Indexed) (ticked : world.updateTick env listeners script tvNow = some next) :
    next.timers.Indexed ∧
      (Fired (.tick tvNow script) next ↔ LongOrIdle env world (.tick tvNow script)) := by
  obtain ⟨timers, handled, rfl⟩ := Option.map_eq_some_iff.mp ticked
  split at handled
  · next long =>
    have expires :=
      TimerWorld.expired_expires delaying (Timeval.msTime _).signed (indexed.updateMsTime _) handled
    exact ⟨expires.indexed, iff_of_true expires.events (.inl long)⟩
  · next short =>
    cases handled
    refine ⟨indexed.updateMsTime _, ?_⟩
    exact ⟨fun nothing => .inr nothing, fun idle => idle.resolve_left short⟩

theorem TickStep.indexed {world next : TickWorld Callback}
    (step : TickStep env listeners world call next) (indexed : world.timers.Indexed) : next.timers.Indexed := by
  obtain ⟨admissible, stepped⟩ := step
  cases call with
  | op op =>
    cases stepped
    exact indexed.apply op
  | tick tvNow script => exact (updateTick_fired admissible indexed stepped).1

/-- Behind every tick of a run no pending timer has expired, if and only if every tick comes more
than 10 ms after the one before it, or reaches no expiry. -/
theorem ticks_fire_iff (curTime lastTime : Timeval) (calls : List (TickCall Callback))
    (final : TickWorld Callback) :
    Steps (fun world call next => TickStep env listeners world call next ∧ Fired call next)
        (TickWorld.init curTime lastTime) calls final ↔
      Steps (fun world call next => TickStep env listeners world call next ∧ LongOrIdle env world call)
        (TickWorld.init curTime lastTime) calls final := by
  have same {world next : TickWorld Callback} {call : TickCall Callback} (indexed : world.timers.Indexed) :
      (TickStep env listeners world call next ∧ Fired call next) ↔
        (TickStep env listeners world call next ∧ LongOrIdle env world call) := by
    refine and_congr_right ?_
    rintro ⟨admissible, stepped⟩
    cases call with
    | op op => exact Iff.rfl
    | tick tvNow script => exact (updateTick_fired admissible indexed stepped).2
  have keeps {world next : TickWorld Callback} {call : TickCall Callback}
      (step : TickStep env listeners world call next ∧ Fired call next) (indexed : world.timers.Indexed) :
      next.timers.Indexed :=
    step.1.indexed indexed
  exact Steps.congr same keeps ⟨.nil, nofun⟩

def Timeval.micros (time : Timeval) : Nat := time.tv_sec * 1000000 + time.tv_usec

def Timeval.ofMicros (micros : Nat) (fits : micros / 1000 < 2 ^ 63) : Timeval where
  tv_sec := micros / 1000000
  tv_usec := micros % 1000000
  fits := by omega

def plainTime : TimeEnv where
  uspast now last := now.micros - last.micros
  usappend time us :=
    let micros := (time.micros + us.toInt).toNat
    if fits : micros / 1000 < 2 ^ 63 then .ofMicros micros fits else time

def tickStart : Timeval := .ofMicros 1000000 (by decide)

/-- A timer for 5 ms, and then a tick at each of the times. -/
def tickRun (ticks : List Timeval) : Option (TickWorld Unit) :=
  runAll (tickStep plainTime fun _ => none) (TickWorld.init tickStart tickStart)
    (.op (.addTimer 5 7 (some ()) 0) :: ticks.map fun now => .tick now fun _ => [])

/-- Two ticks of exactly 10 ms, and the timer for 5 ms is still pending. -/
theorem tick_leaves_due :
    (tickRun [.ofMicros 1010000 (by decide), .ofMicros 1020000 (by decide)]).map (fun world =>
      (world.timers.mgr.curMsTime, world.timers.mgr.timerEvents.map (·.ulExpiredTime))) =
      some (1020, [1005]) := by
  decide +kernel

end Playground.Component
