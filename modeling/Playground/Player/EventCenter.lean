import Mathlib.Data.Fintype.BigOperators
import Mathlib.Logic.Function.Basic
import Playground.Component.Expired
import Playground.Player.Knapsack
import Playground.Player.TaskLogic

/-! `EventCenter` with the logics it calls and that call it. -/

namespace Playground.Player

open Component

inductive CenterTimer where
  | onTimer
deriving DecidableEq

structure DelayEventParam where
  iEvent : Int := 0
  ulParam : UInt64 := 0
  reciever : String := ""
deriving DecidableEq

structure EventCenter (Player : Type) where
  mpPlayerAgents : UInt64 → Option Player := fun _ => none
  iDelayEventNextSeq : Int32 := 1
  mpDelayEventParams : List (Int32 × DelayEventParam) := []

/-- What the logics of a player keep; no constructor sets `m_dwTimerID`. -/
structure PlayerState where
  dirty : Bool := false
  doing : List RoleOneTask := []
  knapsack : PlayerKnapsackLogic := birthKnapsack
  dwTimerID : UInt32 := 0

/-- A call of `FireEvent`. `raiser` is the player whose knapsack or task logic calls. -/
structure FireCall (Player : Type) where
  iEventCode : Int
  receiver : Option String := none
  secondsLater : Int32 := 0
  ulParam : UInt64 := 0
  timeExpired : Bool := false
  raiser : Option Player := none

/-- An event that a player's logic raised: whether the player was online then, and whose
`NotifyEvent` was called. -/
structure Raised (Player : Type) where
  raiser : Player
  iEventCode : Int
  ulParam : UInt64
  online : Bool
  notified : Option Player
deriving DecidableEq

/-- The role id of each player, the task table, and what the calls of `UpdateRole` return. -/
structure EventEnv (Player : Type) where
  rid : Player → UInt64
  taskTable : UInt32 → Option TaskObj := fun _ => none
  updateRoleRet : Nat → Int := fun _ => 0

structure EventWorld (Player : Type) where
  center : EventCenter Player := {}
  timerMgr : TimerMgr CenterTimer
  /-- What `GetZonePlayerAgentPtr` returns. -/
  online : UInt64 → Option Player := fun _ => none
  players : Player → PlayerState
  updates : Nat := 0
  /-- The events raised by the players so far, the latest first. -/
  raised : List (Raised Player) := []
  /-- The sequence numbers given so far with the roles they were given for, the latest first. -/
  delayed : List (Int32 × UInt64) := []

variable {Player : Type} [DecidableEq Player]

/-- The search for a sequence number that is not in use, `none` where it does not end. -/
def freeSeq (params : List (Int32 × DelayEventParam)) : Nat → Int32 → Option Int32
  | 0, _ => none
  | fuel + 1, seq =>
    if params.any fun entry => entry.1 == seq then freeSeq params fuel (seq + 1) else some seq

namespace EventWorld

variable (world : EventWorld Player)

def modify (player : Player) (change : PlayerState → PlayerState) : EventWorld Player :=
  { world with players := Function.update world.players player (change (world.players player)) }

def setDoing (player : Player) (doing : List RoleOneTask) : EventWorld Player :=
  world.modify player fun state => { state with doing }

/-- `m_mpPlayerAgents[ulParam] = player`, or `erase(ulParam)`. -/
def cache (role : UInt64) (player : Option Player) : EventWorld Player :=
  { world with center := { world.center with
      mpPlayerAgents := Function.update world.center.mpPlayerAgents role player } }

def note (env : EventEnv Player) (world : EventWorld Player) (call : FireCall Player)
    (notified : Option Player) : EventWorld Player :=
  match call.raiser with
  | none => world
  | some raiser =>
    { world with
      raised :=
        { raiser, iEventCode := call.iEventCode, ulParam := call.ulParam
          online := decide (world.online (env.rid raiser) = some raiser), notified } :: world.raised }

def generateDelayEvent (call : FireCall Player) : Option (EventWorld Player × UInt32) :=
  let params := world.center.mpDelayEventParams
  (freeSeq params (params.length + 1) world.center.iDelayEventNextSeq).map fun seq =>
    let delayParam : DelayEventParam :=
      { iEvent := call.iEventCode, ulParam := call.ulParam, reciever := call.receiver.getD "" }
    let added := world.timerMgr.addTimer (call.secondsLater * 1000) call.iEventCode
      (some CenterTimer.onTimer) seq.toInt64.toUInt64
    ({ world with
        timerMgr := added.1
        center := { world.center with
          iDelayEventNextSeq := seq + 1
          mpDelayEventParams := (seq, delayParam) :: params }
        delayed := (seq, call.ulParam) :: world.delayed }, added.2)

/-- The player that is online, or for an event without delay one that is cached. -/
def playerOf (call : FireCall Player) : Option Player :=
  match world.online call.ulParam with
  | some player => some player
  | none => if 0 < call.secondsLater then none else world.center.mpPlayerAgents call.ulParam

def maxPlayerEventDelayTime : Int32 := 600

end EventWorld

abbrev Nested (Player : Type) := EventWorld Player → FireCall Player → Option (EventWorld Player × UInt32)

section Logics

variable (env : EventEnv Player) (nested : Nested Player) (world : EventWorld Player) (player : Player)

/-- `FireEvent(EVENT_PLAYER_SYNC_DB, name.c_str(), 300, player->GetUID())`, kept in `m_dwTimerID`. -/
def syncLater : Option (EventWorld Player) :=
  (nested world { iEventCode := eventPlayerSyncDB, receiver := some "autosync", secondsLater := 300
                  ulParam := env.rid player }).map fun fired =>
    fired.1.modify player fun state => { state with dwTimerID := fired.2 }

def autoSyncOnEvent (iEvent : Int) : Option (EventWorld Player) :=
  if iEvent = eventPlayerSyncDB then
    if (world.players player).dirty then
      let updated := { world with updates := world.updates + 1 }
      if env.updateRoleRet world.updates ≠ 0 then some updated
      else syncLater env nested (updated.modify player fun state => { state with dirty := false }) player
    else syncLater env nested world player
  else some world

/-- The loop of `PlayerTaskLogic::OnEvent`. The handlers may change the tasks it has not reached. -/
def taskLoop (iEvent : Int) (ulParam : UInt64) : Nat → Nat → EventWorld Player → Option (EventWorld Player)
  | 0, _, _ => none
  | fuel + 1, i, world =>
    let doing := (world.players player).doing
    match doing[i]? with
    | none => some world
    | some one =>
      match checkOneTask env.taskTable one iEvent ulParam with
      | none => taskLoop iEvent ulParam fuel i (world.setDoing player (swapRemove doing i))
      | some task =>
        let checked := world.setDoing player (doing.set i task)
        if one.isDoing ∧ task.state = taskStateDone then
          (nested checked { iEventCode := eventPlayerTaskDone, receiver := some "task"
                            ulParam := task.id.toUInt64, raiser := some player }).bind fun fired =>
            taskLoop iEvent ulParam fuel (i + 1) fired.1
        else taskLoop iEvent ulParam fuel (i + 1) checked

/-- `PlayerTaskLogic::OnEvent`; `GetTaskInfo` marks the role data as changed. -/
def taskOnEvent (iEvent : Int) (ulParam : UInt64) : Option (EventWorld Player) :=
  taskLoop env nested player iEvent ulParam ((world.players player).doing.length + 1) 0
    (world.modify player fun state => { state with dirty := true })

/-- The logics of a `PlayerLogicCenter`, in the order of their names. -/
inductive Logic where
  | autosync
  | knapsack
  | task
deriving DecidableEq

def Logic.name : Logic → String
  | .autosync => "autosync"
  | .knapsack => "knapsack"
  | .task => "task"

/-- `PlayerLogic::OnEvent`; the one of the knapsack has an empty body. -/
def onEvent (iEvent : Int) (ulParam : UInt64) : Logic → Option (EventWorld Player)
  | .autosync => autoSyncOnEvent env nested world player iEvent
  | .knapsack => some world
  | .task => taskOnEvent env nested world player iEvent ulParam

def notifyEvent (iEvent : Int) (ulParam : UInt64) (receiver : Option String) : Option (EventWorld Player) :=
  ([Logic.autosync, .knapsack, .task].filter fun logic => receiver.all (· == logic.name)).foldlM
    (fun world logic => onEvent env nested world player iEvent ulParam logic) world

/-- `EventCenter::FireEvent`, where -1 stands for `(uint32_t)-1`. -/
def fireEvent (call : FireCall Player) : Option (EventWorld Player × UInt32) :=
  if eventTestMin < call.iEventCode ∧ call.iEventCode < eventTestMax then some (world.note env call none, 0)
  else if eventPlayerMin < call.iEventCode ∧ call.iEventCode < eventPlayerMax then
    if EventWorld.maxPlayerEventDelayTime < call.secondsLater then some (world.note env call none, -1)
    else
      match world.playerOf call with
      | none => some (world.note env call none, -1)
      | some player =>
        if 0 < call.secondsLater then (world.cache call.ulParam (some player)).generateDelayEvent call
        else
          (notifyEvent env nested (world.note env call (some player)) player call.iEventCode call.ulParam
            call.receiver).map fun notified =>
              (if call.timeExpired then notified.cache call.ulParam none else notified, 0)
  else some (world.note env call none, -1)

end Logics

/-- `FireEvent` with handlers that call it again, at most `depth` calls deep. -/
def fireAt (env : EventEnv Player) : Nat → Nested Player
  | 0 => fun _ _ => none
  | depth + 1 => fireEvent env (fireAt env depth)

section Steps

variable [Fintype Player]

/-- The tasks that can still be completed. Every event raised from inside a handler
completes one of them first. -/
def EventWorld.doingTasks (world : EventWorld Player) : Nat :=
  ∑ player, (world.players player).doing.countP RoleOneTask.isDoing

def fire (env : EventEnv Player) (world : EventWorld Player) (call : FireCall Player) :
    Option (EventWorld Player × UInt32) :=
  fireAt env (world.doingTasks + 2) world call

/-- `(int)ulParam` of `EventCenter::OnTimer`. -/
def timerSeq (event : TimerEvent CenterTimer) : Int32 := event.ulParam.toUInt32.toInt32

/-- `OnDelayTimerExpired`. It looks the sequence number up, and then reads and erases the entry with the
number of the event code. -/
def onDelayTimerExpired (env : EventEnv Player) (world : EventWorld Player) (iEventCode : Int)
    (iDelayEventSeq : Int32) : Option (EventWorld Player) :=
  let params := world.center.mpDelayEventParams
  if params.any fun entry => entry.1 == iDelayEventSeq then
    let key := Int32.ofInt iEventCode
    let dep := (params.lookup key).getD {}
    let erased := { world with center := { world.center with
      mpDelayEventParams := params.filter fun entry => entry.1 != key } }
    (fire env erased { iEventCode, receiver := some dep.reciever, ulParam := dep.ulParam
                       timeExpired := true }).map Prod.fst
  else some world

def EventWorld.cancelTimer (world : EventWorld Player) (id : UInt32) : EventWorld Player :=
  { world with timerMgr := world.timerMgr.cancelTimer id }

/-- `Expired` takes the timer off both of its maps before it calls `OnTimer`. -/
def EventWorld.takeTimer (world : EventWorld Player) (event : TimerEvent CenterTimer) : EventWorld Player :=
  { world with timerMgr := { world.timerMgr.cancelTimer event.dwTimerID with
      timers := world.timerMgr.timers.erase (event.ulExpiredTime, event.dwTimerID) } }

inductive CenterEvent (Player : Type) where
  | session (role : UInt64) (player : Option Player)
  | attach (player : Player)
  | detach (player : Player)
  | knapsack (player : Player) (call : KnapsackCall)
  | fire (iEventCode : Int) (receiver : Option String) (secondsLater : Int32) (ulParam : UInt64)
  | clock (now : MsTime)
  | expire (id : UInt32)

/-- The events that a call on a package fires. Their handlers do not touch the package. -/
def knapsackCall (env : EventEnv Player) (world : EventWorld Player) (player : Player)
    (call : KnapsackCall) :
    Option (EventWorld Player) :=
  let knapsack := (world.players player).knapsack
  (knapsack.call call).bind fun result =>
    (result.1.fired.drop knapsack.fired.length).foldlM
      (fun world event => (fire env world
        { iEventCode := event.iEventCode, receiver := event.receiver, ulParam := event.ulParam
          raiser := some player }).map Prod.fst)
      (world.modify player fun state => { state with knapsack := result.1, dirty := true })

/-- One event; `none` where the process asserts or a search does not end. A session leads
to the player of its role. -/
def centerStep (env : EventEnv Player) (world : EventWorld Player) :
    CenterEvent Player → Option (EventWorld Player)
  | .session role player =>
    if player.all fun player => env.rid player == role then
      some { world with online := Function.update world.online role player }
    else none
  | .attach player => syncLater env (fire env) world player
  | .detach player => some (world.cancelTimer (world.players player).dwTimerID)
  | .knapsack player call => knapsackCall env world player call
  | .fire iEventCode receiver secondsLater ulParam =>
    (fire env world { iEventCode, receiver, secondsLater, ulParam }).map Prod.fst
  | .clock now => some { world with timerMgr := { world.timerMgr with curMsTime := now.ms } }
  | .expire id =>
    (world.timerMgr.timerEvents.find? fun event => event.dwTimerID == id).bind fun event =>
      if event.ulExpiredTime ≤ world.timerMgr.curMsTime then
        onDelayTimerExpired env (world.takeTimer event) event.iEvent (timerSeq event)
      else none

def CenterStep (env : EventEnv Player) (world : EventWorld Player) (event : CenterEvent Player)
    (next : EventWorld Player) : Prop :=
  centerStep env world event = some next

/-- `EventCenter::Init`, with whatever the players have been loaded with. -/
def EventWorld.init (now : MsTime) (players : Player → PlayerState) : EventWorld Player :=
  { timerMgr := .init now.ms, players }

end Steps

def zeroTime : MsTime := ⟨0, by decide⟩

end Playground.Player
