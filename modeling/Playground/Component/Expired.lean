import Mathlib.Algebra.Group.Nat.Defs
import Playground.Component.TimerMgr

/-! `TimerMgr::Expired` with the handlers it runs. -/

namespace Playground.Component

variable {Callback : Type}

inductive TimerOp (Callback : Type) where
  | addTimer (msLater : Int32) (iEvent : Int) (func : Option Callback) (ulParam : UInt64)
  | cancelTimer (id : UInt32)

inductive TimerAct (Callback : Type) where
  | added (id : UInt32) (expiry : UInt64)
  | canceled (id : UInt32)
  /-- `Expired` took the event at the time and ran the handler, if there was one. -/
  | fired (event : TimerEvent Callback) (handler : Option Callback) (now : UInt64)
deriving DecidableEq

structure TimerWorld (Callback : Type) where
  mgr : TimerMgr Callback
  log : List (TimerAct Callback)
deriving DecidableEq

/-- A value of `m_curMsTime`, which is computed in a signed 64-bit integer. -/
structure MsTime where
  ms : UInt64
  signed : ms.toNat < 2 ^ 63

/-- Where `multimap::insert` puts an entry with the time. -/
def insertPosition (time : UInt64) (timers : List (UInt64 × UInt32)) : Nat :=
  (timers.takeWhile fun entry => entry.1 ≤ time).length

/-- An iterator at or behind the place of the new entry is one entry further from the beginning. -/
def moveIterator (position it : Nat) : Nat :=
  if position ≤ it then it + 1 else it

namespace TimerWorld

def init (start : MsTime) : TimerWorld Callback :=
  { mgr := .init start.ms, log := [] }

def addTimer (world : TimerWorld Callback) (msLater : Int32) (iEvent : Int) (func : Option Callback)
    (ulParam : UInt64) : TimerWorld Callback :=
  let added := world.mgr.addTimer msLater iEvent func ulParam
  { mgr := added.1, log := .added added.2 (world.mgr.curMsTime + msLater.toInt64.toUInt64) :: world.log }

def cancelTimer (world : TimerWorld Callback) (id : UInt32) : TimerWorld Callback :=
  { mgr := world.mgr.cancelTimer id, log := .canceled id :: world.log }

def updateMsTime (world : TimerWorld Callback) (now : MsTime) : TimerWorld Callback :=
  { world with mgr := { world.mgr with curMsTime := now.ms } }

def apply (world : TimerWorld Callback) : TimerOp Callback → TimerWorld Callback
  | .addTimer msLater iEvent func ulParam => world.addTimer msLater iEvent func ulParam
  | .cancelTimer id => world.cancelTimer id

def follow (world : TimerWorld Callback) (it : Nat) : TimerOp Callback → Nat
  | .addTimer msLater _ _ _ =>
    moveIterator (insertPosition (world.mgr.curMsTime + msLater.toInt64.toUInt64) world.mgr.timers) it
  | .cancelTimer _ => it

def runOps (world : TimerWorld Callback) (it : Nat) : List (TimerOp Callback) → TimerWorld Callback × Nat
  | [] => (world, it)
  | op :: ops => runOps (world.apply op) (world.follow it op) ops

/-- `m_mpTimers.erase(cur)` and, where the timer has an event, `m_mpTimerEvents.erase(tit)`. -/
def take (world : TimerWorld Callback) (it : Nat) (id : UInt32) : TimerMgr Callback :=
  { world.mgr.cancelTimer id with timers := world.mgr.timers.eraseIdx it }

/-- One round of the loop. The handler is the callback of the timer or else the listener of its event. -/
def round (listeners : Int → Option Callback) (script : List (TimerAct Callback) → List (TimerOp Callback))
    (world : TimerWorld Callback) (it : Nat) (id : UInt32) : TimerWorld Callback × Nat :=
  match world.mgr.timerEvents.find? (·.dwTimerID == id) with
  | none => ({ world with mgr := world.take it id }, it)
  | some event =>
    let handler := event.cb <|> listeners event.iEvent
    let log := .fired event handler world.mgr.curMsTime :: world.log
    let taken : TimerWorld Callback := { mgr := world.take it id, log }
    taken.runOps it (if handler.isSome then script log else [])

def expiredLoop (listeners : Int → Option Callback)
    (script : List (TimerAct Callback) → List (TimerOp Callback)) :
    Nat → TimerWorld Callback → Nat → Option (TimerWorld Callback)
  | 0, _, _ => none
  | fuel + 1, world, it =>
    match world.mgr.timers[it]? with
    | none => some world
    | some entry =>
      if entry.1 ≤ world.mgr.curMsTime then
        let next := world.round listeners script it entry.2
        expiredLoop listeners script fuel next.1 next.2
      else some world

/-- `TimerMgr::Expired`, given one round for each entry and one to leave the loop. -/
def expired (listeners : Int → Option Callback)
    (script : List (TimerAct Callback) → List (TimerOp Callback))
    (world : TimerWorld Callback) : Option (TimerWorld Callback) :=
  expiredLoop listeners script (world.mgr.timers.length + 1) world 0

end TimerWorld

inductive TimerCall (Callback : Type) where
  | op (op : TimerOp Callback)
  | clock (now : MsTime)
  | expired (script : List (TimerAct Callback) → List (TimerOp Callback))

def timerStep (listeners : Int → Option Callback) (world : TimerWorld Callback) :
    TimerCall Callback → Option (TimerWorld Callback)
  | .op op => some (world.apply op)
  | .clock now => some (world.updateMsTime now)
  | .expired script => world.expired listeners script

end Playground.Component
