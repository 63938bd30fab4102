/-! The timer manager. -/

namespace Playground.Component

structure TimerEvent (Callback : Type) where
  iEvent : Int
  ulParam : UInt64
  cb : Option Callback
  ulExpiredTime : UInt64
  dwTimerID : UInt32
deriving DecidableEq

structure TimerMgr (Callback : Type) where
  curMsTime : UInt64
  timers : List (UInt64 × UInt32)
  /-- `m_mpTimerEvents`, keyed by `dwTimerID`. -/
  timerEvents : List (TimerEvent Callback)
  dwNextTimerID : UInt32
deriving DecidableEq

variable {Callback : Type}

def TimerMgr.init (curMsTime : UInt64) : TimerMgr Callback :=
  { curMsTime, timers := [], timerEvents := [], dwNextTimerID := 1 }

/-- `multimap::insert`: behind every entry with the same or an earlier time. -/
def insertTimer (entry : UInt64 × UInt32) : List (UInt64 × UInt32) → List (UInt64 × UInt32)
  | [] => [entry]
  | first :: rest => if entry.1 < first.1 then entry :: first :: rest else first :: insertTimer entry rest

/-- The loop that skips ids still in `m_mpTimerEvents`; one id more than the map
has entries is always enough. -/
def freeTimerID (events : List (TimerEvent Callback)) : Nat → UInt32 → UInt32
  | 0, id => id
  | fuel + 1, id =>
    if events.any (fun event => event.dwTimerID == id) then freeTimerID events fuel (id + 1) else id

def TimerMgr.addTimer (mgr : TimerMgr Callback) (msLater : Int32) (iEvent : Int)
    (func : Option Callback) (ulParam : UInt64) : TimerMgr Callback × UInt32 :=
  let expiredTime := mgr.curMsTime + msLater.toInt64.toUInt64
  let id := freeTimerID mgr.timerEvents mgr.timerEvents.length mgr.dwNextTimerID
  let event : TimerEvent Callback :=
    { iEvent, ulParam, cb := func, ulExpiredTime := expiredTime, dwTimerID := id }
  ({ mgr with
      timers := insertTimer (expiredTime, id) mgr.timers
      timerEvents := event :: mgr.timerEvents
      dwNextTimerID := id + 1 }, id)

def TimerMgr.cancelTimer (mgr : TimerMgr Callback) (id : UInt32) : TimerMgr Callback :=
  { mgr with timerEvents := mgr.timerEvents.filter (fun event => event.dwTimerID != id) }

end Playground.Component
