/-! The events of `EventCenter.h` that players raise, and the call that raises one. -/

namespace Playground.Player

def eventTestMin : Int := 1000
def eventTestMax : Int := 1002
def eventPlayerMin : Int := 2000
def eventPlayerTest : Int := 2001
def eventPlayerSyncDB : Int := 2002
def eventPlayerTaskDone : Int := 2003
def eventPlayerItemAdd : Int := 2004
def eventPlayerItemDec : Int := 2005
def eventPlayerRemoveGridItem : Int := 2006
def eventPlayerChangePackMaxGrid : Int := 2007
def eventPlayerMax : Int := 2008

structure RaisedEvent where
  iEventCode : Int
  receiver : Option String
  ulParam : UInt64
deriving DecidableEq

/-- `param = high; param <<= 32; param |= low`. -/
def eventParam (high low : UInt32) : UInt64 :=
  high.toUInt64 <<< 32 ||| low.toUInt64

end Playground.Player
