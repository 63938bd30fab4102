import Playground.Framing.LengthPrefix

/-! The protobuf messages of the gate. -/

namespace Playground.Gate

open Framing

/-- The request of a client, with the defaults of protobuf. -/
structure AuthReq where
  uid : UInt64 := 0
  auth : UInt32 := 0
  token : String := ""
  area : UInt32 := 0
deriving DecidableEq

structure AuthRsp where
  result : UInt32 := 0
deriving DecidableEq

/-- What gate and client exchange before the data of a session. -/
structure GateCSMsg where
  cmd : UInt32
  authReq : Option AuthReq := none
  authRsp : Option AuthRsp := none
deriving DecidableEq

def gateNeedAuth : UInt32 := 1
def gateAuthReq : UInt32 := 2
def gateAuthRsp : UInt32 := 3

/-- The accessor of protobuf, with the default instance for a missing field. -/
def GateCSMsg.authreq (msg : GateCSMsg) : AuthReq := msg.authReq.getD {}

def GateCSMsg.authrsp (msg : GateCSMsg) : AuthRsp := msg.authRsp.getD {}

inductive EventType where
  | connected
  | close
  | data
deriving DecidableEq

/-- What gate and agent exchange. -/
structure GateSSMsg where
  event : EventType
  idx : Nat
  uid : UInt64
  area : UInt32
  ip : Option UInt32 := none
  port : Option UInt32 := none
  reason : Option Int := none
deriving DecidableEq

def connectionCloseByDefault : Int := 0
def connectionCloseByClient : Int := 1
def connectionCloseException : Int := 3

/-- A message handed to a channel: the decoded head and the bytes behind it. -/
abbrev Envelope := GateSSMsg × Bytes

end Playground.Gate
