import Mathlib.Logic.Function.Basic
import Playground.Component.TimerMgr
import Playground.Gate.Message

/-! The data model of the gate. -/

namespace Playground.Gate

open Framing Component

/-- `TcpSocket`, as far as the handler uses it. -/
structure TcpSocket where
  fd : Int
  ip : UInt32 := 0
  port : UInt32 := 0
deriving DecidableEq

inductive GateConnectionState where
  | invalid
  | connected
  | authing
  | authorized
deriving DecidableEq

/-- `iMsgLen` and `recvBuffer` of a connection; `m_iMsgLen` and `m_rcvMsgBuffer`
of a client. -/
structure Receiver where
  iMsgLen : Nat := 0
  iUsed : Nat := 0
  created : Bool := false
  pBuffer : Nat → UInt8 := fun _ => 0

/-- The buffer after a copy to the given offset. -/
def memcpy (buffer : Nat → UInt8) (offset : Nat) (bytes : Bytes) : Nat → UInt8 :=
  fun at' => if offset ≤ at' ∧ at' < offset + bytes.length then bytes.getD (at' - offset) 0 else buffer at'

def Receiver.bytes (receiver : Receiver) (length : Nat) : Bytes :=
  (List.range length).map receiver.pBuffer

/-- The part that completes the length field. A chunk too short for it is copied, but `iUsed` is not
advanced. -/
def Receiver.readPrefix (receiver : Receiver) (chunk : Bytes) : Receiver × Nat :=
  if receiver.iMsgLen = 0 then
    if receiver.iUsed + chunk.length ≥ 2 then
      let offset := 2 - receiver.iUsed
      let buffer := memcpy receiver.pBuffer receiver.iUsed (chunk.take offset)
      ({ receiver with pBuffer := buffer, iMsgLen := be16 (buffer 0) (buffer 1), iUsed := 0 }, offset)
    else ({ receiver with pBuffer := memcpy receiver.pBuffer receiver.iUsed chunk }, 0)
  else (receiver, 0)

/-- Copies what the message still lacks; `iUsed` is not advanced here either. -/
def Receiver.readBody (receiver : Receiver) (chunk : Bytes) (offset : Nat) : Receiver × Nat :=
  let missing := receiver.iMsgLen - receiver.iUsed
  ({ receiver with
      pBuffer := memcpy receiver.pBuffer receiver.iUsed ((chunk.drop offset).take missing) },
    offset + missing)

/-- A slot of the connection table. -/
structure Connection where
  iIdx : Int := -1
  cliSocket : TcpSocket := { fd := -1 }
  receiver : Receiver := {}
  iDstChannel : Int := 0
  bState : GateConnectionState := .invalid
  ulUid : UInt64 := 0
  sToken : String := ""
  /-- Neither the constructor nor `Init` writes this field. -/
  iArea : UInt32 := 0
  tLastActTime : Int := 0
  dwRecvNum : UInt32 := 0
  dwSendNum : UInt32 := 0
  dwLastPeriodRecvNum : UInt32 := 0
  dwLastPeriodSendNum : UInt32 := 0
  tLastPeriodTime : Int := 0
  dwCurrentRecvSpeed : UInt32 := 0
  dwCurrentSendSpeed : UInt32 := 0
  dwTimerID : UInt32 := 0
  tLastCheckTime : Int := 0

/-- `Init`, which keeps the area that an earlier connection left. -/
def Connection.init (conn : Connection) : Connection :=
  { cliSocket := conn.cliSocket
    receiver := { conn.receiver with iMsgLen := 0, iUsed := 0 }
    iArea := conn.iArea }

def connectionStatPeriodTime : UInt32 := 5

/-- Speeds are computed when a period has passed. -/
def Connection.updateStat (conn : Connection) (now : Int) (recv : Bool) : Connection :=
  let conn := { conn with tLastActTime := now }
  let conn := if recv then { conn with dwRecvNum := conn.dwRecvNum + 1 }
    else { conn with dwSendNum := conn.dwSendNum + 1 }
  if conn.tLastPeriodTime + (connectionStatPeriodTime.toNat : Int) ≤ conn.tLastActTime then
    { conn with
      dwCurrentRecvSpeed := (conn.dwRecvNum - conn.dwLastPeriodRecvNum) / connectionStatPeriodTime
      dwCurrentSendSpeed := (conn.dwSendNum - conn.dwLastPeriodSendNum) / connectionStatPeriodTime
      dwLastPeriodRecvNum := conn.dwRecvNum
      dwLastPeriodSendNum := conn.dwSendNum
      tLastPeriodTime := conn.tLastActTime }
  else conn

/-- What the handler does to the outside. `accepted` and `message` mark accepts and calls of
`OnClientMessage`. -/
inductive Effect where
  | accepted (slot : Nat) (fd : Int)
  | message (slot : Nat) (payload : Bytes)
  | write (slot : Nat) (bytes : Bytes)
  | report (slot : Nat) (dst : Int) (msg : GateSSMsg) (data : Option Bytes)
  | close (slot : Nat)
  | closeClient (fd : Int)
deriving DecidableEq

/-- The configuration of the gate, and the results of the calls that leave the repository, by their
numbers. -/
structure Env where
  mpAreaID2ChannelID : UInt32 → Option Int
  iNeedAuth : Int
  iTestMode : Int
  iIdleCheckPeriod : Int32
  parseGateCSMsg : Bytes → Option GateCSMsg
  serializeGateCSMsg : GateCSMsg → Option Bytes
  byteSize : GateSSMsg → Nat
  channelReady : Int → Bool
  sendRet : Nat → Int
  createRet : Nat → Int
  /-- The contents of the buffer `ForwardData` sends in test mode. -/
  testBuffer : Bytes

/-- A gate that serves area 1 over channel 9. A request is a payload of the account and the area. -/
def soleArea : Env where
  mpAreaID2ChannelID area := if area = 1 then some 9 else none
  iNeedAuth := 0
  iTestMode := 0
  iIdleCheckPeriod := 0
  parseGateCSMsg
    | [uid, area] => some { cmd := gateAuthReq, authReq := some { uid := uid.toUInt64, area := area.toUInt32 } }
    | _ => none
  serializeGateCSMsg _ := some []
  byteSize _ := 32
  channelReady _ := true
  sendRet _ := 0
  createRet _ := 0
  testBuffer := []

inductive GateTimer where
  | checkConnxFree
deriving DecidableEq

/-- The handler with the parts of the application that it reads. -/
structure GateServerHandler where
  vecConnections : Nat → Connection
  size : Nat
  mpConnections : Int → Option Nat
  iAlivedConnections : Int := 0
  closing : Int := 0
  dwLastClosingIdx : Nat := 0
  iConnxMaxIdleTime : UInt32
  timerMgr : TimerMgr GateTimer
  /-- `GetApp()->GetTime().tv_sec`. -/
  curTime : Int := 0
  /-- `Time::GetTimeStampNow()`. -/
  timeStampNow : Int := 0
  downloadsize : UInt64 := 0
  uploadsize : UInt64 := 0
  reqpkgs : UInt64 := 0
  rsppkgs : UInt64 := 0
  downpkgs : UInt64 := 0
  uppkgs : UInt64 := 0
  sends : Nat := 0
  creates : Nat := 0
  /-- Messages posted to each channel and not yet taken from it. -/
  posted : Int → List Envelope := fun _ => []
  /-- Everything sent out so far, the latest first. -/
  out : List Effect := []

/-- The constructor `GateServerHandler(p, iMaxConnections)`; `junk` is what the
uninitialised `iArea` fields hold. -/
def GateServerHandler.init (env : Env) (iMaxConnections : Nat) (curMsTime : UInt64)
    (junk : Nat → UInt32) : GateServerHandler :=
  { vecConnections := fun i => { iArea := junk i }
    size := iMaxConnections
    mpConnections := fun _ => none
    iConnxMaxIdleTime := env.iIdleCheckPeriod.toUInt32
    timerMgr := .init curMsTime }

def GateServerHandler.emit (gate : GateServerHandler) (effect : Effect) : GateServerHandler :=
  { gate with out := effect :: gate.out }

def GateServerHandler.modify (gate : GateServerHandler) (i : Nat) (change : Connection → Connection) :
    GateServerHandler :=
  { gate with vecConnections := Function.update gate.vecConnections i (change (gate.vecConnections i)) }

end Playground.Gate
