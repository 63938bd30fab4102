import Mathlib.Logic.Function.Basic
import Playground.Gate.Message
import Playground.Datacenter.DBAgent
import Playground.Zone.RoleID

/-! The data model of the zone agent. -/

namespace Playground.Zone

open Framing Gate

inductive SessionState where
  | init
  | loading
  | creating
  | playing
  | offline
  | kicking
deriving DecidableEq

inductive KickReason where
  | default
  | relogin
  | dbErr
  | closeClient
deriving DecidableEq

structure PlayerAgent where
  /-- Of the role it was made for. `GetUID` reads the `db::Role`, which is not part of the model. -/
  rid : UInt64
deriving DecidableEq

structure Session where
  /-- The zone whose `SessionMgr` the session points to. -/
  zone : UInt32
  gate : Int
  uid : UInt64 := 0
  accountid : UInt64 := 0
  area : UInt32 := 0
  /-- -1 in the constructor, read as `uint32_t`. -/
  idx : Nat := 4294967295
  port : UInt32 := 0
  state : SessionState := .init
  player : Option PlayerAgent := none
deriving DecidableEq

/-- `Session::Init`. The gate is set by the constructor only. -/
def Session.init (sson : Session) (uid : UInt64) (ggc : GateSSMsg) : Session :=
  { sson with
    uid
    accountid := ggc.uid
    port := ggc.port.getD 0
    idx := ggc.idx
    area := ggc.area }

export Datacenter (dataOk dataNoExists dataAlreadyExists)

/-- The calls a coroutine can be suspended in. `updateRole` counts the tries left. -/
inductive RequestKind where
  | getRole
  | insertRole
  | updateRole (retry : Nat)
deriving DecidableEq

def RequestKind.isLogin : RequestKind → Bool
  | .getRole => true
  | .insertRole => true
  | .updateRole _ => false

structure Request where
  id : Nat
  kind : RequestKind
  session : Nat
  uid : UInt64
deriving DecidableEq

/-- What the agent does, in the order it does it. -/
inductive ZoneEffect where
  | setState (session : Nat) (state : SessionState)
  | attach (session : Nat) (player : PlayerAgent)
  | detach (session : Nat)
  | kick (session : Nat) (reason : KickReason)
  | stop (session : Nat)
  | request (kind : RequestKind) (session : Nat) (uid : UInt64)
  | loginBegin (session : Nat) (uid : UInt64)
  | loginEnd (session : Nat) (uid : UInt64)
  | dispatch (session : Nat) (src : Int) (ggc : GateSSMsg)
  | respond (session : Nat) (gate : Int) (msg : GateSSMsg) (data : Option Bytes)
deriving DecidableEq

/-- `CSMsg`, as far as the dispatcher and the role handler read it. -/
structure CSMsg where
  cmd : UInt32
  role : Option UInt32 := none
deriving DecidableEq

structure ZoneEnv where
  /-- The keys of `m_mpZoneAgent`. -/
  areas : UInt32 → Bool
  dbAccepts : Nat → Bool
  parseCSMsg : Bytes → Option CSMsg
  /-- The packed answer of `CSRoleHandler` to a command about a role. -/
  packRoleRsp : UInt32 → UInt64 → Option Bytes
  byteSize : GateSSMsg → Nat
  channelReady : Int → Bool
  resumeRet : Int

structure ZoneAgentMgr where
  /-- The session objects, in the order of their allocation. -/
  sessions : Nat → Session := fun _ => { zone := 0, gate := 0 }
  created : Nat := 0
  mpSessions : UInt32 → UInt64 → Option Nat := fun _ _ => none
  /-- The roles in `m_mpGetObjects` of the database agent. -/
  getObjects : UInt64 → Bool := fun _ => false
  requests : List Request := []
  dbCalls : Nat := 0
  /-- Messages posted to each channel and not yet taken from it. -/
  posted : Int → List Envelope := fun _ => []
  log : List ZoneEffect := []

end Playground.Zone
