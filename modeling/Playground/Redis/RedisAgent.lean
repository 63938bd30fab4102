import Mathlib.Logic.Function.Basic
import Playground.Datacenter.DBAgent

/-! The `RedisAgent`: commands that go out on one of its connections under the number of a
callback, replies that find their callback by that number, and the cursor that times callbacks
out. The agent runs in one thread, but a listener may issue commands while it is called; so a
call of the listener and its return are two steps. -/

namespace Playground.Redis

open Framing Datacenter

/-- A callback buffer of the pool, which is reused. -/
structure Buffer where
  address : Nat
  bytes : Bytes
deriving DecidableEq

/-- An entry of `addrList`, without the address itself. -/
structure RedisAddr where
  dbidx : UInt32
deriving DecidableEq

/-- A connection of the agent. -/
structure RedisClientContext where
  addr : RedisAddr
  /-- The context of the client library, which stands for the connection. -/
  ctx : Nat
  dbSelected : Bool := false
deriving DecidableEq

inductive ReplyType where
  | string
  | array
  | integer
  | nil
  | status
  | error
deriving DecidableEq

structure RedisReply where
  type : ReplyType
  integer : Int := 0
  str : Bytes := []
deriving DecidableEq

inductive RedisCommand where
  | get (key : Bytes)
  | set (key value : Bytes)
  | del (key : Bytes)
  | select (dbidx : Nat)
deriving DecidableEq

abbrev CallBackId := BitVec 32

/-- A callback that waits, with the time of its command. -/
structure RedisAgentCallBack where
  cb : Buffer
  time : BitVec 32
deriving DecidableEq

structure RedisAgent where
  callBackSeq : CallBackId := 1
  callBackPool : CallBackId → Option RedisAgentCallBack := fun _ => none
  chkTimeOut : CallBackId := 5
  redisCtxList : List RedisClientContext
  connected : Int := 0

/-- What a call of `Command` meets: the random number, the time, and whether the client library
takes the command. -/
structure Call where
  pick : Nat
  now : Int
  taken : Bool

namespace RedisAgent

/-- The next number that no callback waits under. -/
def nextSeq (pool : CallBackId → Option RedisAgentCallBack) : Nat → CallBackId → Option CallBackId
  | 0, _ => none
  | fuel + 1, seq => if (pool seq).isSome then nextSeq pool fuel (seq + 1) else some seq

/-- `Command` without the connection. The loop does not end if all numbers are in use. -/
def command (agent : RedisAgent) (cb : Buffer) (call : Call) : Option (Option CallBackId × RedisAgent) :=
  (nextSeq agent.callBackPool (2 ^ 32) agent.callBackSeq).map fun vp =>
    if call.taken then
      (some vp, { agent with
        callBackSeq := vp + 1
        callBackPool := Function.update agent.callBackPool vp (some { cb, time := BitVec.ofInt 32 call.now }) })
    else (none, { agent with callBackSeq := vp })

def eraseCallBack (agent : RedisAgent) (cbid : CallBackId) : RedisAgent :=
  { agent with callBackPool := Function.update agent.callBackPool cbid none }

def findContext (agent : RedisAgent) (c : Nat) : Option RedisClientContext :=
  agent.redisCtxList.find? (·.ctx = c)

def allContextReady (agent : RedisAgent) : Bool :=
  agent.redisCtxList.all (·.dbSelected)

end RedisAgent

/-- The callback under which the agent selects a database. -/
def selectdbCb : Bytes := ascii "$SELECTDB"

/-- The callback of an internal command: `strstr` finds the mark. -/
def Buffer.isSelect (cb : Buffer) : Bool :=
  selectdbCb <:+: cb.bytes.takeWhile (· ≠ 0)

/-- Only the first context of the connection is marked. -/
def markSelected (c : Nat) : List RedisClientContext → List RedisClientContext
  | [] => []
  | context :: rest =>
    if context.ctx = c then { context with dbSelected := true } :: rest
    else context :: markSelected c rest

def RedisAgent.onSelectDB (agent : RedisAgent) (c : Nat) (reply : RedisReply) : RedisAgent :=
  if reply.integer = 0 ∧ reply.type = .status then
    { agent with redisCtxList := markSelected c agent.redisCtxList }
  else agent

/-- The two orders of cursor and sequence. -/
inductive Branch where
  | wrapping
  | following
deriving DecidableEq

/-- What one round of the check does. -/
inductive Round where
  | pass
  | expire (cb : Buffer)
  | leave
deriving DecidableEq

namespace RedisAgent

def branch (agent : RedisAgent) : Branch :=
  if agent.callBackSeq < agent.chkTimeOut then .wrapping else .following

/-- The head of the loop with the number of rounds left, and its body up to the listener. -/
def checkRound (agent : RedisAgent) (branch : Branch) (left : Nat) (now : Int) : Round :=
  if left = 0 ∨ branch = .following ∧ agent.callBackSeq < agent.chkTimeOut then .leave
  else
    match agent.callBackPool agent.chkTimeOut with
    | none => .pass
    | some entry => if (entry.time + 5).toNat < now then .expire entry.cb else .leave

/-- A cursor that has overtaken the sequence is put back to it. -/
def leaveCheck (agent : RedisAgent) : Branch → RedisAgent
  | .wrapping => agent
  | .following =>
    if agent.callBackSeq < agent.chkTimeOut then { agent with chkTimeOut := agent.callBackSeq } else agent

def advance (agent : RedisAgent) : RedisAgent :=
  { agent with chkTimeOut := agent.chkTimeOut + 1 }

end RedisAgent

inductive Control where
  | idle
  /-- `OnCommand` is in the listener with a callback: with its reply, or without one for a connection
  that is gone. -/
  | replying (cbid : CallBackId) (gone : Option Nat)
  /-- `CheckTimeOut` is at the head of a loop. -/
  | checking (branch : Branch) (left : Nat)
  /-- `CheckTimeOut` is in the listener with the callback at the cursor. -/
  | expiring (branch : Branch) (left : Nat)
  /-- The client library runs the callbacks of a connection that is gone. -/
  | freeing (conn : Nat)
  /-- `OnSelectDB` has read a reply that is not there. -/
  | crashed (cbid : CallBackId)
deriving DecidableEq

/-- Where the client library goes on when the listener of a reply returns. -/
def Control.behind : Option Nat → Control
  | none => .idle
  | some conn => .freeing conn

/-- Commands are issued by the application and by listeners. -/
def Control.mayCommand : Control → Bool
  | .idle => true
  | .replying _ _ => true
  | .expiring _ _ => true
  | _ => false

end Playground.Redis
