import Playground.Datacenter.DBAgent

/-! The channels between the processes. -/

namespace Playground.Channel

open Framing Datacenter

structure ChannelConfig where
  name : Bytes

structure AppContext where
  channelName : Bytes
  localChannelName : Bytes
  localChannelAddr : Bytes
  channels : List ChannelConfig

/-- What is left to libraries: `SplitString` at a bar, `strtol`, and whether the socket of a channel
can be created. -/
structure Env where
  splitString : Bytes → List Bytes
  strtol : Bytes → Int32
  creates : Nat → Bool

def cstr (text : Bytes) : Bytes := text.takeWhile (· ≠ 0)

structure ChannelAgent where
  id : Nat
  idName : Bytes := []
  seqence : Int32 := 0
  /-- `msg_head`, empty unless it could not be sent. -/
  msgHead : Bytes := []

structure Frame where
  data : Bytes
  more : Bool
deriving DecidableEq

/-- The head of a message, with its end, in a buffer of 64 bytes. -/
def ChannelAgent.head (agent : ChannelAgent) : Bytes :=
  (cstr agent.idName ++ 124 :: numeral agent.seqence.toInt).take 63 ++ [0]

/-- `Channel::Write`, with what `zmq_msg_send` does: the parts that it hands to the socket. -/
def ChannelAgent.write (agent : ChannelAgent) (buffer : Bytes) (sendsHead sends : Bool) :
    Int × ChannelAgent × List Frame :=
  let head := if agent.msgHead = [] then agent.head else agent.msgHead
  if ¬ sendsHead then (-1, { agent with msgHead := head }, [])
  else if ¬ sends then (-2, { agent with msgHead := [] }, [{ data := head, more := true }])
  else (0, { agent with msgHead := [], seqence := agent.seqence + 1 },
    [{ data := head, more := true }, { data := buffer, more := false }])

structure ChannelMessage where
  iSrc : Int
  seqence : Int32
  data : Bytes
deriving DecidableEq

structure ChannelAgentMgr where
  channelAgents : List ChannelAgent := []
  nextGenID : Nat := 1
  mpNameChnlID : Bytes → Option Int := fun _ => none

namespace ChannelAgentMgr

def getChannel (mgr : ChannelAgentMgr) (id : Nat) : Option ChannelAgent :=
  mgr.channelAgents.find? (·.id = id)

def getChannelID (mgr : ChannelAgentMgr) (name : Bytes) : Int := (mgr.mpNameChnlID name).getD 0

def generateChannelID (mgr : ChannelAgentMgr) : Option Nat :=
  (List.range' mgr.nextGenID (mgr.channelAgents.length + 1)).find? fun id =>
    id ≠ 0 ∧ (mgr.getChannel id).isNone

/-- `AddChannel`, unless an assert fails, on the number or on the name. -/
def addChannel (env : Env) (mgr : ChannelAgentMgr) (id : Nat) (isLocal : Bool) (pszName : Bytes) :
    Option (Int × ChannelAgentMgr) :=
  if ¬ isLocal ∧ id = 0 then none
  else if (mgr.getChannel id).isSome then some (-1, mgr)
  else if 20 ≤ (cstr pszName).length ∨ 24 ≤ (cstr pszName ++ 35 :: numeral id).length then none
  else if ¬ env.creates id then some (-2, mgr)
  else some (0, { mgr with channelAgents := mgr.channelAgents ++ [{ id }] })

def setIDName (mgr : ChannelAgentMgr) (id : Nat) (name : Bytes) : ChannelAgentMgr :=
  { mgr with channelAgents := mgr.channelAgents.map fun agent =>
      if agent.id = id then { agent with idName := (cstr name).take 127 } else agent }

/-- `Channel::Read`. The number of the message is first written to the field of the source. -/
def read (env : Env) (mgr : ChannelAgentMgr) : List Frame → Option (Int × ChannelMessage × List Frame)
  | [] => some (-1, { iSrc := -1, seqence := 0, data := [] }, [])
  | head :: rest =>
    if 0 ∉ head.data then none
    else
      match env.splitString (cstr head.data) with
      | chname :: number :: _ =>
        let msg : ChannelMessage := { iSrc := mgr.getChannelID chname, seqence := env.strtol number, data := [] }
        if ¬ head.more then some (-1, msg, rest)
        else
          match rest with
          | [] => some (-1, msg, [])
          | body :: rest => some (0, { msg with data := body.data }, rest)
      | _ => none

end ChannelAgentMgr

structure Subscriptions (Handler : Type) where
  mpHandlerMap : List (Int × Handler) := []
  vecHandlers : List ((Int × Int) × Handler) := []

namespace Subscriptions

variable {Handler : Type}

def subscribeSingleMsg (subs : Subscriptions Handler) (id : Int) (handler : Handler) :
    Option (Subscriptions Handler) :=
  if (subs.mpHandlerMap.find? (·.1 = id)).isSome then none
  else some { subs with mpHandlerMap := subs.mpHandlerMap ++ [(id, handler)] }

def matchSegment (segment : Int × Int) (id : Int) : Bool := segment.1 ≤ id ∧ id ≤ segment.2

def subscribeContinuousMsg (subs : Subscriptions Handler) (first last : Int) (handler : Handler) :
    Int × Subscriptions Handler :=
  if subs.vecHandlers.any fun entry => matchSegment entry.1 first || matchSegment entry.1 last then (-1, subs)
  else (0, { subs with vecHandlers := subs.vecHandlers ++ [((first, last), handler)] })

def findHandler (subs : Subscriptions Handler) (id : Int) : Option Handler :=
  match subs.mpHandlerMap.find? (·.1 = id) with
  | some entry => some entry.2
  | none => (subs.vecHandlers.find? fun entry => matchSegment entry.1 id).map (·.2)

end Subscriptions

def initChannels (env : Env) (pszName : Bytes) :
    List ChannelConfig → ChannelAgentMgr → Option (Int × ChannelAgentMgr)
  | [], mgr => some (0, mgr)
  | chnl :: rest, mgr =>
    mgr.generateChannelID.bind fun chid =>
      (ChannelAgentMgr.addChannel env { mgr with nextGenID := chid } chid false pszName).bind fun added =>
        if added.1 ≠ 0 then some (-1, added.2)
        else initChannels env pszName rest (added.2.setIDName chid chnl.name)

def initProxy (env : Env) (ctx : AppContext) : Option (Int × ChannelAgentMgr) :=
  if ctx.localChannelAddr = [] then some (0, {})
  else
    (ChannelAgentMgr.addChannel env {} 0 true ctx.channelName).bind fun added =>
      if added.1 ≠ 0 then some (-1, added.2)
      else initChannels env ctx.channelName ctx.channels (added.2.setIDName 0 ctx.localChannelName)

/-- `ChannelProxyMessageDispatcher::DispatchMessage`: the handler that is called, and the channel it
is given. -/
def dispatchMessage {Handler : Type} (mgr : ChannelAgentMgr) (subs : Subscriptions Handler)
    (msg : ChannelMessage) :
    Option (Handler × ChannelAgent) :=
  (subs.findHandler msg.iSrc).bind fun handler =>
    if msg.iSrc < 0 then none else (mgr.getChannel msg.iSrc.toNat).map fun agent => (handler, agent)

end Playground.Channel
