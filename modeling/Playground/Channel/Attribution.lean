import Playground.Transition.Steps
import Playground.Channel.Numbering

/-! Two processes that have a channel to each other. -/

namespace Playground.Channel

open Framing Transition Datacenter

structure Delivery (Handler : Type) where
  own : Bool
  msg : ChannelMessage
  /-- The handlers at that time, and the one that was called, with its channel. -/
  subs : Subscriptions Handler
  handled : Option (Handler × ChannelAgent)

/-- The channels of both processes, the handlers of the second one, and the parts under way, with their
origin. -/
structure ChannelWorld (Handler : Type) where
  sender : ChannelAgentMgr
  receiver : ChannelAgentMgr
  subs : Subscriptions Handler := {}
  unfinished : List Frame := []
  inbox : List (Bool × Frame) := []
  log : List (Delivery Handler) := []

inductive ChannelEvent (Handler : Type) where
  | post (buffer : Bytes) (sendsHead sends : Bool)
  | arrive (frames : List Frame)
  | subscribeSingle (id : Int) (handler : Handler)
  | subscribeContinuous (first last : Int) (handler : Handler)
  | poll

section World

variable {Handler : Type}

def ChannelAgentMgr.put (mgr : ChannelAgentMgr) (agent : ChannelAgent) : ChannelAgentMgr :=
  { mgr with channelAgents := mgr.channelAgents.map fun other => if other.id = agent.id then agent else other }

/-- One event; `dst` is the channel of the first process to the second one. -/
def channelStep (env : Env) (dst : Nat) (world : ChannelWorld Handler) :
    ChannelEvent Handler → Option (ChannelWorld Handler)
  | .post buffer sendsHead sends =>
    (world.sender.getChannel dst).map fun agent =>
      let result := agent.write buffer sendsHead sends
      let parts := world.unfinished ++ result.2.2
      let world := { world with sender := world.sender.put result.2.1 }
      if result.1 = 0 then
        { world with unfinished := [], inbox := world.inbox ++ parts.map fun part => (true, part) }
      else { world with unfinished := parts }
  | .arrive frames => some { world with inbox := world.inbox ++ frames.map fun part => (false, part) }
  | .subscribeSingle id handler => (world.subs.subscribeSingleMsg id handler).map fun subs => { world with subs }
  | .subscribeContinuous first last handler =>
    some { world with subs := (world.subs.subscribeContinuousMsg first last handler).2 }
  | .poll =>
    (ChannelAgentMgr.read env world.receiver (world.inbox.map (·.2))).map fun result =>
      let polled := { world with inbox := world.inbox.drop (world.inbox.length - result.2.2.length) }
      if result.1 = 0 then
        { polled with log := {
            own := (world.inbox.head?.map (·.1)).getD false
            msg := result.2.1
            subs := world.subs
            handled := dispatchMessage world.receiver world.subs result.2.1 } :: world.log }
      else polled

/-- What the first process posted is ascribed to the channel with the number, and was given to the
handler for it. -/
def ChannelWorld.Attributed (world : ChannelWorld Handler) (id : Nat) : Prop :=
  ∀ delivery ∈ world.log, delivery.own = true →
    delivery.msg.iSrc = id ∧ delivery.handled.map (·.1) = delivery.subs.findHandler id

variable {env : Env} {dst : Nat} {world next : ChannelWorld Handler}

private theorem read_iSrc {mgr : ChannelAgentMgr} {msg : ChannelMessage}
    (unnamed : mgr.mpNameChnlID = fun _ => none) (ran : mgr.read env frames = some (0, msg, rest)) :
    msg.iSrc = 0 := by
  cases frames with
  | nil => cases ran
  | cons head tail =>
    simp only [ChannelAgentMgr.read, ChannelAgentMgr.getChannelID, unnamed] at ran
    split at ran
    · cases ran
    · split at ran
      · split at ran
        · cases ran
        · split at ran
          · cases ran
          · cases ran
            rfl
      · cases ran

/-- The receiver has no names of channels, and ascribed all that it read to the number 0. -/
structure ChannelWorld.Unnamed (world : ChannelWorld Handler) : Prop where
  names : world.receiver.mpNameChnlID = fun _ => none
  log : ∀ delivery ∈ world.log, delivery.msg.iSrc = 0

theorem ChannelWorld.Unnamed.step (unnamed : world.Unnamed)
    (stepped : channelStep env dst world event = some next) : next.Unnamed := by
  cases event with
  | post buffer sendsHead sends =>
    obtain ⟨agent, _, rfl⟩ := Option.map_eq_some_iff.mp stepped
    simp only
    split <;> exact ⟨unnamed.names, unnamed.log⟩
  | arrive frames =>
    cases stepped
    exact ⟨unnamed.names, unnamed.log⟩
  | subscribeSingle id handler =>
    obtain ⟨subs, _, rfl⟩ := Option.map_eq_some_iff.mp stepped
    exact ⟨unnamed.names, unnamed.log⟩
  | subscribeContinuous first last handler =>
    cases stepped
    exact ⟨unnamed.names, unnamed.log⟩
  | poll =>
    obtain ⟨⟨ret, msg, rest⟩, ran, rfl⟩ := Option.map_eq_some_iff.mp stepped
    simp only
    split
    · next zero =>
      subst zero
      exact ⟨unnamed.names, List.forall_mem_cons.mpr ⟨read_iSrc unnamed.names ran, unnamed.log⟩⟩
    · exact ⟨unnamed.names, unnamed.log⟩

end World

/-- Two processes whose configurations have the name of the other. The second one has a number for its
channel to the first one, but whatever it reads is ascribed to the number 0: the messages of the
first one are ascribed to its channel only as long as none of them is read. -/
theorem messages_attributed_iff {Handler : Type} {env otherEnv : Env} {ctx otherCtx : AppContext}
    {sender receiver : ChannelAgentMgr} (listens : ctx.localChannelAddr ≠ [])
    (otherListens : otherCtx.localChannelAddr ≠ []) (started : initProxy env ctx = some (0, sender))
    (otherStarted : initProxy otherEnv otherCtx = some (0, receiver)) {dst src : Nat}
    {chnl otherChnl : ChannelConfig}
    (listed : ctx.channels[dst]? = some chnl) (named : chnl.name = otherCtx.localChannelName)
    (otherListed : otherCtx.channels[src]? = some otherChnl) (otherNamed : otherChnl.name = ctx.localChannelName)
    {events : List (ChannelEvent Handler)} {world : ChannelWorld Handler}
    (run : Steps (channelStep otherEnv (dst + 1) · · = some ·) { sender, receiver } events world) :
    (∃ agent, sender.getChannel (dst + 1) = some agent ∧ agent.idName = idNameOf otherCtx.localChannelName) ∧
      (∃ agent, receiver.getChannel (src + 1) = some agent ∧ agent.idName = idNameOf ctx.localChannelName) ∧
      (∀ delivery ∈ world.log, delivery.msg.iSrc = 0) ∧
      (world.Attributed (src + 1) ↔ ∀ delivery ∈ world.log, delivery.own = false) := by
  obtain ⟨numbered, _⟩ := initProxy_numbered started listens
  obtain ⟨otherNumbered, unnamed⟩ := initProxy_numbered otherStarted otherListens
  have keeps {world next : ChannelWorld Handler} {event : ChannelEvent Handler}
      (stepped : channelStep otherEnv (dst + 1) world event = some next) (unnamed : world.Unnamed) :
      next.Unnamed :=
    unnamed.step stepped
  have final : world.Unnamed := run.invariant keeps ⟨unnamed, nofun⟩
  refine ⟨numbered.getChannel ?_, otherNumbered.getChannel ?_, final.log, ?_, ?_⟩
  · rw [List.getElem?_cons_succ, List.getElem?_map, listed, Option.map_some, named]
  · rw [List.getElem?_cons_succ, List.getElem?_map, otherListed, Option.map_some, otherNamed]
  · intro attributed delivery member
    refine Bool.eq_false_iff.mpr fun own => ?_
    have ascribed := (attributed delivery member own).1
    rw [final.log delivery member] at ascribed
    omega
  · intro none_own delivery member own
    rw [none_own delivery member] at own
    cases own

/-- Libraries that do what they say, on texts without signs and spaces. -/
def plainEnv : Env where
  splitString := List.splitOn 124
  strtol digits := digits.foldl (fun number digit => number * 10 + Int32.ofNat (digit.toNat - 48)) 0
  creates _ := true

def gateContext : AppContext where
  channelName := ascii "ch"
  localChannelName := ascii "gate:1"
  localChannelAddr := ascii "tcp://127.0.0.1:51010"
  channels := [{ name := ascii "agent:1" }]

def agentContext : AppContext where
  channelName := ascii "ch"
  localChannelName := ascii "agent:1"
  localChannelAddr := ascii "tcp://127.0.0.1:52010"
  channels := [{ name := ascii "gate:1" }]

def gateMgr : ChannelAgentMgr := ((initProxy plainEnv gateContext).get (by decide +kernel)).2

def agentMgr : ChannelAgentMgr := ((initProxy plainEnv agentContext).get (by decide +kernel)).2

def onePost : List (ChannelEvent Unit) := [.subscribeSingle 1 (), .post [1, 2, 3] true true]

def posted : ChannelWorld Unit :=
  (runAll (channelStep plainEnv 1) { sender := gateMgr, receiver := agentMgr } onePost).get (by decide +kernel)

theorem gate_started : initProxy plainEnv gateContext = some (0, gateMgr) := by
  have value : (initProxy plainEnv gateContext).get (by decide +kernel) = (0, gateMgr) :=
    Prod.ext (by decide +kernel) rfl
  exact (Option.some_get _).symm.trans (congrArg some value)

theorem agent_started : initProxy plainEnv agentContext = some (0, agentMgr) := by
  have value : (initProxy plainEnv agentContext).get (by decide +kernel) = (0, agentMgr) :=
    Prod.ext (by decide +kernel) rfl
  exact (Option.some_get _).symm.trans (congrArg some value)

theorem messages_attributed_iff_posted :
    posted.inbox ≠ [] ∧ (posted.Attributed 1 ↔ ∀ delivery ∈ posted.log, delivery.own = false) := by
  have run : Steps (channelStep plainEnv 1 · · = some ·) { sender := gateMgr, receiver := agentMgr } onePost
      posted :=
    steps_of_runAll (Option.some_get _).symm
  refine ⟨by decide +kernel, ?_⟩
  exact (messages_attributed_iff (by decide) (by decide) gate_started agent_started rfl rfl rfl rfl run).2.2.2

def polled : ChannelWorld Unit :=
  (runAll (channelStep plainEnv 1) { sender := gateMgr, receiver := agentMgr } (onePost ++ [.poll])).get
    (by decide +kernel)

/-- The agent reads the message of the gate, ascribes it to the number 0 and gives it to nobody,
although it has a handler for its channel to the gate, which has the number 1. -/
theorem post_ascribed_to_zero :
    (initProxy plainEnv gateContext = some (0, gateMgr) ∧ initProxy plainEnv agentContext = some (0, agentMgr) ∧
      (agentMgr.getChannel 1).map (·.idName) = some (ascii "gate:1")) ∧
    Steps (channelStep plainEnv 1 · · = some ·) { sender := gateMgr, receiver := agentMgr } (onePost ++ [.poll])
      polled ∧
    polled.log.map (fun delivery => (delivery.own, delivery.msg.iSrc, delivery.handled.isSome,
      (delivery.subs.findHandler 1).isSome)) = [(true, 0, false, true)] ∧
    ¬ polled.Attributed 1 := by
  have log : polled.log.map (fun delivery => (delivery.own, delivery.msg.iSrc, delivery.handled.isSome,
      (delivery.subs.findHandler 1).isSome)) = [(true, 0, false, true)] := by decide +kernel
  refine ⟨⟨gate_started, agent_started, by decide +kernel⟩, steps_of_runAll (Option.some_get _).symm, log, ?_⟩
  intro attributed
  have member : (true, (0 : Int), false, true) ∈ polled.log.map (fun delivery => (delivery.own, delivery.msg.iSrc,
      delivery.handled.isSome, (delivery.subs.findHandler 1).isSome)) := by
    rw [log]
    exact List.mem_singleton_self _
  obtain ⟨delivery, isLogged, equal⟩ := List.mem_map.mp member
  simp only [Prod.mk.injEq] at equal
  obtain ⟨own, source, _⟩ := equal
  have ascribed := (attributed delivery isLogged own).1
  rw [source] at ascribed
  cases ascribed

end Playground.Channel
