import Playground.Gate.Holder
import Playground.Gate.Safety
import Playground.Zone.Targets

/-! One gate, one zone agent and the two queues between them. -/

namespace Playground.Cluster

open Framing Gate Zone Transition

/-- The configurations of the two processes, and the channels on which they reach each other. -/
structure Setup where
  gateEnv : Env
  zoneEnv : ZoneEnv
  agentChannel : Int
  gateChannel : Int

structure World where
  gate : GateServerHandler
  agent : ZoneAgentMgr

/-- A call of the gate from outside, the delivery of a message, or an answer of the database. -/
inductive WorldEvent where
  | gate (ev : Event)
  | toAgent
  | toGate
  | answer (req : Request) (ret : Int)
deriving DecidableEq

def dequeue (posted : Int → List Envelope) (channel : Int) : Int → List Envelope :=
  Function.update posted channel (posted channel).tail

/-- The call of the gate that an event is; messages of the agent come from its queue only. -/
def WorldEvent.gateCall (setup : Setup) (world : World) : WorldEvent → Option Event
  | .gate (.agentMessage _ _) => none
  | .gate ev => some ev
  | .toGate => (world.agent.posted setup.gateChannel).head?.map fun post => .agentMessage post.1 post.2
  | .toAgent | .answer _ _ => none

def WorldEvent.agentCall (setup : Setup) (world : World) : WorldEvent → Option ZoneEvent
  | .toAgent =>
    (world.gate.posted setup.agentChannel).head?.map fun post => .gateMessage setup.gateChannel post.1 post.2
  | .answer req ret => some (.response req ret)
  | .gate _ | .toGate => none

/-- One event of either process; `none` where there is no message, or the process has no step. -/
def worldStep (setup : Setup) (world : World) (event : WorldEvent) : Option World :=
  match event with
  | .gate _ => (event.gateCall setup world).bind fun ev =>
      (step setup.gateEnv world.gate ev).map fun gate => { world with gate }
  | .toGate => (event.gateCall setup world).bind fun ev =>
      (step setup.gateEnv world.gate ev).map fun gate =>
        { gate, agent := { world.agent with posted := dequeue world.agent.posted setup.gateChannel } }
  | .toAgent => (event.agentCall setup world).bind fun ev =>
      (zoneStep setup.zoneEnv world.agent ev).map fun agent =>
        { agent, gate := { world.gate with posted := dequeue world.gate.posted setup.agentChannel } }
  | .answer req ret =>
    (zoneStep setup.zoneEnv world.agent (.response req ret)).map fun agent => { world with agent }

def WorldStep (setup : Setup) (world : World) (event : WorldEvent) (next : World) : Prop :=
  worldStep setup world event = some next

def GuardedStep (setup : Setup) (allowed : World → WorldEvent → Prop) (world : World) (event : WorldEvent)
    (next : World) : Prop :=
  WorldStep setup world event next ∧ allowed world event

def Setup.start (setup : Setup) (iMaxConnections : Nat) (curMsTime : UInt64) (junk : Nat → UInt32) :
    World where
  gate := .init setup.gateEnv iMaxConnections curMsTime junk
  agent := {}

variable {setup : Setup} {world next : World} {event : WorldEvent}

private theorem mem_of_mem_dequeue (member : post ∈ dequeue posted taken channel) : post ∈ posted channel := by
  unfold dequeue at member
  by_cases same : channel = taken
  · subst same
    rw [Function.update_self] at member
    exact List.mem_of_mem_tail member
  · rwa [Function.update_of_ne same] at member

/-- A step is a step of one process; the other one at most loses a message it had sent. -/
inductive Moves (setup : Setup) (world : World) (event : WorldEvent) (next : World) : Prop where
  | gate (call : event.gateCall setup world = some ev)
      (stepped : step setup.gateEnv world.gate ev = some next.gate)
      (posted : Int → List Envelope) (agent : next.agent = { world.agent with posted })
      (fewer : ∀ channel, ∀ post ∈ posted channel, post ∈ world.agent.posted channel)
  | agent (call : event.agentCall setup world = some ev)
      (stepped : zoneStep setup.zoneEnv world.agent ev = some next.agent)
      (posted : Int → List Envelope) (gate : next.gate = { world.gate with posted })
      (fewer : ∀ channel, ∀ post ∈ posted channel, post ∈ world.gate.posted channel)

theorem worldStep_moves (stepped : worldStep setup world event = some next) :
    Moves setup world event next := by
  cases event with
  | gate ev =>
    obtain ⟨call, called, ran⟩ := Option.bind_eq_some_iff.mp stepped
    obtain ⟨gate, taken, rfl⟩ := Option.map_eq_some_iff.mp ran
    exact .gate called taken world.agent.posted rfl fun _ _ => id
  | toGate =>
    obtain ⟨call, called, ran⟩ := Option.bind_eq_some_iff.mp stepped
    obtain ⟨gate, taken, rfl⟩ := Option.map_eq_some_iff.mp ran
    exact .gate called taken _ rfl fun _ _ => mem_of_mem_dequeue
  | toAgent =>
    obtain ⟨call, called, ran⟩ := Option.bind_eq_some_iff.mp stepped
    obtain ⟨agent, taken, rfl⟩ := Option.map_eq_some_iff.mp ran
    exact .agent called taken _ rfl fun _ _ => mem_of_mem_dequeue
  | answer req ret =>
    obtain ⟨agent, taken, rfl⟩ := Option.map_eq_some_iff.mp stepped
    exact .agent rfl taken world.gate.posted rfl fun _ _ => id

structure World.Sound (world : World) : Prop where
  idle : world.gate.Idle
  mapped : world.gate.table.Mapped
  agent : world.agent.Sound

theorem sound_start : (setup.start iMaxConnections curMsTime junk).Sound where
  idle := idle_init _ _ _ _
  mapped := (sound_init setup.gateEnv iMaxConnections curMsTime junk).mapped
  agent := Zone.sound_start

theorem Moves.sound (moves : Moves setup world event next) (sound : world.Sound) : next.Sound := by
  cases moves with
  | gate call stepped posted agent fewer =>
    obtain ⟨acts, acted⟩ := step_acts sound.idle stepped
    have keeps : ∀ {table act next}, ActStep setup.gateEnv table act next → table.Mapped → next.Mapped :=
      fun stepped mapped => mapped.step stepped
    exact ⟨acted.idle, acted.steps.invariant keeps sound.mapped,
      agent ▸ ⟨sound.agent.mapped, sound.agent.asked, sound.agent.sorted, sound.agent.called⟩⟩
  | agent call stepped posted gate fewer =>
    refine ⟨?_, ?_, (zoneStep_takes stepped).sound sound.agent⟩
    · rw [gate]
      exact sound.idle
    · rw [gate]
      exact sound.mapped

theorem announces_of_connecting (call : event.agentCall setup world = some ev)
    (connecting : ev.Connecting i uid) : world.gate.table.Announces setup.agentChannel i uid := by
  cases event with
  | toAgent =>
    obtain ⟨post, first, rfl⟩ := Option.map_eq_some_iff.mp call
    obtain ⟨connected, idx, account⟩ := connecting
    exact ⟨post, List.mem_of_mem_head? first, connected, idx, account⟩
  | answer req ret =>
    cases call
    exact connecting.elim
  | gate ev => cases call
  | toGate => cases call

theorem newConnection_of_gateCall (call : event.gateCall setup world = some (.newConnection client)) :
    event = .gate (.newConnection client) := by
  cases event with
  | gate ev =>
    cases ev with
    | newConnection other =>
      cases call
      rfl
    | _ => cases call
  | toGate =>
    obtain ⟨post, _, same⟩ := Option.map_eq_some_iff.mp call
    cases same
  | toAgent | answer => cases call

/-- The gate and the agent of one area, on channels 9 and 3; a command about a role is
answered with its number. -/
def soleSetup : Setup where
  gateEnv := soleArea
  zoneEnv := { soleZone with packRoleRsp := fun cmd _ => some [cmd.toUInt8] }
  agentChannel := 9
  gateChannel := 3

def soleStart : World := soleSetup.start 4 0 fun _ => 0

def acceptedWorld : World :=
  (worldStep soleSetup soleStart (.gate (.newConnection { fd := 5 }))).get (by decide +kernel)

theorem acceptedWorld_step :
    worldStep soleSetup soleStart (.gate (.newConnection { fd := 5 })) = some acceptedWorld :=
  (Option.some_get _).symm

end Playground.Cluster
