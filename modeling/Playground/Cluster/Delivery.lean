import Playground.Cluster.World

/-! Whom a message of the agent reaches. -/

namespace Playground.Cluster

open Framing Gate Zone Transition

/-- The message writes to, or closes, the connection it names, if that is its account's. -/
def MeantFor (gate : GateServerHandler) (ggc : GateSSMsg) : Effect → Prop
  | .write slot _ =>
    ggc.event = .data ∧ slot = ggc.idx ∧
      (gate.vecConnections slot).bState = .authorized ∧ (gate.vecConnections slot).ulUid = ggc.uid
  | .close slot =>
    ggc.event = .close ∧ slot = ggc.idx ∧
      (gate.vecConnections slot).bState = .authorized ∧ (gate.vecConnections slot).ulUid = ggc.uid
  | .closeClient _ => False
  | .accepted _ _ | .message _ _ | .report _ _ _ _ => True

/-- The message reached nobody but the account it was meant for. -/
def Delivered (gate : GateServerHandler) (ggc : GateSSMsg) (after : GateServerHandler) : Prop :=
  ∃ effects, after.out = effects ++ gate.out ∧ ∀ effect ∈ effects, MeantFor gate ggc effect

/-- Slot `i` still stands for the account: for a session, a coroutine, or a message under way. -/
def World.Refers (setup : Setup) (world : World) (i : Nat) (uid : UInt64) : Prop :=
  world.agent.Targets i uid ∨ world.gate.table.Announces setup.agentChannel i uid ∨
    ∃ post ∈ world.agent.posted setup.gateChannel, post.1.idx = i ∧ post.1.uid = uid

/-- The event is an accept into a slot that still stands for an account. -/
def Reuses (setup : Setup) (world : World) (event : WorldEvent) : Prop :=
  ∃ client i uid, event = .gate (.newConnection client) ∧ (world.gate.countAlive 1).getNextIdx = some i ∧
    world.Refers setup i uid

/-- A slot that stands for an account reaches nobody else. -/
structure World.Reserved (setup : Setup) (world : World) : Prop where
  sound : world.Sound
  held : ∀ {i uid}, world.Refers setup i uid → (world.gate.table.slots i).HeldBy uid

variable {setup : Setup} {world next : World} {event : WorldEvent}

theorem reserved_start : (setup.start iMaxConnections curMsTime junk).Reserved setup where
  sound := sound_start
  held _ := .inl rfl

theorem Moves.refers_gate (acted : StepActs setup.gateEnv world.gate ev acts next.gate)
    (mapped : world.gate.table.Mapped) (agent : next.agent = { world.agent with posted })
    (fewer : ∀ channel, ∀ post ∈ posted channel, post ∈ world.agent.posted channel)
    (refers : next.Refers setup i uid) :
    world.Refers setup i uid ∨ (next.gate.table.slots i).Authenticated uid := by
  unfold World.Refers at refers
  rw [agent] at refers
  rcases refers with targets | announced | ⟨post, member, same⟩
  · exact .inl (.inl targets)
  · exact (acted.announces mapped announced).imp_left fun before => .inr (.inl before)
  · exact .inl (.inr (.inr ⟨post, fewer _ post member, same⟩))

theorem Moves.refers_agent (call : event.agentCall setup world = some ev)
    (takes : Takes setup.zoneEnv world.agent ev next.agent) (sound : world.agent.Sound)
    (gate : next.gate = { world.gate with posted })
    (fewer : ∀ channel, ∀ post ∈ posted channel, post ∈ world.gate.posted channel)
    (refers : next.Refers setup i uid) : world.Refers setup i uid := by
  have connecting : ev.Connecting i uid → world.Refers setup i uid :=
    fun connecting => .inr (.inl (announces_of_connecting call connecting))
  rcases refers with targets | ⟨post, member, connected⟩ | ⟨post, member, rfl, rfl⟩
  · exact (takes.targets sound targets).elim .inl connecting
  · rw [gate] at member
    exact .inr (.inl ⟨post, fewer _ post member, connected⟩)
  · rcases takes.posted sound member with before | targets | connects
    · exact .inr (.inr ⟨post, before, rfl, rfl⟩)
    · exact .inl targets
    · exact connecting connects

theorem World.Reserved.move (reserved : world.Reserved setup) (fresh : ¬ Reuses setup world event)
    (moves : Moves setup world event next) : next.Reserved setup := by
  refine ⟨moves.sound reserved.sound, fun {i uid} refers => ?_⟩
  cases moves with
  | @gate ev call stepped posted agent fewer =>
    obtain ⟨acts, acted⟩ := step_acts reserved.sound.idle stepped
    rcases Moves.refers_gate acted reserved.sound.mapped agent fewer refers with before | authenticated
    · refine acted.heldBy (reserved.held before) ?_
      rintro client rfl taken
      exact fresh ⟨client, i, uid, newConnection_of_gateCall call, taken, before⟩
    · exact .inr authenticated
  | agent call stepped posted gate fewer =>
    rw [gate]
    have takes := zoneStep_takes stepped
    exact reserved.held (Moves.refers_agent call takes reserved.sound.agent gate fewer refers)

private theorem dispatchMessage_delivered (env : Env) (csmsg : Bytes) {gate : GateServerHandler} {ggc : GateSSMsg}
    (held : (gate.table.slots ggc.idx).HeldBy ggc.uid) :
    Delivered gate ggc (gate.dispatchMessage env ggc csmsg).1 := by
  have silent : ∀ {after : GateServerHandler}, after = gate → Delivered gate ggc after := by
    rintro after rfl
    exact ⟨[], rfl, by simp⟩
  rcases StepActs.dispatchMessage_acts env gate ggc csmsg with
    ⟨_, same⟩ | ⟨found, ⟨event, same⟩ | ⟨event, sends⟩ | ⟨_, same⟩⟩
  · exact silent same
  · obtain ⟨_, _, _, live⟩ := Table.byIdx_some found
    obtain ⟨authorized, account⟩ := held.resolve_left live
    have removed := GateServerHandler.table_removeConnection env gate ggc.idx (ggc.reason.getD 0) live
    have log := congrArg Table.log removed
    rw [Table.remove_log] at log
    rw [same]
    refine ⟨[.close ggc.idx, _], log, ?_⟩
    simp only [List.forall_mem_cons]
    exact ⟨⟨event, rfl, authorized, account⟩, trivial, by simp⟩
  · obtain ⟨_, _, _, live⟩ := Table.byIdx_some found
    obtain ⟨authorized, account⟩ := held.resolve_left live
    obtain ⟨written, wrote⟩ := sends.writes
    refine ⟨written.map (Effect.write ggc.idx), congrArg Table.log wrote, fun effect member => ?_⟩
    obtain ⟨bytes, _, rfl⟩ := List.mem_map.mp member
    exact ⟨event, rfl, authorized, account⟩
  · exact silent same

/-- As long as no slot is given away that still stands for an account, every message of the
agent reaches the account it was meant for, or nobody. -/
theorem delivered_of_no_reuse
    (run : Steps (GuardedStep setup fun world event => ¬ Reuses setup world event)
      (setup.start iMaxConnections curMsTime junk) events world)
    (waiting : world.agent.posted setup.gateChannel = (ggc, csmsg) :: rest)
    (stepped : worldStep setup world .toGate = some next) : Delivered world.gate ggc next.gate := by
  have keeps : ∀ {world event next},
      GuardedStep setup (fun world event => ¬ Reuses setup world event) world event next →
      world.Reserved setup → next.Reserved setup :=
    fun stepped reserved => reserved.move stepped.2 (worldStep_moves stepped.1)
  have reserved : world.Reserved setup := run.invariant keeps reserved_start
  have refers : world.Refers setup ggc.idx ggc.uid :=
    .inr (.inr ⟨(ggc, csmsg), by simp [waiting], rfl, rfl⟩)
  obtain ⟨call, called, ran⟩ := Option.bind_eq_some_iff.mp stepped
  obtain ⟨gate, taken, rfl⟩ := Option.map_eq_some_iff.mp ran
  simp only [WorldEvent.gateCall, waiting, List.head?_cons, Option.map_some, Option.some.injEq] at called
  subst called
  cases taken
  exact dispatchMessage_delivered setup.gateEnv csmsg (reserved.held refers)

def roleLoaded : WorldEvent :=
  .answer { id := 0, kind := .getRole, session := 0, uid := getRoleID 7 1 } dataOk

/-- Account 7 authenticates on socket 5, its role is loaded, and it sends a command that the
agent answers. -/
def conversation : List WorldEvent :=
  [.gate (.clientDataRecv 5 [0, 2, 7, 1]), .toAgent, roleLoaded, .gate (.clientDataRecv 5 [0, 1, 2]), .toAgent]

def answeredWorld : World :=
  (runAll (worldStep soleSetup) acceptedWorld conversation).get (by decide +kernel)

theorem answeredWorld_steps : Steps (WorldStep soleSetup) acceptedWorld conversation answeredWorld :=
  steps_of_runAll (Option.some_get _).symm

def answer : GateSSMsg := { event := .data, idx := 1, uid := 7, area := 1 }

def receivedWorld : World := (worldStep soleSetup answeredWorld .toGate).get (by decide +kernel)

theorem delivered_of_no_reuse_received :
    Effect.write 1 [2] ∈ receivedWorld.gate.out ∧ Delivered answeredWorld.gate answer receivedWorld.gate := by
  have nobody : ¬ Reuses soleSetup soleStart (.gate (.newConnection { fd := 5 })) := by
    rintro ⟨_, i, uid, _, _, ⟨s, seated | ⟨req, member, _⟩, _⟩ | ⟨post, member, _⟩ | ⟨post, member, _⟩⟩
    · obtain ⟨⟨zone, uid, found⟩, _⟩ := seated
      cases found
    all_goals cases member
  have others : ∀ event ∈ conversation, ∀ client, event ≠ .gate (.newConnection client) := by
    simp [conversation, roleLoaded]
  have quiet := (answeredWorld_steps.restrict others).mono fun {world event next} stepped =>
    (⟨stepped.1, fun ⟨client, _, _, same, _⟩ => stepped.2 client same⟩ :
      GuardedStep soleSetup (fun world event => ¬ Reuses soleSetup world event) world event next)
  have waiting : answeredWorld.agent.posted soleSetup.gateChannel = [(answer, [2])] := by decide +kernel
  have stepped : worldStep soleSetup answeredWorld .toGate = some receivedWorld := (Option.some_get _).symm
  exact ⟨by decide +kernel, delivered_of_no_reuse (.cons ⟨acceptedWorld_step, nobody⟩ quiet) waiting stepped⟩

/-- Socket 5 is closed, and socket 6 gets its slot and authenticates as account 8. -/
def takeover : List WorldEvent :=
  [.gate (.connectionClosed 5), .gate (.newConnection { fd := 6 }), .gate (.clientDataRecv 6 [0, 2, 8, 1])]

def reusedWorld : World := (runAll (worldStep soleSetup) answeredWorld takeover).get (by decide +kernel)

def misdeliveredWorld : World := (worldStep soleSetup reusedWorld .toGate).get (by decide +kernel)

/-- The answer to account 7 is written to the connection of account 8. -/
theorem answer_reaches_other_account :
    (∃ events, Steps (WorldStep soleSetup) soleStart events reusedWorld) ∧
      reusedWorld.agent.posted 3 = [(answer, [2])] ∧ (reusedWorld.gate.vecConnections 1).ulUid = 8 ∧
      worldStep soleSetup reusedWorld .toGate = some misdeliveredWorld ∧
      ¬ Delivered reusedWorld.gate answer misdeliveredWorld.gate := by
  have reuses : Steps (WorldStep soleSetup) answeredWorld takeover reusedWorld :=
    steps_of_runAll (Option.some_get _).symm
  refine ⟨⟨_, .cons acceptedWorld_step (answeredWorld_steps.append reuses)⟩, by decide +kernel,
    by decide +kernel, (Option.some_get _).symm, ?_⟩
  rintro ⟨effects, out, meant⟩
  have written : misdeliveredWorld.gate.out = [.write 1 [2], .write 1 [0, 1]] ++ reusedWorld.gate.out := by
    decide +kernel
  have same : [.write 1 [2], .write 1 [0, 1]] = effects := List.append_cancel_right (written.symm.trans out)
  obtain ⟨_, _, _, account⟩ := meant (.write 1 [2]) (by simp [← same])
  exact absurd account (by decide +kernel)

end Playground.Cluster
