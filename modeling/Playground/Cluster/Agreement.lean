import Playground.Cluster.World

/-! Whether gate and agent agree on who is connected. -/

namespace Playground.Cluster

open Framing Gate Zone Transition

/-- A close event that `StopSession` will accept for the session is under way. -/
def World.Closing (setup : Setup) (world : World) (s : Nat) : Prop :=
  ∃ post ∈ world.gate.posted setup.agentChannel, post.1.event = .close ∧
    post.1.area = (world.agent.sessions s).zone ∧ roleOf post.1 = (world.agent.sessions s).uid ∧
    post.1.idx = (world.agent.sessions s).idx ∧ (world.agent.sessions s).gate = setup.gateChannel

def World.Connected (world : World) (s : Nat) : Prop :=
  (world.gate.vecConnections (world.agent.sessions s).idx).bState ≠ .invalid ∧
    (world.gate.vecConnections (world.agent.sessions s).idx).ulUid = (world.agent.sessions s).accountid

/-- Gate and agent agree on every session that is in a map and not kicked. -/
def World.Agreement (setup : Setup) (world : World) : Prop :=
  ∀ zone uid s, world.agent.mpSessions zone uid = some s → (world.agent.sessions s).state ≠ .kicking →
    world.Connected s ∨ world.Closing setup s

/-- A session that is not kicked is bound to slot `i`, or its connect event is under way. -/
def World.Counted (setup : Setup) (world : World) (i : Nat) : Prop :=
  (∃ s, world.agent.Seated s ∧ (world.agent.sessions s).idx = i) ∨
    ∃ uid, world.gate.table.Announces setup.agentChannel i uid

/-- The event removes no connection the agent counts on, and is no answer that brings a
kicked session back. -/
def Respects (setup : Setup) (world : World) (event : WorldEvent) : Prop :=
  (∀ ev, event.gateCall setup world = some ev → ∀ i, world.Counted setup i →
      ¬ Removes setup.gateEnv world.gate i ev) ∧
    ∀ ev, event.agentCall setup world = some ev → ¬ Awakens world.agent ev

/-- Every connection the agent counts on is authenticated as the account it counts on. -/
structure World.Agrees (setup : Setup) (world : World) : Prop where
  sound : world.Sound
  seated : ∀ {s}, world.agent.Seated s →
    (world.gate.table.slots (world.agent.sessions s).idx).Authenticated (world.agent.sessions s).accountid
  announced : ∀ {i uid}, world.gate.table.Announces setup.agentChannel i uid →
    (world.gate.table.slots i).Authenticated uid

variable {setup : Setup} {world next : World} {event : WorldEvent}

theorem agrees_start : (setup.start iMaxConnections curMsTime junk).Agrees setup where
  sound := sound_start
  seated := by
    rintro s ⟨⟨zone, uid, found⟩, _⟩
    cases found
  announced := by
    rintro i uid ⟨post, member, _⟩
    cases member

theorem respects_toAgent : Respects setup world .toAgent := by
  refine ⟨fun ev call => (nomatch call), fun ev call => ?_⟩
  obtain ⟨post, _, rfl⟩ := Option.map_eq_some_iff.mp call
  exact id

theorem respects_accept : Respects setup world (.gate (.newConnection client)) := by
  refine ⟨fun ev call => ?_, fun ev call => nomatch call⟩
  cases call
  exact fun _ _ => id

theorem World.Agrees.move (agrees : world.Agrees setup) (respects : Respects setup world event)
    (moves : Moves setup world event next) : next.Agrees setup := by
  have sound := moves.sound agrees.sound
  cases moves with
  | gate call stepped posted agent fewer =>
    obtain ⟨acts, acted⟩ := step_acts agrees.sound.idle stepped
    refine ⟨sound, ?_, ?_⟩
    · rw [agent]
      intro s seated
      have before : world.agent.Seated s := seated
      exact acted.authenticated (agrees.seated before) (respects.1 _ call _ (.inl ⟨s, before, rfl⟩))
    · intro i uid announced
      rcases acted.announces agrees.sound.mapped announced with before | new
      · exact acted.authenticated (agrees.announced before) (respects.1 _ call i (.inr ⟨uid, before⟩))
      · exact new
  | agent call stepped posted gate fewer =>
    have slots : next.gate.table.slots = world.gate.table.slots := by
      rw [gate]
      rfl
    refine ⟨sound, ?_, ?_⟩
    · intro s seated
      rw [slots]
      rcases (zoneStep_takes stepped).seated agrees.sound.agent seated with
        ⟨before, same⟩ | connecting | ⟨awakens, _⟩
      · have idx := congrArg Binding.idx same
        have account := congrArg Binding.accountid same
        simp only [Session.binding] at idx account
        rw [idx, account]
        exact agrees.seated before
      · exact agrees.announced (announces_of_connecting call connecting)
      · exact absurd awakens (respects.2 _ call)
    · rintro i uid ⟨post, member, connected⟩
      rw [slots]
      rw [gate] at member
      exact agrees.announced ⟨post, fewer _ post member, connected⟩

/-- As long as no connection the agent counts on is removed and no kicked session is brought
back, gate and agent agree; once all messages are delivered, every session that is not kicked
has its connection. -/
theorem agreement_of_respects
    (run : Steps (GuardedStep setup (Respects setup)) (setup.start iMaxConnections curMsTime junk)
      events world) :
    world.Agreement setup ∧ (world.gate.posted setup.agentChannel = [] → ∀ zone uid s,
      world.agent.mpSessions zone uid = some s → (world.agent.sessions s).state ≠ .kicking →
        world.Connected s) := by
  have keeps : ∀ {world event next}, GuardedStep setup (Respects setup) world event next →
      world.Agrees setup → next.Agrees setup :=
    fun stepped agrees => agrees.move stepped.2 (worldStep_moves stepped.1)
  have agrees : world.Agrees setup := run.invariant keeps agrees_start
  have connected : ∀ zone uid s, world.agent.mpSessions zone uid = some s →
      (world.agent.sessions s).state ≠ .kicking → world.Connected s := by
    intro zone uid s found live
    obtain ⟨authorized, account⟩ := agrees.seated ⟨⟨zone, uid, found⟩, live⟩
    refine ⟨fun invalid => ?_, account⟩
    cases authorized.symm.trans invalid
  exact ⟨fun zone uid s found live => .inl (connected zone uid s found live), fun _ => connected⟩

def admittedWorld : World :=
  (worldStep soleSetup acceptedWorld (.gate (.clientDataRecv 5 [0, 2, 7, 1]))).get (by decide +kernel)

theorem admittedWorld_step :
    worldStep soleSetup acceptedWorld (.gate (.clientDataRecv 5 [0, 2, 7, 1])) = some admittedWorld :=
  (Option.some_get _).symm

def arrivedWorld : World := (worldStep soleSetup admittedWorld .toAgent).get (by decide +kernel)

theorem arrivedWorld_step :
    worldStep soleSetup admittedWorld .toAgent = some arrivedWorld := (Option.some_get _).symm

theorem agreement_of_respects_arrived :
    arrivedWorld.agent.mpSessions 1 (getRoleID 7 1) = some 0 ∧ arrivedWorld.Connected 0 := by
  have uncounted : ∀ i, ¬ acceptedWorld.Counted soleSetup i := by
    rintro i (⟨s, ⟨⟨zone, uid, found⟩, _⟩, _⟩ | ⟨uid, post, member, _⟩)
    · cases found
    · have empty : acceptedWorld.gate.posted soleSetup.agentChannel = [] := by decide +kernel
      have member : post ∈ acceptedWorld.gate.posted soleSetup.agentChannel := member
      simp [empty] at member
  have admits : Respects soleSetup acceptedWorld (.gate (.clientDataRecv 5 [0, 2, 7, 1])) :=
    ⟨fun ev call i counted => absurd counted (uncounted i), fun ev call => nomatch call⟩
  have run : Steps (GuardedStep soleSetup (Respects soleSetup)) soleStart _ arrivedWorld :=
    .cons ⟨acceptedWorld_step, respects_accept⟩ (.cons ⟨admittedWorld_step, admits⟩
      (.single ⟨arrivedWorld_step, respects_toAgent⟩))
  have entered : arrivedWorld.agent.mpSessions 1 (getRoleID 7 1) = some 0 := by decide +kernel
  exact ⟨entered, (agreement_of_respects run).2 (by decide +kernel) _ _ 0 entered (by decide +kernel)⟩

def departure : List WorldEvent := [.gate (.connectionClosed 5), .toAgent]

def leftWorld : World := (runAll (worldStep soleSetup) arrivedWorld departure).get (by decide +kernel)

/-- A login, the client's close and the delivery of both events: no message is left, slot 1
is free, and the agent still holds the session that is bound to it. -/
theorem session_survives_close :
    (∃ events, Steps (WorldStep soleSetup) soleStart events leftWorld) ∧
      leftWorld.gate.posted soleSetup.agentChannel = [] ∧
      leftWorld.agent.posted soleSetup.gateChannel = [] ∧ ¬ leftWorld.Agreement soleSetup := by
  have arrived : Steps (WorldStep soleSetup) soleStart _ arrivedWorld :=
    .cons acceptedWorld_step (.cons admittedWorld_step (.single arrivedWorld_step))
  have left : Steps (WorldStep soleSetup) arrivedWorld departure leftWorld :=
    steps_of_runAll (Option.some_get _).symm
  have delivered : leftWorld.gate.posted soleSetup.agentChannel = [] := by decide +kernel
  refine ⟨⟨_, arrived.append left⟩, delivered, by decide +kernel, ?_⟩
  intro agreement
  have entered : leftWorld.agent.mpSessions 1 (getRoleID 7 1) = some 0 := by decide +kernel
  rcases agreement _ _ 0 entered (by decide +kernel) with connected | ⟨post, member, _⟩
  · exact connected.1 (by decide +kernel)
  · simp [delivered] at member

end Playground.Cluster
