import Playground.Player.Handlers

/-! Whom the events reach that a player's own logics raise. -/

namespace Playground.Player

open Component Transition

variable {Player : Type}

structure Keyed (env : EventEnv Player) (world : EventWorld Player) : Prop where
  online : ∀ {role player}, world.online role = some player → env.rid player = role
  cached : ∀ {role player}, world.center.mpPlayerAgents role = some player → env.rid player = role

/-- An event of a player that is online reaches this player if and only if its parameter is
the player's role id. -/
def Raised.Routed (env : EventEnv Player) (entry : Raised Player) : Prop :=
  entry.online → (entry.notified = some entry.raiser ↔ entry.ulParam = env.rid entry.raiser)

structure Routing (env : EventEnv Player) (world : EventWorld Player) : Prop where
  keyed : Keyed env world
  routed : ∀ entry ∈ world.raised, entry.Routed env

section Routing

variable {env : EventEnv Player} {world next : EventWorld Player} {call : FireCall Player}

theorem Keyed.playerOf (keyed : Keyed env world) (found : world.playerOf call = some player) :
    env.rid player = call.ulParam := by
  unfold EventWorld.playerOf at found
  split at found
  · next online =>
    cases found
    exact keyed.online online
  · split at found
    · cases found
    · exact keyed.cached found

theorem Keyed.playerOf_iff (keyed : Keyed env world)
    (online : world.online (env.rid player) = some player) :
    world.playerOf call = some player ↔ call.ulParam = env.rid player := by
  constructor
  · intro found
    exact (keyed.playerOf found).symm
  · intro same
    rw [EventWorld.playerOf, same, online]

theorem Routing.cache (routing : Routing env world) (role : UInt64) (player : Option Player)
    (owner : ∀ cached, player = some cached → env.rid cached = role) :
    Routing env (world.cache role player) := by
  refine ⟨⟨routing.keyed.online, ?_⟩, routing.routed⟩
  intro key cached found
  by_cases same : key = role
  · subst same
    exact owner cached (by simpa [EventWorld.cache] using found)
  · exact routing.keyed.cached (by simpa [EventWorld.cache, same] using found)

theorem Routing.generateDelayEvent (routing : Routing env world)
    (delayed : world.generateDelayEvent call = some result) : Routing env result.1 := by
  obtain ⟨seq, _, rfl⟩ := Option.map_eq_some_iff.mp delayed
  exact ⟨⟨routing.keyed.online, routing.keyed.cached⟩, routing.routed⟩

variable [DecidableEq Player]

theorem Routing.detached : Detached (Routing env) where
  modify _ _ _ routing := ⟨⟨routing.keyed.online, routing.keyed.cached⟩, routing.routed⟩
  update _ routing := ⟨⟨routing.keyed.online, routing.keyed.cached⟩, routing.routed⟩

theorem Routing.note (routing : Routing env world)
    (actual : call.raiser.isSome → notified = world.playerOf call) :
    Routing env (world.note env call notified) := by
  unfold EventWorld.note
  split
  · exact routing
  · next raiser raised =>
    refine ⟨⟨routing.keyed.online, routing.keyed.cached⟩, ?_⟩
    intro entry member
    rcases List.mem_cons.mp member with rfl | old
    · intro online
      show notified = some raiser ↔ call.ulParam = env.rid raiser
      rw [actual (by simp [raised])]
      exact routing.keyed.playerOf_iff (of_decide_eq_true online)
    · exact routing.routed entry old

theorem Routing.fireEvent {nested : Nested Player} (keeps : nested.Keeps (Routing env))
    (plain : call.Plain) (fired : fireEvent env nested world call = some result) (routing : Routing env world) :
    Routing env result.1 := by
  refine fireEvent_keeps Routing.detached keeps plain ?_ ?_ ?_ ?_ fired
  · intro lost
    exact routing.note fun raised => (lost raised).symm
  · intro player found _
    exact routing.note fun _ => found.symm
  · intro player found _ delayed
    have owner : ∀ cached, some player = some cached → env.rid cached = call.ulParam := by
      rintro cached same
      cases same
      exact routing.keyed.playerOf found
    exact (routing.cache call.ulParam (some player) owner).generateDelayEvent delayed
  · intro _ world routing
    exact routing.cache call.ulParam none nofun

theorem Routing.fireAt (env : EventEnv Player) (depth : Nat) : (fireAt env depth).Keeps (Routing env) := by
  apply fireAt_keeps
  intro nested keeps world call next _ plain fired routing
  exact routing.fireEvent keeps plain fired

variable [Fintype Player]

theorem Routing.fire (plain : call.Plain) (fired : fire env world call = some result)
    (routing : Routing env world) : Routing env result.1 :=
  routing.fireEvent (Routing.fireAt env _) plain fired

end Routing

section Runs

variable [DecidableEq Player] [Fintype Player] {env : EventEnv Player} {world next : EventWorld Player}

theorem Routing.expire (expired : onDelayTimerExpired env world iEventCode seq = some next)
    (routing : Routing env world) : Routing env next := by
  unfold onDelayTimerExpired at expired
  dsimp only at expired
  split at expired
  · obtain ⟨result, fired, rfl⟩ := Option.map_eq_some_iff.mp expired
    refine Routing.fire (by simp [FireCall.Plain]) fired ?_
    exact ⟨⟨routing.keyed.online, routing.keyed.cached⟩, routing.routed⟩
  · cases expired
    exact routing

theorem Routing.step (stepped : CenterStep env world event next) (routing : Routing env world) :
    Routing env next := by
  have keeps : Nested.Keeps (Routing env) (Playground.Player.fire env) := by
    intro world call next _ plain fired routing
    exact routing.fire plain fired
  cases event with
  | session role player =>
    rw [CenterStep, centerStep] at stepped
    split at stepped
    · next owner =>
      cases stepped
      refine ⟨⟨?_, routing.keyed.cached⟩, routing.routed⟩
      intro key found online
      by_cases same : key = role
      · subst same
        obtain rfl : player = some found := by simpa using online
        simpa using owner
      · exact routing.keyed.online (by simpa [same] using online)
    · cases stepped
  | attach player => exact syncLater_keeps Routing.detached keeps stepped routing
  | detach player =>
    cases stepped
    exact ⟨⟨routing.keyed.online, routing.keyed.cached⟩, routing.routed⟩
  | knapsack player call => exact knapsackCall_keeps Routing.detached keeps stepped routing
  | fire iEventCode receiver secondsLater ulParam =>
    obtain ⟨result, fired, rfl⟩ := Option.map_eq_some_iff.mp stepped
    exact routing.fire (by simp [FireCall.Plain]) fired
  | clock now =>
    cases stepped
    exact ⟨⟨routing.keyed.online, routing.keyed.cached⟩, routing.routed⟩
  | expire id =>
    obtain ⟨event, _, due⟩ := Option.bind_eq_some_iff.mp stepped
    split at due
    · refine Routing.expire due ?_
      exact ⟨⟨routing.keyed.online, routing.keyed.cached⟩, routing.routed⟩
    · cases due

/-- An event that a player's package or task logic raises while the player is online
reaches this player, and then nobody else, if and only if the parameter that the logic passes
is the player's role id. -/
theorem own_event_delivered_iff {now : MsTime} {players : Player → PlayerState}
    (run : Steps (CenterStep env) (.init now players) events world) (raised : entry ∈ world.raised)
    (online : entry.online) :
    entry.notified = some entry.raiser ↔ entry.ulParam = env.rid entry.raiser := by
  have start : Routing env (.init now players) := ⟨⟨nofun, nofun⟩, nofun⟩
  exact (run.invariant Routing.step start).routed entry raised online

end Runs

/-- Two players of area 1: account 7, and account 0, whose role id has only the area in it. -/
def twoRoles : EventEnv (Fin 2) where
  rid player := if player = 0 then eventParam 1 7 else eventParam 1 0

def putItemEvents (player : Fin 2) (id : UInt32) : List (CenterEvent (Fin 2)) :=
  [.session (eventParam 1 7) (some 0), .session (eventParam 1 0) (some 1),
    .knapsack player (.putItem { id } 1)]

def twoPlayers : EventWorld (Fin 2) := .init zeroTime fun _ => {}

/-- Account 0 adds item 1: the parameter happens to be its role id. -/
def luckyWorld : EventWorld (Fin 2) :=
  (runAll (centerStep twoRoles) twoPlayers (putItemEvents 1 1)).get (by decide +kernel)

theorem own_event_delivered_iff_lucky :
    ∃ entry ∈ luckyWorld.raised, entry.online = true ∧ entry.notified = some entry.raiser := by
  have run : Steps (CenterStep twoRoles) twoPlayers (putItemEvents 1 1) luckyWorld :=
    steps_of_runAll (Option.some_get _).symm
  have raised : luckyWorld.raised =
      [{ raiser := 1, iEventCode := eventPlayerItemAdd, ulParam := eventParam 1 0, online := true
         notified := some 1 }] := by decide +kernel
  have member : _ ∈ luckyWorld.raised := raised ▸ List.mem_singleton_self _
  exact ⟨_, member, rfl, (own_event_delivered_iff run member rfl).mpr rfl⟩

/-- Account 7 adds item 1 and account 0 is notified of it; it adds item 2 and nobody is. -/
theorem item_event_goes_astray :
    (runAll (centerStep twoRoles) twoPlayers (putItemEvents 0 1)).map (·.raised) =
        some [{ raiser := 0, iEventCode := eventPlayerItemAdd, ulParam := eventParam 1 0, online := true
                notified := some 1 }] ∧
      (runAll (centerStep twoRoles) twoPlayers (putItemEvents 0 2)).map (·.raised) =
        some [{ raiser := 0, iEventCode := eventPlayerItemAdd, ulParam := eventParam 2 0, online := true
                notified := none }] := by
  decide +kernel

end Playground.Player
