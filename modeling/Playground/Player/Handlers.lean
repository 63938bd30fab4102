import Playground.Player.EventCenter
import Playground.Player.Package

/-! What the handlers of a player preserve. -/

namespace Playground.Player

open Component

/-- The parameter holds an item, a position or the number of grids. -/
def KnapsackCall.Raises : KnapsackCall → RaisedEvent → Prop
  | .putItem item _, event =>
    event.iEventCode = eventPlayerItemAdd ∧ ∃ rest, event.ulParam = eventParam item.id rest
  | .removeItem id _, event =>
    (event.iEventCode = eventPlayerItemDec ∧ ∃ rest, event.ulParam = eventParam id rest) ∨
      event.iEventCode = eventPlayerRemoveGridItem ∧ ∃ pos : UInt32, event.ulParam = pos.toUInt64
  | .removeGrid pos, event => event.iEventCode = eventPlayerRemoveGridItem ∧ event.ulParam = pos.toUInt64
  | .changeMaxGrid _, event =>
    event.iEventCode = eventPlayerChangePackMaxGrid ∧
      ∃ maxgrid : UInt32, event.ulParam = maxgrid.toInt32.toInt64.toUInt64

def PlayerKnapsackLogic.FiresOnly (kind : RaisedEvent → Prop) (knapsack next : PlayerKnapsackLogic) :
    Prop :=
  ∃ events, next.fired = knapsack.fired ++ events ∧ ∀ event ∈ events, kind event

section Package

variable {kind : RaisedEvent → Prop} {knapsack next : PlayerKnapsackLogic}

namespace PlayerKnapsackLogic

theorem FiresOnly.silent (same : next.fired = knapsack.fired) : knapsack.FiresOnly kind next :=
  ⟨[], by rw [same, List.append_nil], by simp⟩

theorem FiresOnly.trans (first : knapsack.FiresOnly kind middle) (second : middle.FiresOnly kind next) :
    knapsack.FiresOnly kind next := by
  obtain ⟨early, appended, kinds⟩ := first
  obtain ⟨late, appendedLate, kindsLate⟩ := second
  refine ⟨early ++ late, by rw [appendedLate, appended, List.append_assoc], ?_⟩
  intro event member
  rcases List.mem_append.mp member with old | new
  · exact kinds event old
  · exact kindsLate event new

theorem firesOnly_fireEvent (knapsack : PlayerKnapsackLogic)
    (right : kind { iEventCode, receiver := none, ulParam }) :
    knapsack.FiresOnly kind (knapsack.fireEvent iEventCode ulParam) :=
  ⟨_, rfl, by simpa using right⟩

theorem appendGrids_fired (item : RoleItem) (fuel : Nat) (knapsack : PlayerKnapsackLogic) (num : UInt32) :
    (appendGrids item fuel knapsack num).1.fired = knapsack.fired := by
  induction fuel generalizing knapsack num with
  | zero => rfl
  | succ fuel ih =>
    rw [appendGrids]
    split
    · exact ih _ _
    · rfl

theorem removeGrid_firesOnly (knapsack : PlayerKnapsackLogic) (pos : UInt32)
    (right : kind { iEventCode := eventPlayerRemoveGridItem, receiver := none, ulParam := pos.toUInt64 }) :
    knapsack.FiresOnly kind (knapsack.removeGrid pos).1 := by
  unfold removeGrid
  split
  · exact .silent rfl
  · exact firesOnly_fireEvent (knapsack.withGrids _) right

theorem removeGrids_firesOnly (knapsack : PlayerKnapsackLogic) (positions : List UInt32)
    (right : ∀ pos : UInt32,
      kind { iEventCode := eventPlayerRemoveGridItem, receiver := none, ulParam := pos.toUInt64 }) :
    knapsack.FiresOnly kind (positions.foldl (fun knapsack pos => (knapsack.removeGrid pos).1) knapsack) := by
  induction positions generalizing knapsack with
  | nil => exact .silent rfl
  | cons pos positions ih => exact (removeGrid_firesOnly knapsack pos (right pos)).trans (ih _)

theorem call_firesOnly (call : KnapsackCall) (called : knapsack.call call = some result) :
    knapsack.FiresOnly call.Raises result.1 := by
  cases call with
  | putItem item num =>
    obtain ⟨iCap, _, rfl⟩ := Option.map_eq_some_iff.mp called
    split
    · exact .silent rfl
    · have filled : knapsack.FiresOnly (KnapsackCall.putItem item num).Raises
          (appendGrids item num.toNat (knapsack.withGrids (fillGrids item.id knapsack.pack.grids num).1)
            (fillGrids item.id knapsack.pack.grids num).2).1 := .silent (appendGrids_fired item num.toNat _ _)
      exact filled.trans (firesOnly_fireEvent _ ⟨rfl, _, rfl⟩)
  | removeItem id num =>
    cases called
    unfold removeItem
    split
    · exact .silent rfl
    · have taken := removeGrids_firesOnly (knapsack.withGrids (takeGrids id knapsack.pack.grids num).1)
        (takeGrids id knapsack.pack.grids num).2.2 fun pos =>
          (show (KnapsackCall.removeItem id num).Raises _ from .inr ⟨rfl, pos, rfl⟩)
      exact taken.trans (firesOnly_fireEvent _ (.inl ⟨rfl, _, rfl⟩))
  | removeGrid pos =>
    cases called
    exact removeGrid_firesOnly knapsack pos ⟨rfl, rfl⟩
  | changeMaxGrid chg =>
    cases called
    exact firesOnly_fireEvent _ ⟨rfl, _, rfl⟩

end PlayerKnapsackLogic

theorem KnapsackCall.Raises.code {call : KnapsackCall} {event : RaisedEvent} (raises : call.Raises event) :
    eventPlayerMin < event.iEventCode ∧ event.iEventCode < eventPlayerMax := by
  have known : event.iEventCode ∈ [eventPlayerItemAdd, eventPlayerItemDec, eventPlayerRemoveGridItem,
      eventPlayerChangePackMaxGrid] := by
    cases call with
    | putItem item num => simp [raises.1]
    | removeItem id num => rcases raises with dec | removed <;> simp [*]
    | removeGrid pos => simp [raises.1]
    | changeMaxGrid chg => simp [raises.1]
  have all : ∀ code ∈ [eventPlayerItemAdd, eventPlayerItemDec, eventPlayerRemoveGridItem,
      eventPlayerChangePackMaxGrid], eventPlayerMin < code ∧ code < eventPlayerMax := by decide
  exact all _ known

end Package

variable {Player : Type} [DecidableEq Player]

/-- What a player raises is one of the player events and has no delay. -/
def FireCall.Plain (call : FireCall Player) : Prop :=
  call.raiser.isSome → eventPlayerMin < call.iEventCode ∧ call.iEventCode < eventPlayerMax ∧
    call.secondsLater = 0

def Nested.Keeps (Inv : EventWorld Player → Prop) (nested : Nested Player) : Prop :=
  ∀ {world call next}, call.timeExpired = false → call.Plain → nested world call = some next →
    Inv world → Inv next.1

structure Detached (Inv : EventWorld Player → Prop) : Prop where
  modify : ∀ world player change, Inv world → Inv (world.modify player change)
  update : ∀ world, Inv world → Inv { world with updates := world.updates + 1 }

section Keeps

variable {Inv : EventWorld Player → Prop} {env : EventEnv Player} {nested : Nested Player}
  {world next : EventWorld Player} {player : Player}

theorem syncLater_keeps (detached : Detached Inv) (keeps : nested.Keeps Inv)
    (synced : syncLater env nested world player = some next) (holds : Inv world) : Inv next := by
  obtain ⟨fired, delayed, rfl⟩ := Option.map_eq_some_iff.mp synced
  exact detached.modify _ _ _ (keeps rfl (by simp [FireCall.Plain]) delayed holds)

private theorem autoSyncOnEvent_keeps (detached : Detached Inv) (keeps : nested.Keeps Inv)
    (handled : autoSyncOnEvent env nested world player iEvent = some next) (holds : Inv world) : Inv next := by
  unfold autoSyncOnEvent at handled
  split at handled
  · split at handled
    · dsimp only at handled
      have updated := detached.update world holds
      split at handled
      · cases handled
        exact updated
      · exact syncLater_keeps detached keeps handled (detached.modify _ _ _ updated)
    · exact syncLater_keeps detached keeps handled holds
  · cases handled
    exact holds

private theorem taskLoop_keeps (detached : Detached Inv) (keeps : nested.Keeps Inv) (fuel i : Nat)
    (handled : taskLoop env nested player iEvent ulParam fuel i world = some next) (holds : Inv world) :
    Inv next := by
  induction fuel generalizing i world with
  | zero => cases handled
  | succ fuel ih =>
    rw [taskLoop] at handled
    dsimp only at handled
    split at handled
    · cases handled
      exact holds
    · split at handled
      · exact ih i handled (detached.modify _ _ _ holds)
      · split at handled
        · obtain ⟨fired, raised, rest⟩ := Option.bind_eq_some_iff.mp handled
          have done : eventPlayerMin < eventPlayerTaskDone ∧ eventPlayerTaskDone < eventPlayerMax := by decide
          have after := keeps rfl (fun _ => ⟨done.1, done.2, rfl⟩) raised (detached.modify _ _ _ holds)
          exact ih (i + 1) rest after
        · exact ih (i + 1) handled (detached.modify _ _ _ holds)

private theorem onEvent_keeps (detached : Detached Inv) (keeps : nested.Keeps Inv)
    (handled : onEvent env nested world player iEvent ulParam logic = some next) (holds : Inv world) :
    Inv next := by
  cases logic with
  | autosync => exact autoSyncOnEvent_keeps detached keeps handled holds
  | knapsack =>
    cases handled
    exact holds
  | task => exact taskLoop_keeps detached keeps _ _ handled (detached.modify _ _ _ holds)

omit [DecidableEq Player] in
theorem foldlM_keeps {items : List Item}
    (keeps : ∀ {world item next}, item ∈ items → step world item = some next → Inv world → Inv next)
    (folded : items.foldlM step world = some next) (holds : Inv world) : Inv next := by
  induction items generalizing world with
  | nil =>
    cases folded
    exact holds
  | cons item items ih =>
    rw [List.foldlM_cons] at folded
    obtain ⟨middle, first, rest⟩ := Option.bind_eq_some_iff.mp folded
    have later {world item next} (member : item ∈ items) (stepped : step world item = some next)
        (holds : Inv world) : Inv next := keeps (List.mem_cons_of_mem _ member) stepped holds
    exact ih later rest (keeps List.mem_cons_self first holds)

theorem notifyEvent_keeps (detached : Detached Inv) (keeps : nested.Keeps Inv)
    (notified : notifyEvent env nested world player iEvent ulParam receiver = some next) (holds : Inv world) :
    Inv next :=
  foldlM_keeps (fun _ handled holds => onEvent_keeps detached keeps handled holds) notified holds

inductive Way (env : EventEnv Player) (nested : Nested Player) (world : EventWorld Player)
    (call : FireCall Player) : Option (EventWorld Player × UInt32) → Prop where
  | lost (ret : UInt32) (missing : call.Plain → call.raiser.isSome → world.playerOf call = none) :
      Way env nested world call (some (world.note env call none, ret))
  | delayed {target : Player} (found : world.playerOf call = some target) (later : 0 < call.secondsLater) :
      Way env nested world call ((world.cache call.ulParam (some target)).generateDelayEvent call)
  | notified {target : Player} (found : world.playerOf call = some target) (now : ¬ 0 < call.secondsLater) :
      Way env nested world call
        ((notifyEvent env nested (world.note env call (some target)) target call.iEventCode call.ulParam
          call.receiver).map fun notified =>
            (if call.timeExpired then notified.cache call.ulParam none else notified, 0))

theorem fireEvent_way (env : EventEnv Player) (nested : Nested Player) (world : EventWorld Player)
    (call : FireCall Player) : Way env nested world call (fireEvent env nested world call) := by
  unfold fireEvent
  split
  · next test =>
    refine .lost 0 fun plain raised => ?_
    have player := (plain raised).1
    have bounds : eventTestMax < eventPlayerMin := by decide
    exact absurd test.2 (by omega)
  · split
    · split
      · next late =>
        refine .lost (-1) fun plain raised => ?_
        rw [(plain raised).2.2] at late
        exact absurd late (by decide)
      · split
        · next missing => exact .lost (-1) fun _ _ => missing
        · next player found =>
          split
          · next later => exact .delayed found later
          · next now => exact .notified found now
    · next unsupported =>
      refine .lost (-1) fun plain raised => ?_
      exact absurd ⟨(plain raised).1, (plain raised).2.1⟩ unsupported

theorem fireEvent_keeps {call : FireCall Player} {result : EventWorld Player × UInt32}
    (detached : Detached Inv) (keeps : nested.Keeps Inv) (plain : call.Plain)
    (lost : (call.raiser.isSome → world.playerOf call = none) → Inv (world.note env call none))
    (notes : ∀ player, world.playerOf call = some player → ¬ 0 < call.secondsLater →
      Inv (world.note env call (some player)))
    (delays : ∀ player, world.playerOf call = some player → 0 < call.secondsLater →
      (world.cache call.ulParam (some player)).generateDelayEvent call = some result → Inv result.1)
    (expires : call.timeExpired → ∀ world, Inv world → Inv (world.cache call.ulParam none))
    (fired : fireEvent env nested world call = some result) : Inv result.1 := by
  have way := fireEvent_way env nested world call
  generalize fireEvent env nested world call = outcome at way fired
  cases way with
  | lost ret missing =>
    cases fired
    exact lost (missing plain)
  | delayed found later => exact delays _ found later fired
  | notified found now =>
    obtain ⟨notified, handled, rfl⟩ := Option.map_eq_some_iff.mp fired
    have kept := notifyEvent_keeps detached keeps handled (notes _ found now)
    dsimp only
    split
    · next expired => exact expires expired _ kept
    · exact kept

/-- What one call of `FireEvent` preserves when the calls nested in it do, all calls preserve. -/
theorem fireAt_keeps
    (call : ∀ {nested : Nested Player}, nested.Keeps Inv → Nested.Keeps Inv (fireEvent env nested))
    (depth : Nat) : (fireAt env depth).Keeps Inv := by
  induction depth with
  | zero =>
    intro world call next _ _ fired
    cases fired
  | succ depth ih => exact call ih

theorem knapsackCall_keeps [Fintype Player] (detached : Detached Inv) (keeps : Nested.Keeps Inv (fire env))
    (called : knapsackCall env world player call = some next) (holds : Inv world) : Inv next := by
  obtain ⟨result, returned, folded⟩ := Option.bind_eq_some_iff.mp called
  obtain ⟨events, fired, raises⟩ := PlayerKnapsackLogic.call_firesOnly call returned
  rw [fired, List.drop_left] at folded
  refine foldlM_keeps ?_ folded (detached.modify _ _ _ holds)
  intro world event next member stepped holds
  obtain ⟨result, fired, rfl⟩ := Option.map_eq_some_iff.mp stepped
  obtain ⟨above, below⟩ := (raises event member).code
  exact keeps rfl (fun _ => ⟨above, below, rfl⟩) fired holds

end Keeps

end Playground.Player
