import Playground.Player.Handlers

/-! The tables of the delayed events. -/

namespace Playground.Player

open Component Transition

variable {Player : Type}

def EventWorld.pendingSeqs (world : EventWorld Player) : List Int32 :=
  world.timerMgr.timerEvents.map timerSeq

def EventWorld.paramKeys (world : EventWorld Player) : List Int32 :=
  world.center.mpDelayEventParams.map Prod.fst

def EventWorld.roleOf (world : EventWorld Player) (seq : Int32) : Option UInt64 := world.delayed.lookup seq

/-- The parameters are kept for the pending events only, and the player for exactly their roles. -/
def Booked (world : EventWorld Player) : Prop :=
  (∀ seq, seq ∈ world.paramKeys ↔ seq ∈ world.pendingSeqs) ∧
    ∀ role, (world.center.mpPlayerAgents role).isSome ↔
      ∃ seq ∈ world.pendingSeqs, world.roleOf seq = some role

/-- No delayed event has ended: the three tables have grown together. -/
structure Ledger (world : EventWorld Player) : Prop where
  keys : world.paramKeys = world.pendingSeqs
  given : world.delayed.map Prod.fst = world.paramKeys
  distinct : world.paramKeys.Nodup
  cached : ∀ role, (world.center.mpPlayerAgents role).isSome ↔ role ∈ world.delayed.map Prod.snd

section Tables

variable {world : EventWorld Player} {call : FireCall Player}

theorem Ledger.booked (ledger : Ledger world) : Booked world := by
  refine ⟨fun seq => by rw [ledger.keys], ?_⟩
  intro role
  rw [ledger.cached role]
  constructor
  · intro member
    obtain ⟨⟨seq, role⟩, stored, rfl⟩ := List.mem_map.mp member
    refine ⟨seq, ?_, ?_⟩
    · rw [← ledger.keys, ← ledger.given]
      exact List.mem_map_of_mem stored
    · obtain ⟨before, after, split⟩ := List.append_of_mem stored
      refine List.lookup_eq_some_iff.mpr ⟨before, after, split, ?_⟩
      intro entry early
      have nodup : (world.delayed.map Prod.fst).Nodup := ledger.given ▸ ledger.distinct
      rw [split, List.map_append, List.nodup_append] at nodup
      have different := nodup.2.2 entry.1 (List.mem_map_of_mem early) seq (by simp)
      simpa using Ne.symm different
  · rintro ⟨seq, _, given⟩
    obtain ⟨before, after, split, _⟩ := List.lookup_eq_some_iff.mp given
    rw [split]
    simp

private theorem timerSeq_param (seq : Int32) : seq.toInt64.toUInt64.toUInt32.toInt32 = seq := by
  apply Int32.toBitVec_inj.mp
  show BitVec.setWidth 32 (BitVec.signExtend 64 seq.toBitVec) = seq.toBitVec
  ext i below
  have within : i < 64 := by omega
  rw [BitVec.getElem_setWidth, BitVec.getLsbD_eq_getElem within, BitVec.getElem_signExtend, dif_pos below]

private theorem freeSeq_fresh {params : List (Int32 × DelayEventParam)}
    (found : freeSeq params fuel start = some seq) :
    seq ∉ params.map Prod.fst := by
  induction fuel generalizing start with
  | zero => cases found
  | succ fuel ih =>
    rw [freeSeq] at found
    split at found
    · exact ih found
    · next unused =>
      cases found
      intro member
      obtain ⟨entry, stored, same⟩ := List.mem_map.mp member
      exact unused (List.any_eq_true.mpr ⟨entry, stored, by simpa using same⟩)

theorem generateDelayEvent_some (delayed : world.generateDelayEvent call = some result) :
    ∃ seq, seq ∉ world.paramKeys ∧ result.1.paramKeys = seq :: world.paramKeys ∧
      result.1.pendingSeqs = seq :: world.pendingSeqs ∧
      result.1.delayed = (seq, call.ulParam) :: world.delayed ∧
      result.1.center.mpPlayerAgents = world.center.mpPlayerAgents := by
  obtain ⟨seq, found, rfl⟩ := Option.map_eq_some_iff.mp delayed
  refine ⟨seq, freeSeq_fresh found, rfl, ?_, rfl, rfl⟩
  exact congrArg (· :: world.pendingSeqs) (timerSeq_param seq)

theorem Ledger.delay (ledger : Ledger world) (player : Player)
    (delayed : (world.cache call.ulParam (some player)).generateDelayEvent call = some result) :
    Ledger result.1 := by
  obtain ⟨seq, fresh, keys, pending, given, cached⟩ := generateDelayEvent_some delayed
  refine ⟨?_, ?_, ?_, ?_⟩
  · rw [keys, pending]
    exact congrArg (seq :: ·) ledger.keys
  · rw [given, keys]
    exact congrArg (seq :: ·) ledger.given
  · rw [keys]
    exact List.nodup_cons.mpr ⟨fresh, ledger.distinct⟩
  · intro role
    rw [cached, given, List.map_cons, List.mem_cons]
    by_cases same : role = call.ulParam
    · simp [EventWorld.cache, same]
    · simp only [EventWorld.cache, Function.update_of_ne same, same, false_or]
      exact ledger.cached role

end Tables

section Calls

variable [DecidableEq Player] {env : EventEnv Player} {world next : EventWorld Player} {call : FireCall Player}

structure SameTables (world next : EventWorld Player) : Prop where
  center : next.center = world.center
  pending : next.timerMgr.timerEvents = world.timerMgr.timerEvents
  delayed : next.delayed = world.delayed

theorem SameTables.note (world : EventWorld Player) (call : FireCall Player) (notified : Option Player) :
    SameTables world (world.note env call notified) := by
  unfold EventWorld.note
  split <;> exact ⟨rfl, rfl, rfl⟩

omit [DecidableEq Player] in
theorem Ledger.same (ledger : Ledger world) (same : SameTables world next) : Ledger next := by
  have keys : next.paramKeys = world.paramKeys := by rw [EventWorld.paramKeys, same.center, EventWorld.paramKeys]
  have pending : next.pendingSeqs = world.pendingSeqs := by
    rw [EventWorld.pendingSeqs, same.pending, EventWorld.pendingSeqs]
  refine ⟨?_, ?_, ?_, ?_⟩
  · rw [keys, pending, ledger.keys]
  · rw [keys, same.delayed, ledger.given]
  · rw [keys]
    exact ledger.distinct
  · rw [same.center, same.delayed]
    exact ledger.cached

theorem Ledger.detached : Detached (@Ledger Player) where
  modify _ _ _ ledger := ledger.same ⟨rfl, rfl, rfl⟩
  update _ ledger := ledger.same ⟨rfl, rfl, rfl⟩

theorem Ledger.fireAt (env : EventEnv Player) (depth : Nat) : (fireAt env depth).Keeps Ledger := by
  apply fireAt_keeps
  intro nested keeps world call next unexpired plain fired ledger
  refine fireEvent_keeps Ledger.detached keeps plain ?_ ?_ ?_ ?_ fired
  · exact fun _ => ledger.same (.note world call none)
  · exact fun player _ _ => ledger.same (.note world call (some player))
  · exact fun player _ _ delayed => ledger.delay player delayed
  · intro expired
    rw [unexpired] at expired
    cases expired

/-- The parameters of an event that has ended are still there. -/
def Leaked (seq : Int32) (world : EventWorld Player) : Prop :=
  seq ∈ world.paramKeys ∧ seq ∉ world.pendingSeqs

omit [DecidableEq Player] in
theorem Leaked.not_booked (leaked : Leaked seq world) : ¬ Booked world := fun booked =>
  leaked.2 ((booked.1 seq).mp leaked.1)

omit [DecidableEq Player] in
theorem Leaked.same (leaked : Leaked seq world) (same : SameTables world next) : Leaked seq next := by
  rw [Leaked, EventWorld.paramKeys, EventWorld.pendingSeqs, same.center, same.pending]
  exact leaked

theorem Leaked.detached : Detached (@Leaked Player seq) where
  modify _ _ _ leaked := leaked.same ⟨rfl, rfl, rfl⟩
  update _ leaked := leaked.same ⟨rfl, rfl, rfl⟩

theorem Leaked.fireEvent {nested : Nested Player} (keeps : nested.Keeps (Leaked seq)) (plain : call.Plain)
    (fired : fireEvent env nested world call = some result) (leaked : Leaked seq world) :
    Leaked seq result.1 := by
  refine fireEvent_keeps Leaked.detached keeps plain ?_ ?_ ?_ ?_ fired
  · exact fun _ => leaked.same (.note world call none)
  · exact fun player _ _ => leaked.same (.note world call (some player))
  · intro player _ _ delayed
    obtain ⟨new, fresh, keys, pending, _, _⟩ := generateDelayEvent_some delayed
    have different : seq ≠ new := by
      rintro rfl
      exact fresh leaked.1
    rw [Leaked, keys, pending]
    exact ⟨List.mem_cons_of_mem _ leaked.1, List.not_mem_cons_of_ne_of_not_mem different leaked.2⟩
  · exact fun _ world leaked => leaked

theorem Leaked.fireAt (env : EventEnv Player) (depth : Nat) : (fireAt env depth).Keeps (Leaked seq) := by
  apply fireAt_keeps
  intro nested keeps world call next _ plain fired leaked
  exact leaked.fireEvent keeps plain fired

omit [DecidableEq Player] in
theorem Ledger.key_of_timer (ledger : Ledger world) (member : event ∈ world.timerMgr.timerEvents) :
    timerSeq event ∈ world.paramKeys := by
  rw [ledger.keys]
  exact List.mem_map_of_mem member

omit [DecidableEq Player] in
/-- A timer that is taken off the map is pending no more, and it was the only one with its
sequence number. -/
theorem Ledger.leaked_cancel (ledger : Ledger world) (member : event ∈ world.timerMgr.timerEvents)
    (taken : next.timerMgr.timerEvents = (world.timerMgr.cancelTimer event.dwTimerID).timerEvents)
    (kept : timerSeq event ∈ next.paramKeys) : Leaked (timerSeq event) next := by
  refine ⟨kept, ?_⟩
  intro pending
  rw [EventWorld.pendingSeqs, taken] at pending
  obtain ⟨other, remains, same⟩ := List.mem_map.mp pending
  obtain ⟨stored, different⟩ := List.mem_filter.mp remains
  have nodup : (world.timerMgr.timerEvents.map timerSeq).Nodup := by
    have distinct := ledger.distinct
    rwa [ledger.keys] at distinct
  obtain rfl := List.inj_on_of_nodup_map nodup stored member same
  simp at different

end Calls

section Runs

variable [DecidableEq Player] [Fintype Player] {env : EventEnv Player} {world next : EventWorld Player}

/-- No delayed event ends in the step: no timer expires, and `OnDetach` finds its timer
not pending. -/
def Undisturbed (world : EventWorld Player) : CenterEvent Player → Prop
  | .expire _ => False
  | .detach player => ∀ event ∈ world.timerMgr.timerEvents, event.dwTimerID ≠ (world.players player).dwTimerID
  | _ => True

theorem Ledger.step (stepped : CenterStep env world event next) (undisturbed : Undisturbed world event)
    (ledger : Ledger world) : Ledger next := by
  have keeps : Nested.Keeps Ledger (fire env) := by
    intro world call next unexpired plain fired ledger
    exact Ledger.fireAt env _ unexpired plain fired ledger
  cases event with
  | session role player =>
    rw [CenterStep, centerStep] at stepped
    split at stepped
    · cases stepped
      exact ledger.same ⟨rfl, rfl, rfl⟩
    · cases stepped
  | attach player => exact syncLater_keeps Ledger.detached keeps stepped ledger
  | detach player =>
    cases stepped
    refine ledger.same ⟨rfl, ?_, rfl⟩
    refine List.filter_eq_self.mpr ?_
    intro event member
    simpa using undisturbed event member
  | knapsack player call => exact knapsackCall_keeps Ledger.detached keeps stepped ledger
  | fire iEventCode receiver secondsLater ulParam =>
    obtain ⟨result, fired, rfl⟩ := Option.map_eq_some_iff.mp stepped
    exact keeps rfl (by simp [FireCall.Plain]) fired ledger
  | clock now =>
    cases stepped
    exact ledger.same ⟨rfl, rfl, rfl⟩
  | expire id => exact undisturbed.elim

/-- The event code happens to be the sequence number, so that `OnDelayTimerExpired` finds the right
entry. -/
def OwnCode (world : EventWorld Player) : CenterEvent Player → Prop
  | .expire id => ∃ event, (world.timerMgr.timerEvents.find? fun event => event.dwTimerID == id) = some event ∧
      timerSeq event = Int32.ofInt event.iEvent
  | _ => False

theorem Ledger.leaked_detach (ledger : Ledger world) (disturbed : ¬ Undisturbed world (.detach player))
    (stepped : CenterStep env world (.detach player) next) : ¬ Booked next := by
  obtain ⟨event, disturbed⟩ := Classical.not_forall.mp disturbed
  obtain ⟨member, same⟩ := Classical.not_imp.mp disturbed
  have named : event.dwTimerID = (world.players player).dwTimerID := not_not.mp same
  cases stepped
  have leaked : Leaked (timerSeq event) (world.cancelTimer (world.players player).dwTimerID) :=
    ledger.leaked_cancel member (congrArg (fun id => (world.timerMgr.cancelTimer id).timerEvents) named.symm)
      (ledger.key_of_timer member)
  exact leaked.not_booked

theorem Ledger.leaked_expire (ledger : Ledger world) (foreign : ¬ OwnCode world (.expire timer))
    (stepped : CenterStep env world (.expire timer) next) : ¬ Booked next := by
  obtain ⟨event, found, due⟩ := Option.bind_eq_some_iff.mp stepped
  split at due
  case isFalse => cases due
  have member := List.mem_of_find?_eq_some found
  have key := ledger.key_of_timer member
  have other : timerSeq event ≠ Int32.ofInt event.iEvent := fun same => foreign ⟨event, found, same⟩
  obtain ⟨entry, stored, named⟩ := List.mem_map.mp key
  unfold onDelayTimerExpired at due
  dsimp only at due
  have present : (world.takeTimer event).center.mpDelayEventParams.any (fun entry => entry.1 == timerSeq event) :=
    List.any_eq_true.mpr ⟨entry, stored, by simpa using named⟩
  rw [if_pos present] at due
  obtain ⟨result, fired, rfl⟩ := Option.map_eq_some_iff.mp due
  have leaked : Leaked (timerSeq event) result.1 := by
    refine Leaked.fireEvent (Leaked.fireAt env _) (by simp [FireCall.Plain]) fired ?_
    refine ledger.leaked_cancel member rfl ?_
    exact List.mem_map.mpr ⟨entry, List.mem_filter.mpr ⟨stored, by simpa [named] using other⟩, named⟩
  exact leaked.not_booked

/-- The tables of the delayed events agree with the pending timers in every state of a run
if and only if no delayed event ends in it, by its timer or by `OnDetach`; left out are the
expirations of an event whose sequence number is its own code. -/
theorem books_kept_iff {now : MsTime} {players : Player → PlayerState} :
    Steps (fun world event next => CenterStep env world event next ∧ ¬ OwnCode world event ∧ Booked next)
      (.init now players) events final ↔
    Steps (fun world event next => CenterStep env world event next ∧ Undisturbed world event)
      (.init now players) events final := by
  have exact {world event next} (ledger : Ledger world) :
      CenterStep env world event next ∧ ¬ OwnCode world event ∧ Booked next ↔
        CenterStep env world event next ∧ Undisturbed world event := by
    constructor
    · rintro ⟨stepped, foreign, booked⟩
      refine ⟨stepped, ?_⟩
      cases event with
      | expire id => exact absurd booked (ledger.leaked_expire foreign stepped)
      | detach player =>
        by_contra disturbed
        exact ledger.leaked_detach disturbed stepped booked
      | session _ _ | attach _ | knapsack _ _ | fire _ _ _ _ | clock _ => trivial
    · rintro ⟨stepped, undisturbed⟩
      refine ⟨stepped, ?_, (ledger.step stepped undisturbed).booked⟩
      cases event with
      | expire id => exact undisturbed.elim
      | session _ _ | attach _ | detach _ | knapsack _ _ | fire _ _ _ _ | clock _ => exact not_false
  have keeps {world event next}
      (step : CenterStep env world event next ∧ ¬ OwnCode world event ∧ Booked next) (ledger : Ledger world) :
      Ledger next := ledger.step step.1 ((exact ledger).mp step).2
  have start : Ledger (.init now players) := ⟨rfl, rfl, List.nodup_nil, by simp [EventWorld.init]⟩
  exact Steps.congr exact keeps start

end Runs

def oneRole : EventEnv (Fin 1) where
  rid _ := eventParam 1 7

def onePlayer : EventWorld (Fin 1) := .init zeroTime fun _ => {}

def attachEvents : List (CenterEvent (Fin 1)) := [.session (eventParam 1 7) (some 0), .attach 0]

def detachedWorld : EventWorld (Fin 1) :=
  (runAll (centerStep oneRole) onePlayer (attachEvents ++ [.detach 0, .session (eventParam 1 7) none])).get
    (by decide +kernel)

def fiveMinutes : MsTime := ⟨300000, by decide⟩

def expiredWorld : EventWorld (Fin 1) :=
  (runAll (centerStep oneRole) onePlayer (attachEvents ++ [.clock fiveMinutes, .expire 1])).get
    (by decide +kernel)

/-- Either way no timer is pending, and both the parameters and the player are still kept. -/
theorem ended_event_stays_booked :
    (detachedWorld.pendingSeqs = [] ∧ detachedWorld.paramKeys = [1] ∧
      detachedWorld.center.mpPlayerAgents (eventParam 1 7) = some 0 ∧ ¬ Booked detachedWorld) ∧
    (expiredWorld.pendingSeqs = [] ∧ expiredWorld.paramKeys = [1] ∧
      expiredWorld.center.mpPlayerAgents (eventParam 1 7) = some 0 ∧ ¬ Booked expiredWorld) := by
  have unbooked {world : EventWorld (Fin 1)} (pending : world.pendingSeqs = []) (keys : world.paramKeys = [1]) :
      ¬ Booked world := by
    intro booked
    have still := (booked.1 1).mp (by rw [keys]; exact List.mem_cons_self)
    rw [pending] at still
    cases still
  have detached : detachedWorld.pendingSeqs = [] ∧ detachedWorld.paramKeys = [1] ∧
      detachedWorld.center.mpPlayerAgents (eventParam 1 7) = some 0 := by decide +kernel
  have expired : expiredWorld.pendingSeqs = [] ∧ expiredWorld.paramKeys = [1] ∧
      expiredWorld.center.mpPlayerAgents (eventParam 1 7) = some 0 := by decide +kernel
  exact ⟨⟨detached.1, detached.2.1, detached.2.2, unbooked detached.1 detached.2.1⟩,
    expired.1, expired.2.1, expired.2.2, unbooked expired.1 expired.2.1⟩

end Playground.Player
