import Mathlib.Data.List.Perm.Basic
import Playground.Component.Timers

/-! The loop of `TimerMgr::Expired`, and runs of the manager. -/

namespace Playground.Component

open Transition

variable {Callback : Type}
variable {entry : UInt64 × UInt32} {world : TimerWorld Callback}

theorem Sorted.split {timers : List (UInt64 × UInt32)} (sorted : Sorted timers)
    {other : UInt64 × UInt32} (found : timers[it]? = some entry) (member : other ∈ timers) :
    other ∈ timers.take it ∨ entry.1 ≤ other.1 := by
  obtain ⟨within, rfl⟩ := List.getElem?_eq_some_iff.mp found
  have behind : Sorted (timers.drop it) := sorted.sublist (List.drop_sublist _ _)
  rw [List.drop_eq_getElem_cons within] at behind
  rw [← List.take_append_drop it timers, List.drop_eq_getElem_cons within] at member
  rcases List.mem_append.mp member with before | later
  · exact .inl before
  · rcases List.mem_cons.mp later with same | after
    · exact .inr (same ▸ UInt64.le_refl _)
    · exact .inr ((List.pairwise_cons.mp behind).1 other after)

theorem countP_eraseIdx (p : α → Bool) {list : List α}
    (found : list[it]? = some item) (counts : p item) : (list.eraseIdx it).countP p + 1 = list.countP p := by
  obtain ⟨within, rfl⟩ := List.getElem?_eq_some_iff.mp found
  have same := (List.getElem_cons_eraseIdx_perm within).countP_eq p
  rw [← same, List.countP_cons_of_pos counts]

def Delaying (script : List (TimerAct Callback) → List (TimerOp Callback)) : Prop :=
  ∀ log, ∀ op ∈ script log, op.Delays

variable {listeners : Int → Option Callback} {script : List (TimerAct Callback) → List (TimerOp Callback)}

namespace TimerWorld

variable {world taken next : TimerWorld Callback} {id : UInt32}

inductive Taken (world : TimerWorld Callback) (it : Nat) (id : UInt32) : TimerWorld Callback → Prop where
  | canceled (missing : ∀ event ∈ world.mgr.timerEvents, event.dwTimerID ≠ id) :
      Taken world it id { mgr := world.take it id, log := world.log }
  | fires (event : TimerEvent Callback) (handler : Option Callback) (member : event ∈ world.mgr.timerEvents)
      (named : event.dwTimerID = id) :
      Taken world it id
        { mgr := world.take it id, log := .fired event handler world.mgr.curMsTime :: world.log }

theorem round_taken (delaying : Delaying script) (world : TimerWorld Callback) (it : Nat) (id : UInt32) :
    ∃ taken ops, Taken world it id taken ∧ (∀ op ∈ ops, op.Delays) ∧
      world.round listeners script it id = taken.runOps it ops := by
  unfold round
  cases found : world.mgr.timerEvents.find? (·.dwTimerID == id) with
  | none =>
    refine ⟨_, [], .canceled ?_, nofun, rfl⟩
    simpa using found
  | some event =>
    refine ⟨_, _, .fires event _ (List.mem_of_find?_eq_some found) ?_, ?_, rfl⟩
    · simpa using List.find?_some found
    · intro op member
      split at member
      · exact delaying _ op member
      · cases member

theorem Taken.mgr (result : Taken world it id taken) : taken.mgr = world.take it id := by
  cases result <;> rfl

theorem Taken.indexed
    (result : Taken world it entry.2 taken) (indexed : world.Indexed)
    (found : world.mgr.timers[it]? = some entry) : taken.Indexed := by
  cases result <;> exact indexed.take found _

theorem Taken.sound
    (result : Taken world it entry.2 taken) (sound : world.Sound) (found : world.mgr.timers[it]? = some entry)
    (due : entry.1 ≤ world.mgr.curMsTime) : taken.Sound := by
  cases result with
  | canceled missing =>
    refine sound.take found rfl (fun _ => id) (fun _ _ => rfl) ?_ sound.lawful
    cases pending : expiryOf world.log entry.2 with
    | none => rfl
    | some expiry =>
      obtain ⟨event, member, named⟩ := sound.held _ _ pending
      exact absurd named (missing event member)
  | fires event handler member named =>
    have expiry := sound.expiry_eq (List.mem_of_getElem? found) member named
    refine sound.take found rfl (fun _ => List.mem_cons_of_mem _) ?_ ?_ ?_
    · intro other different
      exact if_neg fun same => different (same.symm.trans named)
    · exact if_pos named
    · exact ⟨⟨sound.pending event member, expiry ▸ due⟩, sound.lawful⟩

def Passed (world : TimerWorld Callback) (it : Nat) : Prop :=
  ∀ entry ∈ world.mgr.timers.take it, world.mgr.curMsTime < entry.1

/-- The entry at the iterator goes, and its event fires unless the timer was cancelled. -/
structure Rounds (world next : TimerWorld Callback) (it it' : Nat) (entry : UInt64 × UInt32) : Prop where
  clock : next.mgr.curMsTime = world.mgr.curMsTime
  grows : ∃ acts, next.log = acts ++ world.log ∧ (firedEvents acts = [] ∨
    ∃ event ∈ world.mgr.timerEvents, event.dwTimerID = entry.2 ∧ firedEvents acts = [event])
  timers : Postpones world.mgr.curMsTime (world.mgr.timers.eraseIdx it) it next.mgr.timers it'
  indexed : world.Indexed → world.mgr.timers[it]? = some entry → next.Indexed
  sound : world.Sound → world.mgr.timers[it]? = some entry → entry.1 ≤ world.mgr.curMsTime → next.Few → next.Sound

theorem round_rounds (delaying : Delaying script)
    (signed : world.mgr.curMsTime.toNat < 2 ^ 63) (it : Nat) (entry : UInt64 × UInt32) :
    Rounds world (world.round listeners script it entry.2).1 it (world.round listeners script it entry.2).2
      entry := by
  obtain ⟨taken, ops, result, delays, same⟩ : ∃ taken ops, Taken world it entry.2 taken ∧
      (∀ op ∈ ops, op.Delays) ∧ world.round listeners script it entry.2 = taken.runOps it ops :=
    world.round_taken delaying it entry.2
  rw [same]
  have clock : taken.mgr.curMsTime = world.mgr.curMsTime := by
    rw [result.mgr]
    rfl
  have timers : taken.mgr.timers = world.mgr.timers.eraseIdx it := by
    rw [result.mgr]
    rfl
  have handled := taken.runOps_handled (clock ▸ signed) it delays
  refine ⟨handled.clock.trans clock, ?_, ?_, ?_, ?_⟩
  · obtain ⟨acts, log, none⟩ := handled.grows
    cases result with
    | canceled => exact ⟨acts, log, .inl none⟩
    | fires event handler member named =>
      refine ⟨acts ++ [.fired event handler world.mgr.curMsTime], ?_, .inr ⟨event, member, named, ?_⟩⟩
      · rw [log, List.append_assoc]
        rfl
      · rw [firedEvents, List.filterMap_append]
        exact congrArg (· ++ [event]) none
  · rw [← clock, ← timers]
    exact handled.timers
  · intro indexed found
    exact (result.indexed indexed found).runOps it ops
  · intro sound found due few
    exact (result.sound sound found due).runOps it ops few

theorem Rounds.ordered
    (rounds : Rounds world next it after entry) (indexed : world.Indexed) (passed : world.Passed it)
    (found : world.mgr.timers[it]? = some entry) (due : entry.1 ≤ world.mgr.curMsTime) :
    ∀ other ∈ next.mgr.timers, entry.1 ≤ other.1 := by
  intro other member
  rcases rounds.timers.later other member with old | new
  · rcases indexed.sorted.split found (List.mem_of_mem_eraseIdx old) with before | behind
    · exact UInt64.le_of_lt (UInt64.lt_of_le_of_lt due (passed other before))
    · exact behind
  · exact UInt64.le_of_lt (UInt64.lt_of_le_of_lt due new)

theorem Rounds.ahead
    (rounds : Rounds world next it after entry) (passed : world.Passed it) : next.Passed after := by
  intro other member
  rw [rounds.clock]
  rcases rounds.timers.passed other member with old | new
  · rw [List.take_eraseIdx_eq_take_of_le _ _ _ (Nat.le_refl _)] at old
    exact passed other old
  · exact new

/-- The acts fire in the order of the expiry times, the latest first, and none earlier than `last`. -/
def InOrder (last : UInt64) (acts : List (TimerAct Callback)) : Prop :=
  (∀ event ∈ firedEvents acts, last ≤ event.ulExpiredTime) ∧
    (firedEvents acts).Pairwise fun late early => early.ulExpiredTime ≤ late.ulExpiredTime

/-- A call of `Expired` leaves nothing that is due, and fires in order. -/
structure Expires (last : UInt64) (world next : TimerWorld Callback) : Prop where
  indexed : next.Indexed
  later : ∀ entry ∈ next.mgr.timers, next.mgr.curMsTime < entry.1
  fires : world.Sound → next.Few → next.Sound ∧ ∃ acts, next.log = acts ++ world.log ∧ InOrder last acts

theorem Expires.stop (indexed : world.Indexed)
    (later : ∀ entry ∈ world.mgr.timers, world.mgr.curMsTime < entry.1) : Expires last world world :=
  ⟨indexed, later, fun sound _ => ⟨sound, [], rfl, nofun, .nil⟩⟩

theorem expiredLoop_log (delaying : Delaying script) (signed : world.mgr.curMsTime.toNat < 2 ^ 63)
    (returned : expiredLoop listeners script fuel world it = some next) :
    next.mgr.curMsTime = world.mgr.curMsTime ∧ ∃ acts, next.log = acts ++ world.log := by
  induction fuel generalizing world it with
  | zero => cases returned
  | succ fuel ih =>
    rw [expiredLoop] at returned
    split at returned
    · cases returned
      exact ⟨rfl, [], rfl⟩
    · next entry found =>
      split at returned
      · have rounds : Rounds world (world.round listeners script it entry.2).1 it
            (world.round listeners script it entry.2).2 entry := round_rounds delaying signed it entry
        obtain ⟨acts, first, -⟩ := rounds.grows
        obtain ⟨clock, later, rest⟩ := ih (rounds.clock ▸ signed) returned
        exact ⟨clock.trans rounds.clock, later ++ acts, by rw [rest, first, List.append_assoc]⟩
      · cases returned
        exact ⟨rfl, [], rfl⟩

theorem InOrder.append {late early : List (TimerAct Callback)} (before : last ≤ time)
    (first : firedEvents early = [] ∨ ∃ event, event.ulExpiredTime = time ∧ firedEvents early = [event])
    (rest : InOrder time late) : InOrder last (late ++ early) := by
  obtain ⟨above, sorted⟩ := rest
  unfold InOrder
  rw [firedEvents, List.filterMap_append, ← firedEvents, ← firedEvents]
  rcases first with none | ⟨event, rfl, one⟩
  · rw [none, List.append_nil]
    exact ⟨fun event member => UInt64.le_trans before (above event member), sorted⟩
  · rw [one]
    constructor
    · intro other member
      rcases List.mem_append.mp member with after | this
      · exact UInt64.le_trans before (above other after)
      · exact List.mem_singleton.mp this ▸ before
    · refine List.pairwise_append.mpr ⟨sorted, List.pairwise_singleton _ _, ?_⟩
      intro other after this same
      exact List.mem_singleton.mp same ▸ above other after

/-- The invariant: no entry is earlier than what fired last, and those in front of the iterator are not
due. -/
theorem expiredLoop_expires (delaying : Delaying script)
    {it : Nat} {last : UInt64} (signed : world.mgr.curMsTime.toNat < 2 ^ 63) (indexed : world.Indexed)
    (passed : world.Passed it) (behind : ∀ entry ∈ world.mgr.timers, last ≤ entry.1)
    (returned : expiredLoop listeners script fuel world it = some next) : Expires last world next := by
  induction fuel generalizing world it last with
  | zero => cases returned
  | succ fuel ih =>
    rw [expiredLoop] at returned
    split at returned
    · next ended =>
      cases returned
      refine .stop indexed ?_
      intro entry member
      exact passed entry (by rwa [List.take_of_length_le (List.getElem?_eq_none_iff.mp ended)])
    · next entry found =>
      split at returned
      · next due =>
        have rounds : Rounds world (world.round listeners script it entry.2).1 it
            (world.round listeners script it entry.2).2 entry := round_rounds delaying signed it entry
        generalize world.round listeners script it entry.2 = result at rounds returned
        have clock := rounds.clock
        have ordered := rounds.ordered indexed passed found due
        have rest :=
          ih (clock ▸ signed) (rounds.indexed indexed found) (rounds.ahead passed) ordered returned
        refine ⟨rest.indexed, rest.later, ?_⟩
        intro sound few
        obtain ⟨-, later, log⟩ := expiredLoop_log delaying (clock ▸ signed) returned
        have inner := rounds.sound sound found due (few.earlier log)
        obtain ⟨after, late, second, inOrder⟩ := rest.fires inner few
        obtain ⟨early, first, fired⟩ := rounds.grows
        refine ⟨after, late ++ early, by rw [second, first, List.append_assoc], ?_⟩
        refine inOrder.append (behind entry (List.mem_of_getElem? found)) (fired.imp_right ?_)
        rintro ⟨event, stored, named, one⟩
        exact ⟨event, sound.expiry_eq (List.mem_of_getElem? found) stored named, one⟩
      · next early =>
        cases returned
        refine .stop indexed ?_
        intro other member
        rcases indexed.sorted.split found member with before | after
        · exact passed other before
        · exact UInt64.lt_of_lt_of_le (UInt64.not_le.mp early) after

/-- Each round takes a due entry and no handler adds one, so the loop ends. -/
theorem expiredLoop_returns (delaying : Delaying script) (signed : world.mgr.curMsTime.toNat < 2 ^ 63)
    (enough : world.mgr.timers.countP (·.1 ≤ world.mgr.curMsTime) < fuel) :
    ∃ next, expiredLoop listeners script fuel world it = some next := by
  induction fuel generalizing world it with
  | zero => exact absurd enough (Nat.not_lt_zero _)
  | succ fuel ih =>
    rw [expiredLoop]
    split
    · exact ⟨_, rfl⟩
    · next entry found =>
      split
      · next due =>
        have rounds : Rounds world (world.round listeners script it entry.2).1 it
            (world.round listeners script it entry.2).2 entry := round_rounds delaying signed it entry
        generalize world.round listeners script it entry.2 = result at rounds
        have clock := rounds.clock
        apply ih (clock ▸ signed)
        have fewer := countP_eraseIdx (·.1 ≤ world.mgr.curMsTime) found (by simpa using due)
        rw [clock, rounds.timers.due]
        omega
      · exact ⟨_, rfl⟩

theorem expired_returns (delaying : Delaying script)
    (signed : world.mgr.curMsTime.toNat < 2 ^ 63) : ∃ next, world.expired listeners script = some next :=
  expiredLoop_returns delaying signed (Nat.lt_succ_of_le List.countP_le_length)

theorem expired_expires (delaying : Delaying script)
    (signed : world.mgr.curMsTime.toNat < 2 ^ 63) (indexed : world.Indexed)
    (returned : world.expired listeners script = some next) : Expires 0 world next :=
  expiredLoop_expires delaying signed indexed (by simp [Passed]) (fun _ _ => UInt64.zero_le) returned

theorem Expires.events (expires : Expires last world next) :
    ∀ event ∈ next.mgr.timerEvents, next.mgr.curMsTime < event.ulExpiredTime :=
  fun event member => expires.later _ (expires.indexed.entries event member)

theorem Sound.expiry_of_log (sound : world.Sound) (pending : expiryOf world.log id = some expiry) :
    ∃ event ∈ world.mgr.timerEvents, event.ulExpiredTime = expiry := by
  obtain ⟨event, member, named⟩ := sound.held id expiry pending
  have time := sound.pending event member
  rw [named, pending] at time
  exact ⟨event, member, (Option.some.inj time).symm⟩

end TimerWorld

def TimerCall.Admissible : TimerCall Callback → Prop
  | .expired script => Delaying script
  | _ => True

def TimerStep (listeners : Int → Option Callback) (world : TimerWorld Callback) (call : TimerCall Callback)
    (next : TimerWorld Callback) : Prop :=
  call.Admissible ∧ timerStep listeners world call = some next

structure TimerWorld.Kept (world : TimerWorld Callback) : Prop where
  signed : world.mgr.curMsTime.toNat < 2 ^ 63
  indexed : world.Indexed
  sound : world.Few → world.Sound

open TimerWorld

theorem TimerStep.kept {next : TimerWorld Callback}
    (step : TimerStep listeners world call next) (kept : world.Kept) : next.Kept := by
  obtain ⟨admissible, stepped⟩ := step
  cases call with
  | op op =>
    cases stepped
    obtain ⟨act, log⟩ := world.apply_log op
    refine ⟨?_, kept.indexed.apply op, fun few => (kept.sound (few.earlier log)).apply op few⟩
    cases op <;> exact kept.signed
  | clock now =>
    cases stepped
    refine ⟨now.signed, kept.indexed.updateMsTime now, ?_⟩
    intro few
    exact { kept.sound few with }
  | expired script =>
    obtain ⟨clock, acts, log⟩ := expiredLoop_log admissible kept.signed stepped
    have expires := expired_expires admissible kept.signed kept.indexed stepped
    refine ⟨clock ▸ kept.signed, expires.indexed, ?_⟩
    intro few
    exact (expires.fires (kept.sound (few.earlier log)) few).1

private theorem init_kept (start : MsTime) : (TimerWorld.init start : TimerWorld Callback).Kept where
  signed := start.signed
  indexed := ⟨.nil, nofun⟩
  sound _ := ⟨⟨.nil, nofun⟩, nofun, nofun, nofun, rfl, nofun, trivial⟩

theorem TimerStep.run_kept
    (run : Steps (TimerStep listeners) (TimerWorld.init start) calls world) : world.Kept :=
  run.invariant TimerStep.kept (init_kept start)

/-- `Expired` returns, fires in the order of the expiry times, and leaves no pending timer that is due. -/
def ExpiresInOrder (listeners : Int → Option Callback)
    (script : List (TimerAct Callback) → List (TimerOp Callback)) (world : TimerWorld Callback) : Prop :=
  ∃ next, world.expired listeners script = some next ∧ next.mgr.curMsTime = world.mgr.curMsTime ∧
    (next.Few → ∃ acts, next.log = acts ++ world.log ∧
      ((firedEvents acts).Pairwise fun late early => early.ulExpiredTime ≤ late.ulExpiredTime) ∧
      ∀ id expiry, expiryOf next.log id = some expiry → next.mgr.curMsTime < expiry)

/-- Timers in every run of `AddTimer`, `CancelTimer`, clock changes and `Expired`: none fires
twice, none before its expiry, none after it was cancelled, and `Expired` fires all that are
due, in order. -/
theorem timers_fire_correctly {start : MsTime} {calls : List (TimerCall Callback)}
   
    (run : Steps (TimerStep listeners) (TimerWorld.init start) calls world)
    (few : (addedIds world.log).length < 2 ^ 32 - 1) :
    ((firedEvents world.log).map (·.dwTimerID)).Nodup ∧
      (∀ event handler now, .fired event handler now ∈ world.log →
        .added event.dwTimerID event.ulExpiredTime ∈ world.log ∧ event.ulExpiredTime ≤ now) ∧
      (∀ later earlier id, world.log = later ++ .canceled id :: earlier → id ∈ addedIds earlier →
        ∀ event ∈ firedEvents later, event.dwTimerID ≠ id) ∧
      ∀ script, Delaying script → ExpiresInOrder listeners script world := by
  have kept := TimerStep.run_kept run
  have sound := kept.sound few
  refine ⟨fired_once sound.lawful, ?_, ?_, ?_⟩
  · intro event handler now member
    obtain ⟨later, earlier, split⟩ := List.append_of_mem member
    have rule := (split ▸ sound.lawful : Justified Lawful _).split
    refine ⟨?_, rule.2⟩
    rw [split]
    exact List.mem_append_right _ (List.mem_cons_of_mem _ (added_of_expiryOf rule.1))
  · intro later earlier id split given
    exact not_fired_after_cancel (split ▸ sound.lawful) given
  · intro script delaying
    obtain ⟨next, returned⟩ := expired_returns delaying kept.signed
    obtain ⟨clock, -⟩ := expiredLoop_log delaying kept.signed returned
    refine ⟨next, returned, clock, ?_⟩
    intro fewer
    have expires := expired_expires delaying kept.signed kept.indexed returned
    obtain ⟨after, acts, log, -, ordered⟩ := expires.fires sound fewer
    refine ⟨acts, log, ordered, ?_⟩
    intro id expiry pending
    obtain ⟨event, member, rfl⟩ := after.expiry_of_log pending
    exact expires.events event member

/-- Two timers, and the clock behind the expiry of both. -/
def armedWorld : TimerWorld Unit :=
  (((TimerWorld.init ⟨1000, by decide⟩).addTimer 5 7 (some ()) 0).addTimer 3 7 (some ()) 0).updateMsTime
    ⟨2000, by decide⟩

def firedWorld : TimerWorld Unit := (armedWorld.expired (fun _ => none) fun _ => []).get (by decide +kernel)

theorem timers_fire_correctly_armed :
    (firedEvents firedWorld.log).map (fun event => (event.dwTimerID, event.ulExpiredTime)) =
        [(1, 1005), (2, 1003)] ∧
      ((firedEvents firedWorld.log).map (·.dwTimerID)).Nodup ∧
      (∀ event handler now, .fired event handler now ∈ firedWorld.log →
        .added event.dwTimerID event.ulExpiredTime ∈ firedWorld.log ∧ event.ulExpiredTime ≤ now) ∧
      ExpiresInOrder (fun _ => none) (fun _ => []) armedWorld := by
  have armed : Steps (TimerStep fun _ => none) (TimerWorld.init ⟨1000, by decide⟩)
      [.op (.addTimer 5 7 (some ()) 0), .op (.addTimer 3 7 (some ()) 0), .clock ⟨2000, by decide⟩] armedWorld :=
    .cons ⟨trivial, rfl⟩ (.cons ⟨trivial, rfl⟩ (.single ⟨trivial, rfl⟩))
  have fires : TimerStep (fun _ => none) armedWorld (.expired fun _ => []) firedWorld :=
    ⟨nofun, (Option.some_get _).symm⟩
  obtain ⟨once, due, -, -⟩ := timers_fire_correctly (armed.append (.single fires)) (by decide +kernel)
  exact ⟨by decide +kernel, once, due, (timers_fire_correctly armed (by decide)).2.2.2 _ nofun⟩

end Playground.Component
