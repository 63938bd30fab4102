import Mathlib.Data.List.Nodup
import Mathlib.Data.List.Perm.Subperm
import Playground.Component.Expired
import Playground.Transition.Steps

/-! Timers fire once, not early, not after they were cancelled, and in the order of their expiry. -/

namespace Playground.Component

open Transition

variable {Callback : Type}
variable {id : UInt32}

/-- The expiry of a timer that was added and since then neither cancelled nor fired. -/
def expiryOf : List (TimerAct Callback) → UInt32 → Option UInt64
  | [], _ => none
  | .added id expiry :: log, timer => if id = timer then some expiry else expiryOf log timer
  | .canceled id :: log, timer => if id = timer then none else expiryOf log timer
  | .fired event _ _ :: log, timer => if event.dwTimerID = timer then none else expiryOf log timer

def TimerAct.addedId? : TimerAct Callback → Option UInt32
  | .added id _ => some id
  | _ => none

def TimerAct.fired? : TimerAct Callback → Option (TimerEvent Callback)
  | .fired event _ _ => some event
  | _ => none

def addedIds (log : List (TimerAct Callback)) : List UInt32 := log.filterMap TimerAct.addedId?

def firedEvents (log : List (TimerAct Callback)) :
    List (TimerEvent Callback) := log.filterMap TimerAct.fired?

/-- Ids are not given twice, and only a pending timer fires, when its time has come. -/
def Lawful (log : List (TimerAct Callback)) : TimerAct Callback → Prop
  | .added id _ => id ∉ addedIds log
  | .canceled _ => True
  | .fired event _ now => expiryOf log event.dwTimerID = some event.ulExpiredTime ∧ event.ulExpiredTime ≤ now

theorem added_of_expiryOf
    (pending : expiryOf log id = some expiry) : .added id expiry ∈ log := by
  induction log with
  | nil => cases pending
  | cons act log ih =>
    cases act with
    | added other time =>
      rw [expiryOf] at pending
      split at pending
      · next same =>
        cases pending
        exact same ▸ List.mem_cons_self
      · exact List.mem_cons_of_mem _ (ih pending)
    | canceled other =>
      rw [expiryOf] at pending
      split at pending
      · cases pending
      · exact List.mem_cons_of_mem _ (ih pending)
    | fired event handler now =>
      rw [expiryOf] at pending
      split at pending
      · cases pending
      · exact List.mem_cons_of_mem _ (ih pending)

theorem mem_addedIds (member : .added id expiry ∈ log) : id ∈ addedIds log :=
  List.mem_filterMap.mpr ⟨_, member, rfl⟩

theorem settled
    (lawful : Justified Lawful (later ++ earlier)) (given : id ∈ addedIds earlier)
    (settled : expiryOf earlier id = none) :
    expiryOf (later ++ earlier) id = none ∧ ∀ event ∈ firedEvents later, event.dwTimerID ≠ id := by
  induction later with
  | nil => exact ⟨settled, nofun⟩
  | cons act later ih =>
    rw [List.cons_append] at lawful ⊢
    obtain ⟨rule, rest⟩ := lawful
    obtain ⟨none, others⟩ := ih rest
    cases act with
    | added other time =>
      have fresh : other ≠ id := by
        intro same
        refine rule (List.mem_filterMap.mpr ?_)
        obtain ⟨act, member, added⟩ := List.mem_filterMap.mp given
        exact ⟨act, List.mem_append_right _ member, same ▸ added⟩
      exact ⟨by simpa [expiryOf, fresh] using none, others⟩
    | canceled other => exact ⟨by simpa [expiryOf] using fun _ => none, others⟩
    | fired event handler now =>
      have different : event.dwTimerID ≠ id := by
        intro same
        have pending := rule.1
        rw [same, none] at pending
        cases pending
      refine ⟨by simpa [expiryOf, different] using none, ?_⟩
      intro other member
      rcases List.mem_cons.mp member with rfl | old
      · exact different
      · exact others other old

theorem not_fired_after_cancel
    (lawful : Justified Lawful (later ++ .canceled id :: earlier)) (given : id ∈ addedIds earlier) :
    ∀ event ∈ firedEvents later, event.dwTimerID ≠ id :=
  (settled lawful (by simpa [addedIds, TimerAct.addedId?] using given) (by simp [expiryOf])).2

theorem fired_once {log : List (TimerAct Callback)} (lawful : Justified Lawful log) :
    ((firedEvents log).map (·.dwTimerID)).Nodup := by
  induction log with
  | nil => exact List.nodup_nil
  | cons act log ih =>
    obtain ⟨rule, rest⟩ := lawful
    cases act with
    | added id expiry => exact ih rest
    | canceled id => exact ih rest
    | fired event handler now =>
      refine List.nodup_cons.mpr ⟨?_, ih rest⟩
      intro again
      obtain ⟨old, member, same⟩ := List.mem_map.mp again
      obtain ⟨act, logged, old_fired⟩ := List.mem_filterMap.mp member
      cases act with
      | added | canceled => cases old_fired
      | fired first handler time =>
        cases old_fired
        obtain ⟨later, earlier, rfl⟩ := List.append_of_mem logged
        have before := rest.split.1
        have given := mem_addedIds (added_of_expiryOf before)
        have ended := settled rest (by simpa [addedIds, TimerAct.addedId?] using given) (by simp [expiryOf])
        rw [same, rule.1] at ended
        cases ended.1

theorem added_unique (lawful : Justified Lawful log)
    (first : .added id one ∈ log) (second : .added id other ∈ log) : one = other := by
  induction log with
  | nil => cases first
  | cons act log ih =>
    obtain ⟨rule, rest⟩ := lawful
    rcases List.mem_cons.mp first with latest | early
    · subst latest
      rcases List.mem_cons.mp second with same | early
      · cases same
        rfl
      · exact absurd (mem_addedIds early) rule
    · rcases List.mem_cons.mp second with latest | also
      · subst latest
        exact absurd (mem_addedIds early) rule
      · exact ih rest early also

theorem insertTimer_perm (entry : UInt64 × UInt32) (timers : List (UInt64 × UInt32)) :
    (insertTimer entry timers).Perm (entry :: timers) := by
  induction timers with
  | nil => exact .refl _
  | cons first rest ih =>
    rw [insertTimer]
    split
    · exact .refl _
    · exact (ih.cons first).trans (.swap _ _ _)

def Sorted (timers : List (UInt64 × UInt32)) : Prop := timers.Pairwise fun left right => left.1 ≤ right.1

theorem insertTimer_sorted (entry : UInt64 × UInt32)
    (sorted : Sorted timers) : Sorted (insertTimer entry timers) := by
  induction timers with
  | nil => exact List.pairwise_singleton _ _
  | cons first rest ih =>
    obtain ⟨least, tail⟩ := List.pairwise_cons.mp sorted
    rw [insertTimer]
    split
    · next before =>
      refine List.pairwise_cons.mpr ⟨?_, sorted⟩
      intro other member
      rcases List.mem_cons.mp member with rfl | later
      · exact UInt64.le_of_lt before
      · exact UInt64.le_trans (UInt64.le_of_lt before) (least other later)
    · next behind =>
      refine List.pairwise_cons.mpr ⟨?_, ih tail⟩
      intro other member
      rcases List.mem_cons.mp ((insertTimer_perm entry rest).subset member) with rfl | old
      · exact UInt64.not_lt.mp behind
      · exact least other old

theorem mem_take_insertTimer (entry : UInt64 × UInt32) {timers : List (UInt64 × UInt32)}
    (member : other ∈ (insertTimer entry timers).take (moveIterator (insertPosition entry.1 timers) it)) :
    other = entry ∨ other ∈ timers.take it := by
  induction timers generalizing it with
  | nil => exact .inl (List.mem_singleton.mp (List.mem_of_mem_take member))
  | cons first rest ih =>
    by_cases before : entry.1 < first.1
    · have place : insertPosition entry.1 (first :: rest) = 0 := by
        simp [insertPosition, UInt64.not_le.mpr before]
      rw [place, insertTimer, if_pos before, moveIterator, if_pos (Nat.zero_le _), List.take_succ_cons] at member
      exact List.mem_cons.mp member
    · have place : insertPosition entry.1 (first :: rest) = insertPosition entry.1 rest + 1 := by
        simp [insertPosition, UInt64.not_lt.mp before]
      rw [place, insertTimer, if_neg before] at member
      cases it with
      | zero => simp [moveIterator] at member
      | succ it =>
        have moved : moveIterator (insertPosition entry.1 rest + 1) (it + 1) =
            moveIterator (insertPosition entry.1 rest) it + 1 := by
          unfold moveIterator
          split <;> split <;> omega
        rw [moved, List.take_succ_cons] at member
        rcases List.mem_cons.mp member with rfl | later
        · exact .inr List.mem_cons_self
        · exact (ih later).imp_right (List.mem_cons_of_mem _)

theorem mem_eraseIdx_of_ne {list : List α} (found : list[it]? = some item)
    (member : other ∈ list) (different : other ≠ item) : other ∈ list.eraseIdx it := by
  obtain ⟨place, there⟩ := List.mem_iff_getElem?.mp member
  refine List.mem_eraseIdx_iff_getElem?.mpr ⟨place, ?_, there⟩
  intro same
  rw [same, found] at there
  exact different (Option.some.inj there).symm

namespace TimerWorld

variable {world : TimerWorld Callback}

/-- Every event of the manager has its entry in the multimap. -/
structure Indexed (world : TimerWorld Callback) : Prop where
  sorted : Sorted world.mgr.timers
  entries : ∀ event ∈ world.mgr.timerEvents, (event.ulExpiredTime, event.dwTimerID) ∈ world.mgr.timers

section

variable (indexed : world.Indexed)

include indexed

theorem Indexed.addTimer (msLater : Int32) (iEvent : Int)
    (func : Option Callback) (ulParam : UInt64) : (world.addTimer msLater iEvent func ulParam).Indexed where
  sorted := insertTimer_sorted _ indexed.sorted
  entries event member := by
    have perm := (insertTimer_perm (world.mgr.curMsTime + msLater.toInt64.toUInt64, freeTimerID
      world.mgr.timerEvents world.mgr.timerEvents.length world.mgr.dwNextTimerID) world.mgr.timers).symm
    rcases List.mem_cons.mp member with rfl | old
    · exact perm.subset List.mem_cons_self
    · exact perm.subset (List.mem_cons_of_mem _ (indexed.entries event old))

theorem Indexed.cancelTimer (id : UInt32) :
    (world.cancelTimer id).Indexed where
  sorted := indexed.sorted
  entries event member := indexed.entries event (List.mem_filter.mp member).1

theorem Indexed.updateMsTime (now : MsTime) : (world.updateMsTime now).Indexed :=
  ⟨indexed.sorted, indexed.entries⟩

theorem Indexed.apply (op : TimerOp Callback) : (world.apply op).Indexed := by
  cases op with
  | addTimer msLater iEvent func ulParam => exact indexed.addTimer msLater iEvent func ulParam
  | cancelTimer id => exact indexed.cancelTimer id

theorem Indexed.runOps (it : Nat)
    (ops : List (TimerOp Callback)) : (world.runOps it ops).1.Indexed := by
  induction ops generalizing world it with
  | nil => exact indexed
  | cons op ops ih => exact ih (indexed.apply op) _

theorem Indexed.take (found : world.mgr.timers[it]? = some entry) (log : List (TimerAct Callback)) :
    Indexed { mgr := world.take it entry.2, log } where
  sorted := indexed.sorted.sublist (List.eraseIdx_sublist _ _)
  entries event member := by
    obtain ⟨old, kept⟩ := List.mem_filter.mp member
    refine mem_eraseIdx_of_ne found (indexed.entries event old) ?_
    intro taken
    exact bne_iff_ne.mp kept (congrArg Prod.snd taken)

end

/-- The manager holds exactly the pending timers of the log. -/
structure Sound (world : TimerWorld Callback) : Prop extends Indexed world where
  stamped : ∀ entry ∈ world.mgr.timers, .added entry.2 entry.1 ∈ world.log
  pending : ∀ event ∈ world.mgr.timerEvents, expiryOf world.log event.dwTimerID = some event.ulExpiredTime
  held : ∀ id expiry, expiryOf world.log id = some expiry → ∃ event ∈ world.mgr.timerEvents, event.dwTimerID = id
  next : world.mgr.dwNextTimerID = UInt32.ofNat ((addedIds world.log).length + 1)
  ids : ∀ id ∈ addedIds world.log, id.toNat ≤ (addedIds world.log).length
  lawful : Justified Lawful world.log

/-- Fewer than 2^32 - 1 calls of `AddTimer`, so that no id comes again. -/
def Few (world : TimerWorld Callback) : Prop := (addedIds world.log).length < 2 ^ 32 - 1

theorem freeTimerID_free {events : List (TimerEvent Callback)}
    (free : ∀ event ∈ events, event.dwTimerID ≠ id) (fuel : Nat) : freeTimerID events fuel id = id := by
  cases fuel with
  | zero => rfl
  | succ fuel =>
    rw [freeTimerID, if_neg]
    simpa using free

private theorem freeTimerID_passed (events : List (TimerEvent Callback)) (fuel : Nat) (id : UInt32) :
    ∃ m ≤ fuel, freeTimerID events fuel id = id + UInt32.ofNat m ∧
      (∀ j < m, id + UInt32.ofNat j ∈ events.map (·.dwTimerID)) ∧
      (m < fuel → id + UInt32.ofNat m ∉ events.map (·.dwTimerID)) := by
  induction fuel generalizing id with
  | zero => exact ⟨0, Nat.le_refl _, (UInt32.add_zero id).symm, nofun, nofun⟩
  | succ fuel ih =>
    rw [freeTimerID]
    split
    · next used =>
      obtain ⟨m, within, same, passed, free⟩ := ih (id + 1)
      have next : ∀ j, id + 1 + UInt32.ofNat j = id + UInt32.ofNat (j + 1) := by
        intro j
        rw [UInt32.ofNat_add, UInt32.add_comm (UInt32.ofNat j), ← UInt32.add_assoc]
        rfl
      refine ⟨m + 1, by omega, by rw [same, next], ?_, fun below => next m ▸ free (by omega)⟩
      intro j below
      cases j with
      | zero => simpa [UInt32.add_zero] using used
      | succ j => exact next j ▸ passed j (by omega)
    · next unused =>
      refine ⟨0, Nat.zero_le _, (UInt32.add_zero id).symm, nofun, ?_⟩
      simpa [UInt32.add_zero] using unused

/-- With fewer events than ids there is a free id, and the loop finds it. -/
theorem freeTimerID_unused {events : List (TimerEvent Callback)} (few : events.length < 2 ^ 32)
    (id : UInt32) :
    freeTimerID events events.length id ∉ events.map (·.dwTimerID) := by
  obtain ⟨m, within, same, passed, free⟩ := freeTimerID_passed events events.length id
  rw [same]
  rcases Nat.lt_or_eq_of_le within with below | rfl
  · exact free below
  · intro used
    -- one id more than there are events
    have distinct : ((List.range (events.length + 1)).map fun j => id + UInt32.ofNat j).Nodup := by
      refine List.Nodup.map_on ?_ List.nodup_range
      intro j inside k inside' equal
      have ids := congrArg UInt32.toNat ((UInt32.add_right_inj id).mp equal)
      simp only [List.mem_range] at inside inside'
      rwa [UInt32.toNat_ofNat_of_lt' (by simp only [UInt32.size]; omega),
        UInt32.toNat_ofNat_of_lt' (by simp only [UInt32.size]; omega)] at ids
    have all : ((List.range (events.length + 1)).map fun j => id + UInt32.ofNat j) ⊆
        events.map (·.dwTimerID) := by
      intro other member
      obtain ⟨j, inside, rfl⟩ := List.mem_map.mp member
      rcases Nat.lt_or_eq_of_le (Nat.lt_succ_iff.mp (List.mem_range.mp inside)) with below | rfl
      · exact passed j below
      · exact used
    have counted := (List.Nodup.subperm distinct all).length_le
    simp only [List.length_map, List.length_range] at counted
    omega

theorem Sound.addTimer (sound : world.Sound) (msLater : Int32) (iEvent : Int)
    (func : Option Callback) (ulParam : UInt64) (few : (world.addTimer msLater iEvent func ulParam).Few) :
    (world.addTimer msLater iEvent func ulParam).Sound := by
  have room : (addedIds world.log).length + 1 < 2 ^ 32 - 1 := few
  have value : world.mgr.dwNextTimerID.toNat = (addedIds world.log).length + 1 := by
    rw [sound.next]
    exact UInt32.toNat_ofNat_of_lt (by simp [UInt32.size]; omega)
  have fresh : world.mgr.dwNextTimerID ∉ addedIds world.log := by
    intro given
    have bound := sound.ids _ given
    omega
  have unused : ∀ event ∈ world.mgr.timerEvents, event.dwTimerID ≠ world.mgr.dwNextTimerID := by
    intro event member same
    exact fresh (same ▸ mem_addedIds (added_of_expiryOf (sound.pending event member)))
  have id : freeTimerID world.mgr.timerEvents world.mgr.timerEvents.length world.mgr.dwNextTimerID =
      world.mgr.dwNextTimerID := freeTimerID_free unused _
  have indexed := sound.toIndexed.addTimer msLater iEvent func ulParam
  unfold TimerWorld.addTimer TimerMgr.addTimer at indexed ⊢
  simp only [id] at indexed ⊢
  generalize world.mgr.curMsTime + msLater.toInt64.toUInt64 = expiry at indexed ⊢
  have perm := insertTimer_perm (expiry, world.mgr.dwNextTimerID) world.mgr.timers
  refine ⟨indexed, ?_, ?_, ?_, ?_, ?_, ?_⟩
  · intro entry member
    rcases List.mem_cons.mp (perm.subset member) with rfl | old
    · exact List.mem_cons_self
    · exact List.mem_cons_of_mem _ (sound.stamped entry old)
  · intro event member
    rcases List.mem_cons.mp member with rfl | old
    · exact if_pos rfl
    · exact (if_neg (Ne.symm (unused event old))).trans (sound.pending event old)
  · intro timer time found
    by_cases same : world.mgr.dwNextTimerID = timer
    · exact ⟨_, List.mem_cons_self, same⟩
    · obtain ⟨event, member, named⟩ := sound.held timer time ((if_neg same).symm.trans found)
      exact ⟨event, List.mem_cons_of_mem _ member, named⟩
  · exact (congrArg (· + 1) sound.next).trans (UInt32.ofNat_add _ 1).symm
  · intro other given
    rcases List.mem_cons.mp given with rfl | old
    · exact Nat.le_of_eq value
    · exact Nat.le_succ_of_le (sound.ids other old)
  · exact ⟨fresh, sound.lawful⟩

theorem Sound.cancelTimer (sound : world.Sound) (id : UInt32) :
    (world.cancelTimer id).Sound where
  toIndexed := sound.toIndexed.cancelTimer id
  stamped entry member := List.mem_cons_of_mem _ (sound.stamped entry member)
  pending event member := by
    obtain ⟨old, kept⟩ := List.mem_filter.mp member
    have other : id ≠ event.dwTimerID := by simpa using Ne.symm (bne_iff_ne.mp kept)
    exact (if_neg other).trans (sound.pending event old)
  held timer expiry found := by
    by_cases same : id = timer
    · exact absurd ((if_pos same).symm.trans found) nofun
    · obtain ⟨event, member, named⟩ := sound.held timer expiry ((if_neg same).symm.trans found)
      refine ⟨event, List.mem_filter.mpr ⟨member, ?_⟩, named⟩
      simpa [named] using Ne.symm same
  next := sound.next
  ids := sound.ids
  lawful := ⟨trivial, sound.lawful⟩

theorem Sound.take (sound : world.Sound) {entry : UInt64 × UInt32}
    (found : world.mgr.timers[it]? = some entry) {log : List (TimerAct Callback)}
    (same : addedIds log = addedIds world.log) (older : ∀ act ∈ world.log, act ∈ log)
    (others : ∀ id, id ≠ entry.2 → expiryOf log id = expiryOf world.log id)
    (gone : expiryOf log entry.2 = none) (lawful : Justified Lawful log) :
    Sound { mgr := world.take it entry.2, log } where
  toIndexed := sound.toIndexed.take found log
  stamped other member := older _ (sound.stamped other (List.mem_of_mem_eraseIdx member))
  pending event member := by
    obtain ⟨old, kept⟩ := List.mem_filter.mp member
    exact (others _ (bne_iff_ne.mp kept)).trans (sound.pending event old)
  held timer expiry pending := by
    have different : timer ≠ entry.2 := by
      intro taken
      rw [taken, gone] at pending
      cases pending
    obtain ⟨event, member, named⟩ := sound.held timer expiry ((others timer different).symm.trans pending)
    exact ⟨event, List.mem_filter.mpr ⟨member, by simpa [named] using different⟩, named⟩
  next := by
    rw [same]
    exact sound.next
  ids := by
    rw [same]
    exact sound.ids
  lawful := lawful

theorem Sound.expiry_eq (sound : world.Sound) {entry : UInt64 × UInt32}
    (stored : entry ∈ world.mgr.timers) {event : TimerEvent Callback} (member : event ∈ world.mgr.timerEvents)
    (named : event.dwTimerID = entry.2) : event.ulExpiredTime = entry.1 := by
  have added := added_of_expiryOf (sound.pending event member)
  rw [named] at added
  exact added_unique sound.lawful added (sound.stamped entry stored)

end TimerWorld

def TimerOp.Delays : TimerOp Callback → Prop
  | .addTimer msLater _ _ _ => 1 ≤ msLater
  | .cancelTimer _ => True

theorem lt_add_delay {now : UInt64} (signed : now.toNat < 2 ^ 63) {msLater : Int32} (delays : 1 ≤ msLater) :
    now < now + msLater.toInt64.toUInt64 := by
  have positive : 1 ≤ msLater.toInt := Int32.le_iff_toInt_le.mp delays
  have bound := msLater.toInt_lt
  have extended : (0 : Int64) ≤ msLater.toInt64 := by
    rw [Int64.le_iff_toInt_le, Int32.toInt_toInt64]
    exact Int.le_trans (by decide) positive
  have value : msLater.toInt64.toUInt64.toNat = msLater.toInt.toNat := by
    rw [Int64.toNat_toUInt64_of_le extended, Int32.toNatClampNeg_toInt64]
    rfl
  rw [UInt64.lt_iff_toNat_lt, UInt64.toNat_add, value]
  omega

/-- All that a handler adds lies behind the present time. -/
structure Postpones (now : UInt64) (timers : List (UInt64 × UInt32)) (it : Nat)
    (timers' : List (UInt64 × UInt32)) (it' : Nat) : Prop where
  later : ∀ entry ∈ timers', entry ∈ timers ∨ now < entry.1
  passed : ∀ entry ∈ timers'.take it', entry ∈ timers.take it ∨ now < entry.1
  due : timers'.countP (·.1 ≤ now) = timers.countP (·.1 ≤ now)

theorem Postpones.refl (now : UInt64) (timers : List (UInt64 × UInt32)) (it : Nat) :
    Postpones now timers it timers it :=
  ⟨fun _ => .inl, fun _ => .inl, rfl⟩

theorem Postpones.trans
    (left : Postpones now first i second j) (right : Postpones now second j third k) :
    Postpones now first i third k where
  later entry member := (right.later entry member).elim (left.later entry) .inr
  passed entry member := (right.passed entry member).elim (left.passed entry) .inr
  due := right.due.trans left.due

theorem Postpones.insert (delayed : now < time) (id : UInt32)
    (timers : List (UInt64 × UInt32)) (it : Nat) :
    Postpones now timers it (insertTimer (time, id) timers) (moveIterator (insertPosition time timers) it) where
  later entry member := by
    rcases List.mem_cons.mp ((insertTimer_perm (time, id) timers).subset member) with rfl | old
    · exact .inr delayed
    · exact .inl old
  passed entry member := by
    rcases mem_take_insertTimer (time, id) member with rfl | old
    · exact .inr delayed
    · exact .inl old
  due := by
    rw [(insertTimer_perm (time, id) timers).countP_eq, List.countP_cons_of_neg]
    simpa using delayed

structure Handled (world next : TimerWorld Callback) (it it' : Nat) : Prop where
  clock : next.mgr.curMsTime = world.mgr.curMsTime
  grows : ∃ acts, next.log = acts ++ world.log ∧ firedEvents acts = []
  timers : Postpones world.mgr.curMsTime world.mgr.timers it next.mgr.timers it'

theorem Handled.trans
    (left : Handled first second i j) (right : Handled second third j k) : Handled first third i k where
  clock := right.clock.trans left.clock
  grows := by
    obtain ⟨early, same, none⟩ := left.grows
    obtain ⟨late, also, nothing⟩ := right.grows
    refine ⟨late ++ early, by rw [also, same, List.append_assoc], ?_⟩
    simp only [firedEvents, List.filterMap_append] at *
    rw [none, nothing]
    rfl
  timers := left.timers.trans (left.clock ▸ right.timers)

namespace TimerWorld

variable {world : TimerWorld Callback}

private theorem apply_handled (signed : world.mgr.curMsTime.toNat < 2 ^ 63) (it : Nat)
    {op : TimerOp Callback} (delays : op.Delays) : Handled world (world.apply op) it (world.follow it op) := by
  cases op with
  | addTimer msLater iEvent func ulParam =>
    exact ⟨rfl, ⟨[_], rfl, rfl⟩, .insert (lt_add_delay signed delays) _ _ _⟩
  | cancelTimer id => exact ⟨rfl, ⟨[_], rfl, rfl⟩, .refl _ _ _⟩

theorem runOps_handled (signed : world.mgr.curMsTime.toNat < 2 ^ 63)
    (it : Nat) (delays : ∀ op ∈ ops, op.Delays) :
    Handled world (world.runOps it ops).1 it (world.runOps it ops).2 := by
  induction ops generalizing world it with
  | nil => exact ⟨rfl, ⟨[], rfl, rfl⟩, .refl _ _ _⟩
  | cons op ops ih =>
    have first := apply_handled signed it (delays op List.mem_cons_self)
    refine first.trans (ih (first.clock ▸ signed) _ ?_)
    intro other member
    exact delays other (List.mem_cons_of_mem _ member)

theorem Few.earlier {next : TimerWorld Callback} (few : next.Few)
    (grows : next.log = acts ++ world.log) : world.Few := by
  unfold Few at *
  rw [grows, addedIds, List.filterMap_append, List.length_append] at few
  exact Nat.lt_of_le_of_lt (Nat.le_add_left _ _) few

theorem apply_log (world : TimerWorld Callback) (op : TimerOp Callback) :
    ∃ act, (world.apply op).log = [act] ++ world.log := by
  cases op with
  | addTimer => exact ⟨_, rfl⟩
  | cancelTimer => exact ⟨_, rfl⟩

private theorem runOps_log (world : TimerWorld Callback) (it : Nat) (ops : List (TimerOp Callback)) :
    ∃ acts, (world.runOps it ops).1.log = acts ++ world.log := by
  induction ops generalizing world it with
  | nil => exact ⟨[], rfl⟩
  | cons op ops ih =>
    obtain ⟨act, first⟩ := world.apply_log op
    obtain ⟨acts, rest⟩ := ih (world.apply op) (world.follow it op)
    exact ⟨acts ++ [act], by rw [runOps, rest, first, List.append_assoc]⟩

theorem Sound.apply (sound : world.Sound) (op : TimerOp Callback)
    (few : (world.apply op).Few) : (world.apply op).Sound := by
  cases op with
  | addTimer msLater iEvent func ulParam => exact sound.addTimer msLater iEvent func ulParam few
  | cancelTimer id => exact sound.cancelTimer id

theorem Sound.runOps (sound : world.Sound) (it : Nat)
    (ops : List (TimerOp Callback)) (few : (world.runOps it ops).1.Few) : (world.runOps it ops).1.Sound := by
  induction ops generalizing world it with
  | nil => exact sound
  | cons op ops ih =>
    obtain ⟨acts, rest⟩ := (world.apply op).runOps_log (world.follow it op) ops
    exact ih (sound.apply op (few.earlier rest)) _ few

end TimerWorld

end Playground.Component
