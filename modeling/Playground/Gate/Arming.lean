import Playground.Component.Timers
import Playground.Gate.Schedule

/-! The invariant of the idle timers. -/

namespace Playground.Gate

open Framing Component Transition

def Schedule.take (schedule : Schedule) (it : Nat) (id : UInt32) : Schedule :=
  { schedule with timerMgr := TimerWorld.take { mgr := schedule.timerMgr, log := [] } it id }

/-- Every live slot has its timer, except the lost ones, which have none. -/
structure Armed (lost : Nat → Prop) (schedule : Schedule) : Prop where
  owned : ∀ event ∈ schedule.timerMgr.timerEvents, event.cb = some GateTimer.checkConnxFree ∧
    ∃ i : Nat, event.iEvent = i ∧ ¬ lost i ∧ (schedule.slots i).live ∧
      (schedule.slots i).dwTimerID = event.dwTimerID
  held : ∀ i, (schedule.slots i).live → ¬ lost i → ∃ event ∈ schedule.timerMgr.timerEvents, event.iEvent = i
  live : ∀ i, lost i → (schedule.slots i).live
  distinct : (schedule.timerMgr.timerEvents.map (·.dwTimerID)).Nodup
  indexed : TimerWorld.Indexed { mgr := schedule.timerMgr, log := [] }
  ranged : ∀ i, (schedule.slots i).live → 1 ≤ i ∧ i < schedule.size
  few : schedule.size < 2 ^ 32
  period : 0 < schedule.iConnxMaxIdleTime

namespace Armed

variable {lost : Nat → Prop} {schedule : Schedule} {i : Nat} {event : TimerEvent GateTimer}

variable (armed : Armed lost schedule)

include armed

theorem congr (same : ∀ j, lost j ↔ other j) : Armed other schedule := by
  obtain rfl : lost = other := funext fun j => propext (same j)
  exact armed

theorem event_eq {other : TimerEvent GateTimer}
    (member : event ∈ schedule.timerMgr.timerEvents) (member' : other ∈ schedule.timerMgr.timerEvents)
    (same : event.dwTimerID = other.dwTimerID) : event = other :=
  List.inj_on_of_nodup_map armed.distinct member member' same

theorem id_eq (member : event ∈ schedule.timerMgr.timerEvents) (about : event.iEvent = i) :
    event.dwTimerID = (schedule.slots i).dwTimerID ∧ ¬ lost i ∧ (schedule.slots i).live := by
  obtain ⟨_, j, named, kept, live, id⟩ := armed.owned event member
  obtain rfl : j = i := Int.ofNat.inj (named.symm.trans about)
  exact ⟨id.symm, kept, live⟩

theorem only (live : (schedule.slots i).live) (kept : ¬ lost i)
    (member : event ∈ schedule.timerMgr.timerEvents)
    (named : event.dwTimerID = (schedule.slots i).dwTimerID) : event.iEvent = i := by
  obtain ⟨own, owned, about⟩ := armed.held i live kept
  rw [armed.event_eq member owned (named.trans (armed.id_eq owned about).1.symm)]
  exact about

theorem length_le : schedule.timerMgr.timerEvents.length ≤ schedule.size := by
  have nodup : (schedule.timerMgr.timerEvents.map fun event => event.iEvent.toNat).Nodup := by
    refine List.Nodup.map_on ?_ (List.Nodup.of_map _ armed.distinct)
    intro event member other member' same
    obtain ⟨_, i, named, _, _, id⟩ := armed.owned event member
    obtain ⟨_, j, named', _, _, id'⟩ := armed.owned other member'
    obtain rfl : i = j := by rw [named, named'] at same; simpa using same
    exact armed.event_eq member member' (id.symm.trans id')
  have inside :
      (schedule.timerMgr.timerEvents.map fun event => event.iEvent.toNat) ⊆ List.range schedule.size := by
    intro i member
    obtain ⟨event, listed, rfl⟩ := List.mem_map.mp member
    obtain ⟨_, j, named, _, live, _⟩ := armed.owned event listed
    rw [named, Int.toNat_natCast]
    exact List.mem_range.mpr (armed.ranged j live).2
  have bound := (List.Nodup.subperm nodup inside).length_le
  rwa [List.length_map, List.length_range] at bound

theorem remove
    (only : ∀ event ∈ schedule.timerMgr.timerEvents, event.dwTimerID = (schedule.slots i).dwTimerID →
      event.iEvent = i) :
    Armed (fun j => lost j ∧ j ≠ i) (schedule.remove i) where
  owned event member := by
    obtain ⟨old, different⟩ := List.mem_filter.mp member
    obtain ⟨cb, j, named, kept, live, id⟩ := armed.owned event old
    have other : j ≠ i := by
      rintro rfl
      exact bne_iff_ne.mp different id.symm
    refine ⟨cb, j, named, fun isLost => kept isLost.1, ?_⟩
    simp [Schedule.remove, other, live, id]
  held j live kept := by
    have other : j ≠ i := by
      rintro rfl
      simp [Schedule.remove] at live
    simp only [Schedule.remove, Function.update_of_ne other] at live
    obtain ⟨event, member, about⟩ := armed.held j live fun isLost => kept ⟨isLost, other⟩
    refine ⟨event, List.mem_filter.mpr ⟨member, bne_iff_ne.mpr fun named => other ?_⟩, about⟩
    exact Int.ofNat.inj (about.symm.trans (only event member named))
  live j isLost := by
    simp [Schedule.remove, isLost.2, armed.live j isLost.1]
  distinct := armed.distinct.sublist (List.Sublist.map _ List.filter_sublist)
  indexed := ⟨armed.indexed.sorted, fun event member => armed.indexed.entries event (List.mem_filter.mp member).1⟩
  ranged j live := by
    by_cases same : j = i
    · subst same
      simp [Schedule.remove] at live
    · simp only [Schedule.remove, Function.update_of_ne same] at live
      exact armed.ranged j live
  few := armed.few
  period := armed.period

theorem arm (isLost : lost i) : Armed (fun j => lost j ∧ j ≠ i) (schedule.arm i) := by
  have fresh := TimerWorld.freeTimerID_unused (Nat.lt_of_le_of_lt armed.length_le armed.few)
    schedule.timerMgr.dwNextTimerID
  have indexed := armed.indexed.addTimer (schedule.iConnxMaxIdleTime * 1000).toInt32 i
    (some GateTimer.checkConnxFree) 0
  unfold Schedule.arm
  unfold TimerWorld.addTimer at indexed
  unfold TimerMgr.addTimer at indexed ⊢
  dsimp only at indexed ⊢
  generalize freeTimerID schedule.timerMgr.timerEvents schedule.timerMgr.timerEvents.length
    schedule.timerMgr.dwNextTimerID = id at fresh indexed ⊢
  refine ⟨?_, ?_, ?_, List.nodup_cons.mpr ⟨fresh, armed.distinct⟩, ⟨indexed.sorted, indexed.entries⟩, ?_,
    armed.few, armed.period⟩
  · intro event member
    rcases List.mem_cons.mp member with rfl | old
    · refine ⟨rfl, i, rfl, fun still => still.2 rfl, ?_⟩
      simp [armed.live i isLost]
    · obtain ⟨cb, j, named, kept, live, own⟩ := armed.owned event old
      have other : j ≠ i := by
        rintro rfl
        exact kept isLost
      refine ⟨cb, j, named, fun still => kept still.1, ?_⟩
      simp [other, live, own]
  · intro j live kept
    by_cases same : j = i
    · subst same
      exact ⟨_, List.mem_cons_self, rfl⟩
    · simp only [Function.update_of_ne same] at live
      obtain ⟨event, member, about⟩ := armed.held j live fun still => kept ⟨still, same⟩
      exact ⟨event, List.mem_cons_of_mem _ member, about⟩
  · intro j still
    simp [still.2, armed.live j still.1]
  · intro j live
    by_cases same : j = i
    · subst same
      exact armed.ranged j (armed.live j isLost)
    · simp only [Function.update_of_ne same] at live
      exact armed.ranged j live

theorem frame {next : Schedule} (size : next.size = schedule.size)
    (periods : next.iConnxMaxIdleTime = schedule.iConnxMaxIdleTime)
    (slots : ∀ j, (next.slots j).live = (schedule.slots j).live ∧
      (next.slots j).dwTimerID = (schedule.slots j).dwTimerID)
    (timers : next.timerMgr.timers = schedule.timerMgr.timers)
    (events : next.timerMgr.timerEvents = schedule.timerMgr.timerEvents) : Armed lost next := by
  obtain ⟨owned, held, live, distinct, indexed, ranged, few, period⟩ := armed
  refine ⟨?_, ?_, ?_, ?_, ⟨?_, ?_⟩, ?_, ?_, ?_⟩
  · simpa only [events, slots] using owned
  · simpa only [events, slots] using held
  · simpa only [slots] using live
  · rwa [events]
  · simpa only [timers] using indexed.sorted
  · simpa only [events, timers] using indexed.entries
  · simpa only [slots, size] using ranged
  · rwa [size]
  · rwa [periods]

theorem reset (free : ¬ (schedule.slots i).live) (positive : 1 ≤ i)
    (bounded : i < schedule.size) (taken : Bool) :
    Armed (fun j => lost j ∨ (j = i ∧ taken)) (schedule.reset i taken) := by
  have kept : ∀ j, j ≠ i → (schedule.reset i taken).slots j = schedule.slots j :=
    fun j other => Function.update_of_ne other _ _
  have own : ((schedule.reset i taken).slots i).live = taken := by
    simp [Schedule.reset]
  refine ⟨?_, ?_, ?_, armed.distinct, armed.indexed, ?_, armed.few, armed.period⟩
  · intro event member
    obtain ⟨cb, j, named, notLost, live, id⟩ := armed.owned event member
    have other : j ≠ i := by
      rintro rfl
      exact free live
    rw [← kept j other] at live id
    exact ⟨cb, j, named, by simp [notLost, other], live, id⟩
  · intro j live notLost
    have other : j ≠ i := by
      rintro rfl
      exact notLost (.inr ⟨rfl, own ▸ live⟩)
    rw [kept j other] at live
    exact armed.held j live fun isLost => notLost (.inl isLost)
  · rintro j (isLost | ⟨rfl, live⟩)
    · have other : j ≠ i := by
        rintro rfl
        exact free (armed.live j isLost)
      rw [kept j other]
      exact armed.live j isLost
    · rw [own]
      exact live
  · intro j live
    by_cases same : j = i
    · subst same
      exact ⟨positive, bounded⟩
    · rw [kept j same] at live
      exact armed.ranged j live

theorem take_missing {entry : UInt64 × UInt32} (found : schedule.timerMgr.timers[it]? = some entry)
    (missing : ∀ event ∈ schedule.timerMgr.timerEvents, event.dwTimerID ≠ entry.2) :
    Armed lost (schedule.take it entry.2) := by
  have events : (schedule.take it entry.2).timerMgr.timerEvents = schedule.timerMgr.timerEvents :=
    List.filter_eq_self.mpr fun event member => bne_iff_ne.mpr (missing event member)
  have indexed := armed.indexed.take found []
  refine ⟨?_, ?_, armed.live, ?_, indexed, armed.ranged, armed.few, armed.period⟩
  · rw [events]
    exact armed.owned
  · rw [events]
    exact armed.held
  · rw [events]
    exact armed.distinct

theorem take_event {entry : UInt64 × UInt32} (found : schedule.timerMgr.timers[it]? = some entry)
    (member : event ∈ schedule.timerMgr.timerEvents) (named : event.dwTimerID = entry.2)
    (about : event.iEvent = i) :
    Armed (fun j => lost j ∨ j = i) (schedule.take it entry.2) := by
  obtain ⟨id, notLost, alive⟩ := armed.id_eq member about
  refine ⟨?_, ?_, ?_, ?_, armed.indexed.take found [], armed.ranged, armed.few, armed.period⟩
  · intro other member'
    obtain ⟨old, different⟩ := List.mem_filter.mp member'
    obtain ⟨cb, j, about', kept, live, id'⟩ := armed.owned other old
    refine ⟨cb, j, about', ?_, live, id'⟩
    rintro (isLost | rfl)
    · exact kept isLost
    · exact bne_iff_ne.mp different (id'.symm.trans (id.symm.trans named))
  · intro j live kept
    obtain ⟨other, member', about'⟩ := armed.held j live fun isLost => kept (.inl isLost)
    refine ⟨other, List.mem_filter.mpr ⟨member', bne_iff_ne.mpr fun same => kept (.inr ?_)⟩, about'⟩
    rw [armed.event_eq member' member (same.trans named.symm), about] at about'
    exact (Int.ofNat.inj about').symm
  · rintro j (isLost | rfl)
    · exact armed.live j isLost
    · exact alive
  · exact armed.distinct.sublist (List.Sublist.map _ List.filter_sublist)

theorem removed (live : (schedule.slots i).live) (kept : ¬ lost i) :
    Armed lost (schedule.remove i) := by
  refine (armed.remove fun event member named => armed.only live kept member named).congr fun j => ?_
  exact ⟨And.left, fun isLost => ⟨isLost, fun same => kept (same ▸ isLost)⟩⟩

theorem none_lost_iff :
    (∀ i, ¬ lost i) ↔ ∀ i, (schedule.slots i).live → ∃ event,
      schedule.timerMgr.timerEvents.filter (fun event => event.iEvent = (i : Int)) = [event] ∧
      event.dwTimerID = (schedule.slots i).dwTimerID ∧ event.cb = some GateTimer.checkConnxFree ∧
      (event.ulExpiredTime, event.dwTimerID) ∈ schedule.timerMgr.timers := by
  constructor
  · intro kept i live
    obtain ⟨event, member, about⟩ := armed.held i live (kept i)
    refine ⟨event, ?_, (armed.id_eq member about).1, (armed.owned event member).1,
      armed.indexed.entries event member⟩
    have nodup : (schedule.timerMgr.timerEvents.filter fun event => event.iEvent = (i : Int)).Nodup :=
      (List.Nodup.of_map _ armed.distinct).filter _
    have all : ∀ other ∈ schedule.timerMgr.timerEvents.filter (fun event => event.iEvent = (i : Int)),
        other = event := by
      intro other listed
      obtain ⟨member', about'⟩ := List.mem_filter.mp listed
      have ids := (armed.id_eq member' (of_decide_eq_true about')).1.trans (armed.id_eq member about).1.symm
      exact armed.event_eq member' member ids
    have some : event ∈ schedule.timerMgr.timerEvents.filter fun event => event.iEvent = (i : Int) :=
      List.mem_filter.mpr ⟨member, decide_eq_true about⟩
    by_contra several
    rcases (List.Nodup.ne_singleton_iff nodup event).mp several with empty | ⟨other, listed, different⟩
    · simp [empty] at some
    · exact different (all other listed)
  · intro checked i isLost
    obtain ⟨event, only, _⟩ := checked i (armed.live i isLost)
    have listed : event ∈ schedule.timerMgr.timerEvents.filter fun event => event.iEvent = (i : Int) := by
      simp [only]
    obtain ⟨member, about⟩ := List.mem_filter.mp listed
    exact (armed.id_eq member (of_decide_eq_true about)).2.1 isLost

end Armed

def Schedule.AllArmed (schedule : Schedule) : Prop := Armed (fun _ => False) schedule

theorem Schedule.Prunes.allArmed {schedule next : Schedule} (prunes : schedule.Prunes next)
    (armed : schedule.AllArmed) : next.AllArmed :=
  prunes.invariant (fun live armed => Armed.removed armed live id) armed

end Playground.Gate
