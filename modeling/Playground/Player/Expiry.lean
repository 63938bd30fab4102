import Playground.Player.EventCenter
import Playground.Record.Keyed

/-! `OnDelayTimerExpired`. -/

namespace Playground.Player

open Component Record

variable {Arg : Type}

structure FiredEvent (Arg : Type) where
  iEventCode : Int
  receiver : Option String := none
  ulParam : UInt64 := 0
  arg : Option Arg := none
deriving DecidableEq

structure StoredEvent (Arg : Type) extends DelayEventParam where
  arg : Option Arg := none
deriving DecidableEq

def FiredEvent.stored (event : FiredEvent Arg) : StoredEvent Arg :=
  { iEvent := event.iEventCode, ulParam := event.ulParam, reciever := event.receiver.getD ""
    arg := event.arg }

/-- `OnDelayTimerExpired` up to its call of `FireEvent`: the call, and the entries that are left. -/
def expiredCall (entries : List (Int32 × StoredEvent Arg)) (iEventCode : Int) (iDelayEventSeq : Int32) :
    Option (FiredEvent Arg × List (Int32 × StoredEvent Arg)) :=
  if entries.any fun entry => entry.1 == iDelayEventSeq then
    let dep := (entries.lookup (Int32.ofInt iEventCode)).getD {}
    some ({ iEventCode, receiver := some dep.reciever, ulParam := dep.ulParam, arg := dep.arg },
      entries.filter fun entry => entry.1 != Int32.ofInt iEventCode)
  else none

def storedEvents (pending : List (Int32 × FiredEvent Arg)) : List (Int32 × StoredEvent Arg) :=
  pending.map fun entry => (entry.1, entry.2.stored)

/-- When the timer of the number expires, the event is fired as it was, its entry goes and
the others stay. -/
def DeliveredAsFired (pending : List (Int32 × FiredEvent Arg)) (seq : Int32) (event : FiredEvent Arg) :
    Prop :=
  ∃ left, expiredCall (storedEvents pending) event.iEventCode seq = some (event, left) ∧
    ∀ key, left.lookup key = if key = seq then none else (storedEvents pending).lookup key

section Delivery

variable {pending : List (Int32 × FiredEvent Arg)} {seq : Int32} {event : FiredEvent Arg}

private theorem storedEvents_keys (pending : List (Int32 × FiredEvent Arg)) :
    (storedEvents pending).map Prod.fst = pending.map Prod.fst := by
  simp [storedEvents, Function.comp_def]

private theorem lookup_storedEvents (distinct : (pending.map Prod.fst).Nodup) (member : (seq, event) ∈ pending) :
    (storedEvents pending).lookup seq = some event.stored := by
  refine lookup_of_mem (by rwa [storedEvents_keys]) ?_
  exact List.mem_map_of_mem (f := fun entry => (entry.1, entry.2.stored)) member

private theorem expiredCall_pending (member : (seq, event) ∈ pending) :
    expiredCall (storedEvents pending) event.iEventCode seq =
      let dep := ((storedEvents pending).lookup (Int32.ofInt event.iEventCode)).getD {}
      some ({ iEventCode := event.iEventCode, receiver := some dep.reciever, ulParam := dep.ulParam, arg := dep.arg },
        (storedEvents pending).filter fun entry => entry.1 != Int32.ofInt event.iEventCode) := by
  rw [expiredCall, if_pos]
  refine List.any_eq_true.mpr ⟨(seq, event.stored), ?_, beq_self_eq_true seq⟩
  exact List.mem_map_of_mem (f := fun entry => (entry.1, entry.2.stored)) member

/-- A delayed event is delivered as it was fired if and only if its sequence number happens
to be its event code and it was fired for a receiver. -/
theorem delivered_as_fired_iff (distinct : (pending.map Prod.fst).Nodup) (member : (seq, event) ∈ pending) :
    DeliveredAsFired pending seq event ↔
      Int32.ofInt event.iEventCode = seq ∧ event.receiver.isSome := by
  have stored := lookup_storedEvents distinct member
  rw [DeliveredAsFired, expiredCall_pending member]
  constructor
  · rintro ⟨left, fired, entries⟩
    obtain ⟨call, rfl⟩ := Prod.mk.inj (Option.some.inj fired)
    have key : Int32.ofInt event.iEventCode = seq := by
      by_contra other
      have gone := entries seq
      rw [lookup_filter_ne, if_neg (Ne.symm other), if_pos rfl, stored] at gone
      cases gone
    refine ⟨key, ?_⟩
    rw [← congrArg FiredEvent.receiver call]
    rfl
  · rintro ⟨rfl, named⟩
    obtain ⟨iEventCode, receiver, ulParam, arg⟩ := event
    obtain ⟨name, rfl⟩ := Option.isSome_iff_exists.mp named
    refine ⟨_, ?_, lookup_filter_ne (storedEvents pending) _⟩
    rw [stored]
    rfl

end Delivery

def syncOfRole : FiredEvent Nat :=
  { iEventCode := eventPlayerSyncDB, receiver := some "autosync", ulParam := eventParam 1 7, arg := some 1 }

def testOfRole : FiredEvent Nat := { iEventCode := eventPlayerTest, ulParam := eventParam 1 8 }

theorem delivered_as_fired_own_code :
    DeliveredAsFired [(2002, syncOfRole), (2001, testOfRole)] 2002 syncOfRole :=
  (delivered_as_fired_iff (by decide) (by decide)).mpr ⟨by decide, rfl⟩

/-- The timer of the first event expires: it is fired for the receiver "" of role 0, and both
entries stay. The 2001st event, for all logics, is fired for the receiver "". -/
theorem delayed_event_lost :
    expiredCall (storedEvents [(1, syncOfRole), (2, testOfRole)]) syncOfRole.iEventCode 1 =
        some ({ iEventCode := eventPlayerSyncDB, receiver := some "" },
          storedEvents [(1, syncOfRole), (2, testOfRole)]) ∧
      expiredCall (storedEvents [(2001, testOfRole)]) testOfRole.iEventCode 2001 =
        some ({ testOfRole with receiver := some "" }, []) := by
  decide

end Playground.Player
