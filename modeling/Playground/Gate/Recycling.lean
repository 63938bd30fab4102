import Playground.Framing.Handing
import Playground.Gate.AlikeStep
import Playground.Gate.Safety

/-! A slot of the gate is used by one connection after another. -/

namespace Playground.Gate

open Framing Component Transition

variable {env : Env} {sendRet createRet : Nat → Int} {i : Nat} {one two : GateServerHandler}

/-- Two histories of the gate that leave alike gates, whose calls have the same results from then on. -/
structure Histories (env : Env) (sendRet createRet : Nat → Int) (one two : GateServerHandler) : Prop where
  first : ∃ iMaxConnections curMsTime junk events,
    Steps (EventStep env) (GateServerHandler.init env iMaxConnections curMsTime junk) events one
  second : ∃ iMaxConnections curMsTime junk events, Steps (EventStep (env.calls sendRet createRet))
    (GateServerHandler.init (env.calls sendRet createRet) iMaxConnections curMsTime junk) events two
  alike : Alike env sendRet createRet one two

/-- A call has one outcome. -/
theorem EventStep.functional (first : EventStep env one ev next) (second : EventStep env one ev other) :
    next = other :=
  Option.some.inj (first.symm.trans second)

/-- The same calls after two such histories show the same of a slot, reports with all their fields
and frames, if and only if no connection of it is removed before it has authenticated while the two
histories left different areas in the slot. -/
theorem recycled_slot_shows_same_iff {final : GateServerHandler} {events : List Event}
    (histories : Histories env sendRet createRet one two) (run : Steps (EventStep env) one events final)
    (i : Nat) :
    ∃ final', Steps (EventStep (env.calls sendRet createRet)) two events final' ∧
      ((∃ shown, slotLog i final.out = shown ++ slotLog i one.out ∧
          slotLog i final'.out = shown ++ slotLog i two.out) ↔
        Steps (Lockstep (EventStep env) (EventStep (env.calls sendRet createRet)) (SameArea env i))
          (one, two) events (final, final')) := by
  obtain ⟨_, _, _, _, before⟩ := histories.first
  have advance : ∀ {one two ev next}, one.Idle ∧ Alike env sendRet createRet one two →
      EventStep env one ev next → ∃ next', EventStep (env.calls sendRet createRet) two ev next' ∧
        (next.Idle ∧ Alike env sendRet createRet next next') ∧
        Matches (slotLog i one.out) (slotLog i next.out) (slotLog i two.out) (slotLog i next'.out)
          (SameArea env i one two ev) := by
    rintro one two ev next ⟨idle, alike⟩ stepped
    obtain ⟨_, acted⟩ := step_acts idle stepped
    obtain ⟨next', stepped', follows⟩ := alike.step (i := i) idle stepped
    exact ⟨next', stepped', ⟨acted.idle, follows.alike⟩, follows.grown⟩
  have start : one.Idle ∧ Alike env sendRet createRet one two := ⟨(run_sound before).1, histories.alike⟩
  obtain ⟨final', run', shown⟩ := @Steps.lockstep _ _ _ (EventStep env)
    (EventStep (env.calls sendRet createRet)) (SameArea env i) (fun gate => slotLog i gate.out) _
    EventStep.functional EventStep.functional advance _ _ _ _ start run
  exact ⟨final', run', shown.iff_same.symm⟩

def twoAreas : Env :=
  { soleArea with mpAreaID2ChannelID := fun area => if area = 1 ∨ area = 2 then some 9 else none }

def emptyGate : GateServerHandler := GateServerHandler.init twoAreas 4 0 fun _ => 0

def visitedGate : GateServerHandler :=
  (step twoAreas emptyGate (.newConnection { fd := 5 })).get (by decide)

/-- The gate after a client of the area has logged in and closed its connection. -/
def leftBy (area : UInt8) : GateServerHandler :=
  ((visitedGate.feed twoAreas 5 [[0, 2, 7, area]]).onConnectionClosed twoAreas 5).1

theorem leftBy_run (area : UInt8) : Steps (EventStep twoAreas) emptyGate
    [.newConnection { fd := 5 }, .clientDataRecv 5 [0, 2, 7, area], .connectionClosed 5] (leftBy area) :=
  .cons (Option.some_get _).symm (.cons rfl (.cons rfl .nil))

/-- Where nobody is connected the socket map leads nowhere. -/
theorem sockets_of_free {gate : GateServerHandler} (mapped : gate.table.Mapped)
    (free : ∀ j, (gate.vecConnections j).bState = .invalid) (fd : Int) : (gate.mpConnections fd).getD 0 = 0 := by
  cases entry : gate.mpConnections fd with
  | none => rfl
  | some i =>
    by_contra used
    exact (mapped fd i entry used).1 (free i)

/-- Two gates that nobody is connected to are alike, whoever was, if their buffers and counters are. -/
theorem alike_of_free (idle : one.Idle) (idle' : two.Idle) (mapped : one.table.Mapped)
    (mapped' : two.table.Mapped)
    (free : ∀ j, (one.vecConnections j).bState = .invalid ∧ (two.vecConnections j).bState = .invalid)
    (created : ∀ j, (two.vecConnections j).receiver.created = (one.vecConnections j).receiver.created)
    (counters : two.size = one.size ∧ two.iAlivedConnections = one.iAlivedConnections ∧
      two.closing = one.closing ∧ two.dwLastClosingIdx = one.dwLastClosingIdx ∧ two.curTime = one.curTime ∧
      two.timeStampNow = one.timeStampNow)
    (sends : ∀ n, sendRet (two.sends + n) = env.sendRet (one.sends + n))
    (creates : ∀ n, createRet (two.creates + n) = env.createRet (one.creates + n)) :
    Alike env sendRet createRet one two := by
  obtain ⟨size, alive, closing, progress, time, stamp⟩ := counters
  refine GateCore.ext (funext fun j => ?_) (funext fun fd => ?_) size alive closing progress time stamp
    (funext sends) (funext creates)
  · refine Connection.core_congr ((free j).2.trans (free j).1.symm) (created j) ((idle' j).trans (idle j).symm) ?_ ?_
    · exact fun live => absurd (free j).1 live
    · exact fun known => by simp [(free j).1] at known
  · exact (sockets_of_free mapped' (fun j => (free j).2) fd).trans
      (sockets_of_free mapped (fun j => (free j).1) fd).symm

private theorem leftBy_free (j : Nat) :
    (((leftBy 1).vecConnections j).bState = .invalid ∧ ((leftBy 2).vecConnections j).bState = .invalid) ∧
      ((leftBy 2).vecConnections j).receiver.created = ((leftBy 1).vecConnections j).receiver.created := by
  cases j with
  | zero => decide
  | succ j =>
    cases j with
    | zero => decide
    | succ j => exact ⟨⟨rfl, rfl⟩, rfl⟩

theorem leftBy_histories :
    Histories twoAreas twoAreas.sendRet twoAreas.createRet (leftBy 1) (leftBy 2) where
  first := ⟨4, 0, fun _ => 0, _, leftBy_run 1⟩
  second := ⟨4, 0, fun _ => 0, _, leftBy_run 2⟩
  alike := by
    obtain ⟨idle, sound⟩ := run_sound (leftBy_run 1)
    obtain ⟨idle', sound'⟩ := run_sound (leftBy_run 2)
    exact alike_of_free idle idle' sound.mapped sound'.mapped (fun j => (leftBy_free j).1)
      (fun j => (leftBy_free j).2) (by decide) (fun _ => rfl) (fun _ => rfl)

def revisitedGate : GateServerHandler :=
  (step twoAreas (leftBy 1) (.newConnection { fd := 6 })).get (by decide)

theorem recycled_slot_shows_same_login :
    ∃ final final', Steps (EventStep twoAreas) (leftBy 1)
        [.newConnection { fd := 6 }, .clientDataRecv 6 [0, 2, 8, 1], .connectionClosed 6] final ∧
      Steps (EventStep (twoAreas.calls twoAreas.sendRet twoAreas.createRet)) (leftBy 2)
        [.newConnection { fd := 6 }, .clientDataRecv 6 [0, 2, 8, 1], .connectionClosed 6] final' ∧
      ∃ shown, slotLog 1 final.out = shown ++ slotLog 1 (leftBy 1).out ∧
        slotLog 1 final'.out = shown ++ slotLog 1 (leftBy 2).out := by
  have first : EventStep twoAreas (leftBy 1) (.newConnection { fd := 6 }) revisitedGate :=
    (Option.some_get _).symm
  have second : EventStep twoAreas revisitedGate (.clientDataRecv 6 [0, 2, 8, 1])
      (revisitedGate.feed twoAreas 6 [[0, 2, 8, 1]]) := rfl
  have third : EventStep twoAreas (revisitedGate.feed twoAreas 6 [[0, 2, 8, 1]]) (.connectionClosed 6)
      ((revisitedGate.feed twoAreas 6 [[0, 2, 8, 1]]).onConnectionClosed twoAreas 6).1 := rfl
  have run := Steps.cons first (.cons second (.single third))
  have decoded : decode (revisitedGate.vecConnections 1).receiver.iMsgLen [0, 2, 8, 1] = (0, [[8, 1]]) :=
    @decode_encodeAll [[8, 1]] (by simp [Framable])
  have granted : ¬ Removes twoAreas revisitedGate 1 (.clientDataRecv 6 [0, 2, 8, 1]) := by
    rintro ⟨_, _, rejected⟩
    rw [decoded] at rejected
    exact absurd rejected (by decide)
  have known : ((revisitedGate.feed twoAreas 6 [[0, 2, 8, 1]]).vecConnections 1).bState ≠ .connected := by
    decide
  obtain ⟨final', run', same⟩ := recycled_slot_shows_same_iff leftBy_histories run 1
  refine ⟨_, final', run, run', same.mpr ?_⟩
  cases run' with
  | @cons _ _ accepted _ _ first' rest =>
    cases rest with
    | @cons _ _ trusted _ _ second' rest =>
      cases rest with
      | cons third' rest =>
        cases rest
        have asks : SameArea twoAreas 1 revisitedGate accepted (.clientDataRecv 6 [0, 2, 8, 1]) :=
          fun removes => absurd removes granted
        have closes : SameArea twoAreas 1 (revisitedGate.feed twoAreas 6 [[0, 2, 8, 1]]) trusted
            (.connectionClosed 6) := fun _ fresh => absurd fresh known
        have last : Steps (Lockstep (EventStep twoAreas) _ (SameArea twoAreas 1))
            (revisitedGate.feed twoAreas 6 [[0, 2, 8, 1]], trusted) [.connectionClosed 6] (_, final') :=
          .single ⟨third, third', closes⟩
        have login : Steps (Lockstep (EventStep twoAreas) _ (SameArea twoAreas 1)) (revisitedGate, accepted)
            [.clientDataRecv 6 [0, 2, 8, 1], .connectionClosed 6] (_, final') :=
          .cons ⟨second, second', asks⟩ last
        exact .cons ⟨first, first', fun removes => removes.elim⟩ login

def closedEarly : GateServerHandler :=
  (runAll (step twoAreas) (leftBy 1) [.newConnection { fd := 6 }, .connectionClosed 6]).get (by decide)

def closedEarly' : GateServerHandler :=
  (runAll (step twoAreas) (leftBy 2) [.newConnection { fd := 6 }, .connectionClosed 6]).get (by decide)

def Effect.area : Effect → Option UInt32
  | .report _ _ msg _ => some msg.area
  | _ => none

private theorem not_shown_same (longer : (slotLog i log).length + 1 < (slotLog i next).length)
    (differ : (slotLog i next)[1]?.bind Effect.area ≠ (slotLog i next')[1]?.bind Effect.area) :
    ¬ ∃ shown, slotLog i next = shown ++ slotLog i log ∧ slotLog i next' = shown ++ slotLog i log' := by
  rintro ⟨shown, left, right⟩
  have size : 1 < shown.length := by
    rw [left, List.length_append] at longer
    omega
  rw [left, right, List.getElem?_append_left size, List.getElem?_append_left size] at differ
  exact differ rfl

/-- Its close is reported with the area of the client that used the slot before. -/
theorem recycled_slot_shows_area :
    ∃ one two final final', Histories twoAreas twoAreas.sendRet twoAreas.createRet one two ∧
      Steps (EventStep twoAreas) one [.newConnection { fd := 6 }, .connectionClosed 6] final ∧
      Steps (EventStep (twoAreas.calls twoAreas.sendRet twoAreas.createRet)) two
        [.newConnection { fd := 6 }, .connectionClosed 6] final' ∧
      ¬ ∃ shown, slotLog 1 final.out = shown ++ slotLog 1 one.out ∧
        slotLog 1 final'.out = shown ++ slotLog 1 two.out := by
  have longer : (slotLog 1 (leftBy 1).out).length + 1 < (slotLog 1 closedEarly.out).length := by decide
  have differ : (slotLog 1 closedEarly.out)[1]?.bind Effect.area ≠
      (slotLog 1 closedEarly'.out)[1]?.bind Effect.area := by
    decide
  exact ⟨leftBy 1, leftBy 2, closedEarly, closedEarly', leftBy_histories,
    steps_of_runAll (Option.some_get _).symm, steps_of_runAll (Option.some_get _).symm,
    not_shown_same longer differ⟩

end Playground.Gate
