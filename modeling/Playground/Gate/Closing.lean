import Playground.Gate.Step

/-! The closing loop of `App::main`, which calls `OnClosing` of the gate. -/

namespace Playground.Gate

section Main

variable {App : Type} (poll : App → App) (onClosing : Int → App → App × Int) (closing : Int)

/-- The loop of `App::main`. It ends when `Closing` returns a value that is not positive. -/
def mainLoop : Nat → App → Option App
  | 0, _ => none
  | count + 1, app =>
    if closing = 0 then mainLoop count (poll app)
    else
      let result := onClosing closing app
      if result.2 ≤ 0 then some result.1 else mainLoop count result.1

variable {poll onClosing closing} {app : App}

theorem mainLoop_finished (nonzero : closing ≠ 0) (finished : (onClosing closing app).2 ≤ 0) (count : Nat) :
    mainLoop poll onClosing closing (count + 1) app = some (onClosing closing app).1 := by
  rw [mainLoop, if_neg nonzero]
  exact if_pos finished

theorem mainLoop_busy {Busy : App → Prop} (nonzero : closing ≠ 0)
    (keeps : ∀ app, Busy app → 0 < (onClosing closing app).2 ∧ Busy (onClosing closing app).1) (busy : Busy app)
    (count : Nat) : mainLoop poll onClosing closing count app = none := by
  induction count generalizing app with
  | zero => rfl
  | succ count ih =>
    obtain ⟨positive, still⟩ := keeps app busy
    rw [mainLoop, if_neg nonzero]
    exact (if_neg (Int.not_le.mpr positive)).trans (ih still)

end Main

namespace GateServerHandler

def onClosingDefault (env : Env) (reason : Int) (gate : GateServerHandler) : GateServerHandler × Int :=
  gate.onClosing env reason 200

/-- The report of the close of a slot. Its index is 0, since the socket is no longer in the map. -/
def closeReport (gate : GateServerHandler) (i : Nat) (reason : Int) : Effect :=
  let conn := gate.vecConnections i
  .report i conn.iDstChannel (eventMessage .close 0 conn.ulUid conn.iArea conn.cliSocket reason) none

/-- The slots from one index up to another were removed and reported, the others are as they were. -/
structure Closed (reason : Int) (first last : Nat) (gate next : GateServerHandler) : Prop where
  size : next.size = gate.size
  resolves : ∀ i, next.getConnectionByIdx i = if first ≤ i ∧ i < last then none else gate.getConnectionByIdx i
  others : ∀ i, ¬ (first ≤ i ∧ i < last) → next.closeReport i reason = gate.closeReport i reason
  reported : ∃ news, next.out = news ++ gate.out ∧
    ∀ i, gate.getConnectionByIdx i = some i → first ≤ i → i < last → gate.closeReport i reason ∈ news

namespace Closed

variable {reason : Int} {first middle last : Nat} {gate next final : GateServerHandler}

theorem refl (gate : GateServerHandler) : Closed reason first first gate gate where
  size := rfl
  resolves i := (if_neg (by omega)).symm
  others _ _ := rfl
  reported := ⟨[], rfl, fun i _ above below => by omega⟩

theorem trans (before : first ≤ middle) (after : middle ≤ last)
    (left : Closed reason first middle gate next)
    (right : Closed reason middle last next final) : Closed reason first last gate final where
  size := right.size.trans left.size
  resolves i := by
    rw [right.resolves, left.resolves]
    by_cases inLate : middle ≤ i ∧ i < last
    · rw [if_pos inLate, if_pos (by omega)]
    · by_cases inEarly : first ≤ i ∧ i < middle
      · rw [if_neg inLate, if_pos inEarly, if_pos (by omega)]
      · rw [if_neg inLate, if_neg inEarly, if_neg (by omega)]
  others i outside := by
    rw [right.others i (by omega), left.others i (by omega)]
  reported := by
    obtain ⟨early, earlyOut, earlyReports⟩ := left.reported
    obtain ⟨late, lateOut, lateReports⟩ := right.reported
    refine ⟨late ++ early, by rw [lateOut, earlyOut, List.append_assoc], fun i live above below => ?_⟩
    by_cases inFirst : i < middle
    · exact List.mem_append_right _ (earlyReports i live above inFirst)
    · have still : next.getConnectionByIdx i = some i := by rw [left.resolves, if_neg (by omega), live]
      rw [← left.others i (by omega)]
      exact List.mem_append_left _ (lateReports i still (Nat.le_of_not_lt inFirst) below)

end Closed

variable {env : Env} {reason : Int}

private theorem closeReport_eq (gate : GateServerHandler) (i : Nat) (reason : Int) :
    gate.closeReport i reason = .report i (gate.table.slots i).dst
      (eventMessage .close 0 (gate.table.slots i).uid (gate.table.slots i).area (gate.table.slots i).socket
        reason) none :=
  rfl

private theorem closeNext_closed (env : Env) (gate : GateServerHandler) (reason : Int) :
    Closed reason gate.dwLastClosingIdx (gate.dwLastClosingIdx + 1) gate (gate.closeNext env reason) := by
  have alone {i : Nat} :
      gate.dwLastClosingIdx ≤ i ∧ i < gate.dwLastClosingIdx + 1 ↔ i = gate.dwLastClosingIdx := by
    omega
  unfold closeNext
  cases found : gate.getConnectionByIdx gate.dwLastClosingIdx with
  | none =>
    refine ⟨rfl, fun i => ?_, fun _ _ => rfl, [], rfl, fun i live above below => ?_⟩
    · simp only [alone]
      split
      · next same => rw [same, found]
      · rfl
    · rw [alone.mp ⟨above, below⟩, found] at live
      cases live
  | some i =>
    rw [getConnectionByIdx_eq] at found
    obtain ⟨rfl, _, _, live⟩ := Table.byIdx_some found
    have removed := table_removeConnection env gate _ reason live
    refine ⟨?_, fun i => ?_, fun i outside => ?_, ?_⟩
    · exact (congrArg Table.size removed).trans (Table.remove_size ..)
    · rw [getConnectionByIdx_eq, getConnectionByIdx_eq, removed, Table.remove_byIdx]
      simp only [alone]
    · have other : i ≠ gate.dwLastClosingIdx := fun same => outside (alone.mpr same)
      rw [closeReport_eq, closeReport_eq, removed, Table.remove_slots, Function.update_of_ne other]
    · refine ⟨[.close gate.dwLastClosingIdx, gate.closeReport gate.dwLastClosingIdx reason], ?_,
        fun i _ above below => ?_⟩
      · exact (congrArg Table.log removed).trans (Table.remove_log ..)
      · rw [alone.mp ⟨above, below⟩]
        exact List.mem_cons_of_mem _ List.mem_cons_self

private theorem closeNext_closingIdx (env : Env) (gate : GateServerHandler) (reason : Int) :
    (gate.closeNext env reason).dwLastClosingIdx = gate.dwLastClosingIdx := by
  unfold closeNext
  split
  · rfl
  · exact removeConnection_closingIdx env gate _ reason

theorem closingLoop_closed (env : Env) (reason : Int) (count : Nat) (gate : GateServerHandler)
    (within : gate.dwLastClosingIdx ≤ gate.size) :
    (closingLoop env reason count gate).dwLastClosingIdx = min (gate.dwLastClosingIdx + count) gate.size ∧
      Closed reason gate.dwLastClosingIdx (min (gate.dwLastClosingIdx + count) gate.size) gate
        (closingLoop env reason count gate) := by
  induction count generalizing gate with
  | zero =>
    have stop : min (gate.dwLastClosingIdx + 0) gate.size = gate.dwLastClosingIdx := by omega
    rw [stop]
    exact ⟨rfl, .refl gate⟩
  | succ count ih =>
    rw [closingLoop]
    split
    · next inside =>
      have one := closeNext_closed env gate reason
      have progress : (gate.closeNext env reason).advanceClosing.dwLastClosingIdx = gate.dwLastClosingIdx + 1 :=
        congrArg (· + 1) (closeNext_closingIdx env gate reason)
      have size : (gate.closeNext env reason).advanceClosing.size = gate.size := one.size
      obtain ⟨idx, later⟩ := ih (gate.closeNext env reason).advanceClosing (by omega)
      have stop : min (gate.dwLastClosingIdx + 1 + count) gate.size =
          min (gate.dwLastClosingIdx + (count + 1)) gate.size := by
        rw [Nat.add_assoc, Nat.add_comm 1 count]
      rw [progress, size, stop] at idx later
      -- advancing the index changes nothing else
      have first : Closed reason gate.dwLastClosingIdx (gate.dwLastClosingIdx + 1) gate
          (gate.closeNext env reason).advanceClosing := ⟨one.size, one.resolves, one.others, one.reported⟩
      exact ⟨idx, first.trans (Nat.le_succ _) (by omega) later⟩
    · next past =>
      have stop : min (gate.dwLastClosingIdx + (count + 1)) gate.size = gate.dwLastClosingIdx := by omega
      rw [stop]
      exact ⟨rfl, .refl gate⟩

end GateServerHandler

section Closing

open GateServerHandler

variable {env : Env} {reason : Int} {gate : GateServerHandler}

private theorem beginClosing_closed
    (closed : Closed reason first last (gate.beginClosing reason) next) : Closed reason first last gate next := by
  unfold beginClosing at closed
  split at closed
  · exact ⟨closed.size, closed.resolves, closed.others, closed.reported⟩
  · exact closed

/-- A call of `OnClosing` closes the next slots, and returns 1 when it has come to the end of the table. -/
theorem onClosing_closed (env : Env) (gate : GateServerHandler) (reason : Int) (notifinum : Nat)
    (within : gate.dwLastClosingIdx ≤ gate.size) :
    (gate.onClosing env reason notifinum).1.dwLastClosingIdx = min (gate.dwLastClosingIdx + notifinum) gate.size ∧
      Closed reason gate.dwLastClosingIdx (min (gate.dwLastClosingIdx + notifinum) gate.size) gate
        (gate.onClosing env reason notifinum).1 ∧
      (gate.onClosing env reason notifinum).2 =
        if gate.dwLastClosingIdx + notifinum < gate.size then 0 else 1 := by
  have size : (gate.beginClosing reason).size = gate.size :=
    congrArg Table.size (gate.beginClosing_frame reason).1
  have idx := (gate.beginClosing_frame reason).2.2
  obtain ⟨progress, closed⟩ := closingLoop_closed env reason notifinum (gate.beginClosing reason)
    (by rw [idx, size]; exact within)
  rw [idx, size] at progress closed
  have closedGate := beginClosing_closed closed
  refine ⟨?_, ?_, ?_⟩
  · rw [onClosing_fst]
    exact progress
  · rw [onClosing_fst]
    exact closedGate
  · unfold onClosing
    simp only [progress, closedGate.size]
    split
    · rw [if_pos (by omega)]
    · rw [if_neg (by omega)]

theorem mainLoop_of_small (nonzero : reason ≠ 0)
    (fresh : gate.dwLastClosingIdx = 0) (small : gate.size ≤ 200) (count : Nat) :
    mainLoop poll (onClosingDefault env) reason count gate = none := by
  have keeps : ∀ gate : GateServerHandler, gate.dwLastClosingIdx ≤ gate.size ∧ gate.size ≤ 200 →
      0 < (gate.onClosingDefault env reason).2 ∧
        (gate.onClosingDefault env reason).1.dwLastClosingIdx ≤ (gate.onClosingDefault env reason).1.size ∧
        (gate.onClosingDefault env reason).1.size ≤ 200 := by
    rintro gate ⟨within, small⟩
    obtain ⟨progress, closed, ret⟩ := onClosing_closed env gate reason 200 within
    unfold onClosingDefault
    rw [progress, closed.size, ret, if_neg (by omega)]
    exact ⟨Int.one_pos, by omega, small⟩
  exact mainLoop_busy nonzero keeps ⟨by omega, small⟩ count

theorem onClosing_of_large (env : Env) (reason : Int) (fresh : gate.dwLastClosingIdx = 0)
    (large : 200 < gate.size) :
    Closed reason 0 200 gate (gate.onClosingDefault env reason).1 ∧ (gate.onClosingDefault env reason).2 = 0 := by
  obtain ⟨_, closed, ret⟩ := onClosing_closed env gate reason 200 (by omega)
  have last : min (gate.dwLastClosingIdx + 200) gate.size = 200 := by omega
  rw [last, fresh] at closed
  rw [fresh, if_pos (by omega)] at ret
  exact ⟨closed, ret⟩

theorem mainLoop_of_large (nonzero : reason ≠ 0)
    (fresh : gate.dwLastClosingIdx = 0) (large : 200 < gate.size) (count : Nat) :
    mainLoop poll (onClosingDefault env) reason (count + 1) gate = some (gate.onClosingDefault env reason).1 :=
  mainLoop_finished nonzero (Int.le_of_eq (onClosing_of_large env reason fresh large).2) count

/-- The closing loop ends, with every live slot removed and its close reported, if and only if the
table has more than 200 slots and all live ones are among the first 200. -/
theorem closing_removes_all_iff (env : Env) (poll : GateServerHandler → GateServerHandler) {reason : Int}
    (nonzero : reason ≠ 0) {gate : GateServerHandler} (fresh : gate.dwLastClosingIdx = 0) :
    (∃ count final, mainLoop poll (onClosingDefault env) reason count gate = some final ∧
      ∃ news, final.out = news ++ gate.out ∧ ∀ i, gate.getConnectionByIdx i = some i →
        final.getConnectionByIdx i = none ∧ gate.closeReport i reason ∈ news) ↔
      200 < gate.size ∧ ∀ i, gate.getConnectionByIdx i = some i → i < 200 := by
  constructor
  · rintro ⟨count, final, ended, news, _, closes⟩
    have large : 200 < gate.size := by
      refine Nat.lt_of_not_le fun small => ?_
      rw [mainLoop_of_small nonzero fresh small] at ended
      cases ended
    refine ⟨large, fun i live => ?_⟩
    cases count with
    | zero => cases ended
    | succ count =>
      rw [mainLoop_of_large nonzero fresh large] at ended
      cases ended
      have removed := (closes i live).1
      rw [(onClosing_of_large env reason fresh large).1.resolves] at removed
      refine Nat.lt_of_not_le fun behind => ?_
      rw [if_neg (by omega), live] at removed
      cases removed
  · rintro ⟨large, early⟩
    obtain ⟨closed, _⟩ := onClosing_of_large env reason fresh large
    obtain ⟨news, out, reports⟩ := closed.reported
    refine ⟨1, _, mainLoop_of_large nonzero fresh large 0, news, out, fun i live => ?_⟩
    have inFirst := early i live
    rw [closed.resolves, if_pos ⟨Nat.zero_le i, inFirst⟩]
    exact ⟨rfl, reports i live (Nat.zero_le i) inFirst⟩

/-- A table with one live slot. -/
def slotGate (size live : Nat) : GateServerHandler :=
  { GateServerHandler.init soleArea size 0 fun _ => 0 with
    vecConnections := fun i =>
      if i = live then { iIdx := live, cliSocket := { fd := 5 }, bState := .connected } else {} }

private theorem slotGate_live {size live i : Nat} (found : (slotGate size live).getConnectionByIdx i = some i) :
    i = live := by
  refine Classical.byContradiction fun other => ?_
  simp [getConnectionByIdx, slotGate, other] at found

theorem closing_removes_all_iff_large :
    ∃ count final, mainLoop id (onClosingDefault soleArea) 1 count (slotGate 300 3) = some final ∧
      ∃ news, final.out = news ++ (slotGate 300 3).out ∧ ∀ i, (slotGate 300 3).getConnectionByIdx i = some i →
        final.getConnectionByIdx i = none ∧ (slotGate 300 3).closeReport i 1 ∈ news :=
  (closing_removes_all_iff soleArea id (by decide) rfl).mpr
    ⟨by decide, fun _ live => slotGate_live live ▸ by decide⟩

/-- The loop does not end for a table of ten slots, and for one of 300 it ends while a slot is live. -/
theorem closing_never_ends :
    (∀ count, mainLoop id (onClosingDefault soleArea) 1 count (slotGate 10 3) = none) ∧
      ∃ final, mainLoop id (onClosingDefault soleArea) 1 1 (slotGate 300 250) = some final ∧
        final.getConnectionByIdx 250 = some 250 := by
  refine ⟨mainLoop_of_small (by decide) rfl (by decide), _, mainLoop_of_large (by decide) rfl (by decide) 0, ?_⟩
  have closed : Closed 1 0 200 (slotGate 300 250) _ := (onClosing_of_large soleArea 1 rfl (by decide)).1
  rw [closed.resolves]
  decide

end Closing

end Playground.Gate
