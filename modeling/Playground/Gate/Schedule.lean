import Playground.Gate.Safety

/-! The part of the gate that the idle check works on. -/

namespace Playground.Gate

open Framing Component Transition

/-- What the idle check reads of a slot. -/
structure SlotTiming where
  live : Bool
  dwTimerID : UInt32
  tLastCheckTime : Int
deriving DecidableEq

def Connection.timing (conn : Connection) : SlotTiming where
  live := conn.bState ≠ .invalid
  dwTimerID := conn.dwTimerID
  tLastCheckTime := conn.tLastCheckTime

/-- The gate, as far as the idle check is concerned. -/
structure Schedule where
  slots : Nat → SlotTiming
  size : Nat
  iAlivedConnections : Int
  iConnxMaxIdleTime : UInt32
  curTime : Int
  timerMgr : TimerMgr GateTimer

namespace Schedule

/-- The slot is freed, and its timer cancelled. -/
def remove (schedule : Schedule) (i : Nat) : Schedule :=
  { schedule with
    slots := Function.update schedule.slots i { schedule.slots i with live := false }
    timerMgr := schedule.timerMgr.cancelTimer (schedule.slots i).dwTimerID }

/-- A new idle timer for the slot. -/
def arm (schedule : Schedule) (i : Nat) : Schedule :=
  let added := schedule.timerMgr.addTimer (schedule.iConnxMaxIdleTime * 1000).toInt32 i
    (some GateTimer.checkConnxFree) 0
  { schedule with
    slots := Function.update schedule.slots i { schedule.slots i with dwTimerID := added.2 }
    timerMgr := added.1 }

def reset (schedule : Schedule) (i : Nat) (live : Bool) : Schedule :=
  { schedule with
    slots := Function.update schedule.slots i { live, dwTimerID := 0, tLastCheckTime := 0 } }

/-- Connections are removed, one after the other. -/
inductive Prunes : Schedule → Schedule → Prop where
  | refl : Prunes schedule schedule
  | remove (live : (schedule.slots i).live) (rest : Prunes (schedule.remove i) next) : Prunes schedule next

theorem Prunes.single (live : (schedule.slots i).live) :
    Prunes schedule (schedule.remove i) := .remove live .refl

theorem Prunes.trans (first : Prunes schedule middle) (second : Prunes middle next) :
    Prunes schedule next := by
  induction first with
  | refl => exact second
  | remove live _ ih => exact .remove live (ih second)

theorem Prunes.invariant {Inv : Schedule → Prop}
    (keeps : ∀ {schedule : Schedule} {i : Nat}, (schedule.slots i).live → Inv schedule → Inv (schedule.remove i))
    (prunes : Prunes schedule next) (holds : Inv schedule) : Inv next := by
  induction prunes with
  | refl => exact holds
  | remove live _ ih => exact ih (keeps live holds)

theorem Prunes.counters (prunes : Prunes schedule next) :
    next.size = schedule.size ∧ next.iAlivedConnections = schedule.iAlivedConnections := by
  induction prunes with
  | refl => exact ⟨rfl, rfl⟩
  | remove _ _ ih => exact ih

end Schedule

open Schedule

theorem Connection.updateStat_timing (conn : Connection) (now : Int) (recv : Bool) :
    (conn.updateStat now recv).timing = conn.timing := by
  cases recv
  all_goals
    simp only [Connection.updateStat, Bool.false_eq_true, ↓reduceIte]
    split <;> rfl

namespace GateServerHandler

variable (env : Env) (gate : GateServerHandler) (reason : Int)

def schedule (gate : GateServerHandler) : Schedule where
  slots i := (gate.vecConnections i).timing
  size := gate.size
  iAlivedConnections := gate.iAlivedConnections
  iConnxMaxIdleTime := gate.iConnxMaxIdleTime
  curTime := gate.curTime
  timerMgr := gate.timerMgr

theorem schedule_modify (i : Nat) (change : Connection → Connection) :
    (gate.modify i change).schedule =
      { gate.schedule with
        slots := Function.update gate.schedule.slots i (change (gate.vecConnections i)).timing } := by
  simp only [schedule, modify, Schedule.mk.injEq, and_true]
  funext j
  by_cases same : j = i
  · subst same
    simp
  · simp [same]

theorem schedule_modify_same (i : Nat) (change : Connection → Connection)
    (same : (change (gate.vecConnections i)).timing = (gate.vecConnections i).timing) :
    (gate.modify i change).schedule = gate.schedule := by
  rw [schedule_modify, same]
  exact congrArg (fun slots => { gate.schedule with slots }) (Function.update_eq_self i gate.schedule.slots)

theorem schedule_setReceiver (i : Nat) (receiver : Receiver) :
    (gate.setReceiver i receiver).schedule = gate.schedule :=
  schedule_modify_same gate i _ rfl

private theorem schedule_socketSend (i : Nat) (bytes : Bytes) :
    (gate.socketSend env i bytes).1.schedule = gate.schedule := by
  unfold socketSend
  dsimp only
  split <;> rfl

theorem schedule_sendFrameToClient (i : Nat) (frame : Bytes) :
    (gate.sendFrameToClient env i frame).1.schedule = gate.schedule := by
  have counted := schedule_modify_same gate i (fun conn => conn.updateStat gate.curTime false)
    (Connection.updateStat_timing _ _ _)
  have head := (schedule_socketSend env _ i (lengthPrefix (frame.length % 65536))).trans counted
  unfold sendFrameToClient
  dsimp only
  split
  · exact head
  · exact (schedule_socketSend env _ i _).trans head

theorem schedule_sendToClient (i : Nat) (ga : GateCSMsg) :
    (gate.sendToClient env i ga).1.schedule = gate.schedule := by
  unfold sendToClient
  dsimp only
  split
  · rfl
  · split
    · rfl
    · exact schedule_sendFrameToClient env _ i _

theorem schedule_reportEvent (i : Nat) (event : EventType)
    (param : Int) (data : Option Bytes) : (gate.reportEvent env i event param data).schedule = gate.schedule := by
  unfold reportEvent sendToAgent
  dsimp only
  split
  · rfl
  · split <;> rfl

theorem schedule_closeConnection (i : Nat) : (gate.closeConnection i).schedule =
      { gate.schedule with
        slots := Function.update gate.schedule.slots i { gate.schedule.slots i with live := false } } := by
  unfold closeConnection
  dsimp only
  split
  · exact schedule_modify _ i _
  · exact schedule_modify _ i _

theorem schedule_removeConnection (i : Nat) (reason : Int) :
    (gate.removeConnection env i reason).schedule = gate.schedule.remove i := by
  have reported := schedule_reportEvent env (gate.eraseSocket i) i .close reason none
  unfold removeConnection
  rw [schedule_closeConnection]
  generalize (gate.eraseSocket i).reportEvent env i .close reason none = after at reported
  have same : after.schedule = gate.schedule := reported
  have canceled : (after.cancelIdleTimer i).schedule =
      { gate.schedule with
        timerMgr := gate.schedule.timerMgr.cancelTimer (gate.schedule.slots i).dwTimerID } := by
    rw [← same]
    rfl
  rw [canceled]
  rfl

theorem schedule_live_iff (i : Nat) : (gate.schedule.slots i).live = true ↔ gate.table.Live i := by
  simp [schedule, Connection.timing, Table.Live, table, Connection.slot]

private theorem schedule_setState (i : Nat) (state : GateConnectionState)
    (live : gate.table.Live i) (alive : state ≠ .invalid) :
    (gate.modify i fun conn => { conn with bState := state }).schedule = gate.schedule := by
  refine schedule_modify_same gate i _ ?_
  have before : (gate.vecConnections i).bState ≠ .invalid := live
  simp [Connection.timing, before, alive]

theorem schedule_forwardData (i : Nat) (data : Bytes) :
    (gate.forwardData env i data).schedule = gate.schedule := by
  have reported := schedule_reportEvent env { gate with reqpkgs := gate.reqpkgs + 1 } i .data 0 (some data)
  unfold forwardData
  dsimp only
  split
  · exact (schedule_sendFrameToClient env _ i _).trans reported
  · exact reported

private theorem schedule_onAuthRequest (i : Nat) (request : AuthReq) (live : gate.table.Live i) :
    (gate.onAuthRequest env i request).1.schedule = gate.schedule ∨
      (gate.onAuthRequest env i request).1.schedule = gate.schedule.remove i := by
  cases known : env.mpAreaID2ChannelID request.area with
  | none =>
    rw [onAuthRequest_unknown env gate i request known]
    exact .inr (schedule_removeConnection env gate i _)
  | some dst =>
    left
    obtain ⟨verdict, table, _⟩ := authorizing_known env gate i request known
    have authorized : (gate.authorizing env i request).1.schedule = gate.schedule := by
      have identified := schedule_modify_same gate i
        (fun conn => identify conn request dst gate.timeStampNow) rfl
      unfold authorizing
      rw [known]
      dsimp only
      split
      · exact identified
      · exact identified
    have still : (gate.authorizing env i request).1.table.Live i := by
      rw [table]
      simpa [Table.Live] using live
    unfold onAuthRequest
    generalize gate.authorizing env i request = auth at verdict authorized still ⊢
    dsimp only
    by_cases needs : env.iNeedAuth ≠ 0
    · rw [if_pos needs] at verdict
      rw [verdict, if_neg (by decide), if_pos (by decide)]
      exact (schedule_setState _ i .authing still (by decide)).trans authorized
    · rw [if_neg needs] at verdict
      rw [verdict, if_pos rfl, schedule_reportEvent]
      have notified :=
        schedule_sendToClient env auth.1 i { cmd := gateAuthRsp, authRsp := some { result := 0 } }
      have alive : (auth.1.notifyAuthResult env i 0).1.table.Live i := by
        rw [← schedule_live_iff, notifyAuthResult, notified, schedule_live_iff]
        exact still
      exact (schedule_setState _ i .authorized alive (by decide)).trans (notified.trans authorized)

private theorem schedule_onClientMessage (i : Nat) (payload : Bytes) (live : gate.table.Live i) :
    (gate.onClientMessage env i payload).1.schedule = gate.schedule ∨
      (gate.onClientMessage env i payload).1.schedule = gate.schedule.remove i := by
  have counted : (gate.countMessage i payload).schedule = gate.schedule :=
    schedule_modify_same _ i _ (Connection.updateStat_timing _ _ _)
  have still : (gate.countMessage i payload).table.Live i := by
    rw [← schedule_live_iff, counted, schedule_live_iff]
    exact live
  unfold onClientMessage
  generalize gate.countMessage i payload = noted at counted still
  dsimp only
  rw [← counted]
  split
  · split
    · exact .inl rfl
    · exact schedule_onAuthRequest env noted i _ still
  · exact .inl rfl
  · exact .inl (schedule_forwardData env noted i payload)
  next invalid => exact absurd invalid still

private theorem schedule_completeMessage (i : Nat) (body : Receiver) (live : gate.table.Live i) :
    (gate.completeMessage env i body).1.schedule = gate.schedule ∨
      (gate.completeMessage env i body).1.schedule = gate.schedule.remove i := by
  have set := schedule_setReceiver gate i body
  have still : (gate.setReceiver i body).table.Live i := by
    rw [table_setReceiver]
    exact live
  unfold completeMessage
  dsimp only
  rw [schedule_setReceiver, ← set]
  exact schedule_onClientMessage env _ i _ still

theorem Completes.prunes {env : Env} {gate : GateServerHandler}
    (completes : Completes env i gate chunk body rest done) (found : gate.table.byFD fd = some i) :
    Prunes gate.schedule done.1.schedule := by
  have live : (gate.countUpload chunk.length).table.Live i := (Table.byFD_some found).2.2.2
  rw [← completes.called]
  rcases schedule_completeMessage env _ i body live with kept | removed
  · rw [kept]
    exact .refl
  · rw [removed]
    exact .single ((schedule_live_iff _ i).mpr live)

theorem Recvs.prunes {env : Env} {gate : GateServerHandler} (recvs : Recvs env i fd gate chunk result) :
    Prunes gate.schedule result.1.schedule := by
  induction recvs with
  | nothing _ _ _ _ =>
    rw [schedule_setReceiver]
    exact .refl
  | last found completes => exact completes.prunes found
  | gone found completes _ => exact completes.prunes found
  | more found completes _ _ ih => exact (completes.prunes found).trans ih

theorem schedule_onClientDataRecv (fd : Int) (chunk : Bytes)
    (idle : gate.Idle) : Prunes gate.schedule (gate.onClientDataRecv env fd chunk).1.schedule := by
  cases found : gate.table.byFD fd with
  | none =>
    rw [onClientDataRecv_gone env gate chunk found]
    exact .refl
  | some i => exact (recvLoop_recvs env _ gate chunk (by omega) found (idle i)).prunes

theorem schedule_removes (found : gate.getConnectionByIdx idx = some i) :
    Prunes gate.schedule (gate.removeConnection env i reason).schedule := by
  rw [schedule_removeConnection]
  rw [getConnectionByIdx_eq] at found
  obtain ⟨rfl, _, _, live⟩ := Table.byIdx_some found
  exact .single ((schedule_live_iff gate i).mpr live)

private theorem schedule_closingLoop (count : Nat) (gate : GateServerHandler) :
    Prunes gate.schedule (closingLoop env reason count gate).schedule := by
  induction count generalizing gate with
  | zero => exact .refl
  | succ count ih =>
    rw [closingLoop]
    split
    · refine Prunes.trans ?_ (ih _)
      have closed : Prunes gate.schedule (gate.closeNext env reason).schedule := by
        unfold closeNext
        split
        · exact .refl
        next found => exact schedule_removes env gate reason found
      exact closed
    · exact .refl

theorem schedule_onClosing (notifinum : Nat) :
    Prunes gate.schedule (gate.onClosing env reason notifinum).1.schedule := by
  have begun : (gate.beginClosing reason).schedule = gate.schedule := by
    unfold beginClosing
    split <;> rfl
  rw [onClosing_fst, ← begun]
  exact schedule_closingLoop env reason notifinum _

theorem schedule_dispatchMessage (ggc : GateSSMsg) (csmsg : Bytes) :
    Prunes gate.schedule (gate.dispatchMessage env ggc csmsg).1.schedule := by
  unfold dispatchMessage
  split
  · exact .refl
  next found =>
    split
    · exact schedule_removes env gate _ found
    · dsimp only
      rw [schedule_sendFrameToClient]
      exact .refl
    · exact .refl

theorem schedule_onConnectionClosed (fd : Int) :
    Prunes (gate.countAlive (-1)).schedule (gate.onConnectionClosed env fd).1.schedule := by
  unfold onConnectionClosed
  dsimp only
  split
  · exact .refl
  next found =>
    obtain ⟨_, _, resolved⟩ := Option.bind_eq_some_iff.mp found
    exact schedule_removes env _ _ resolved

private theorem schedule_occupy (i : Nat) (client : TcpSocket) :
    (gate.occupy i client).schedule = gate.schedule.reset i true :=
  schedule_modify gate i fun conn => { conn.init with bState := .connected, cliSocket := client }

theorem schedule_addIdleTimer (i : Nat) : (gate.addIdleTimer i).schedule = gate.schedule.arm i := by
  unfold addIdleTimer
  dsimp only
  rw [schedule_modify]
  rfl

private theorem schedule_register (i : Nat) (client : TcpSocket) : (gate.register i client).schedule =
      if gate.iConnxMaxIdleTime > 0 then gate.schedule.arm i else gate.schedule := by
  have numbered : ((gate.modify i fun conn => { conn with iIdx := i }).mapSocket client.fd i).schedule =
      gate.schedule := schedule_modify_same gate i (fun conn => { conn with iIdx := i }) rfl
  unfold register
  dsimp only
  show GateServerHandler.schedule (if gate.iConnxMaxIdleTime > 0 then _ else _) = _
  split
  · rw [schedule_addIdleTimer, numbered]
  · exact numbered

private theorem schedule_createBuffer (i : Nat) : (gate.createBuffer env i).1.schedule = gate.schedule := by
  unfold createBuffer
  dsimp only
  split
  · rfl
  · exact schedule_setReceiver _ i _

/-- Nothing, or a free slot is reset and closed again, or it is taken and its timer armed. -/
theorem schedule_onNewConnection (client : TcpSocket)
    (returned : gate.onNewConnection env client = some result) :
    ∃ i, (gate.countAlive 1).getNextIdx = some i ∧
      (result.1.schedule = (gate.countAlive 1).schedule ∨
        result.1.schedule = (gate.countAlive 1).schedule.reset i false ∨
        result.1.schedule = if gate.iConnxMaxIdleTime > 0
          then ((gate.countAlive 1).schedule.reset i true).arm i
          else (gate.countAlive 1).schedule.reset i true) := by
  obtain ⟨i, found, rfl⟩ := Option.map_eq_some_iff.mp returned
  refine ⟨i, found, ?_⟩
  have created := schedule_createBuffer env (gate.countAlive 1) i
  generalize (gate.countAlive 1).createBuffer env i = buffer at created ⊢
  dsimp only
  split
  · exact .inl created
  · have notified : ((buffer.1.occupy i client).notifyNeedAuth env i).1.schedule =
        (gate.countAlive 1).schedule.reset i true := by
      rw [notifyNeedAuth, schedule_sendToClient, schedule_occupy, created]
    generalize (buffer.1.occupy i client).notifyNeedAuth env i = after at notified ⊢
    refine .inr ?_
    split
    · left
      rw [schedule_closeConnection, notified]
      simp [reset]
    · right
      have period : after.1.iConnxMaxIdleTime = gate.iConnxMaxIdleTime :=
        congrArg Schedule.iConnxMaxIdleTime notified
      rw [schedule_register, period, notified]

/-- A free slot stays, an idle connection is removed, and another one is armed again after a period. -/
theorem schedule_checkConnxFree (idx : Nat) : (gate.checkConnxFree env idx).schedule =
      if gate.getConnectionByIdx idx = none then gate.schedule
      else if (gate.vecConnections idx).tLastActTime + env.iIdleCheckPeriod.toInt < gate.curTime then
        gate.schedule.remove idx
      else if (gate.vecConnections idx).tLastCheckTime + env.iIdleCheckPeriod.toInt ≤ gate.curTime then
        { gate.schedule.arm idx with
          slots := Function.update (gate.schedule.arm idx).slots idx
            { (gate.schedule.arm idx).slots idx with tLastCheckTime := gate.curTime } }
      else gate.schedule := by
  unfold checkConnxFree
  cases found : gate.getConnectionByIdx idx with
  | none => rfl
  | some i =>
    have resolved := getConnectionByIdx_eq gate idx ▸ found
    obtain ⟨rfl, _⟩ := Table.byIdx_some resolved
    rw [if_neg (by simp)]
    dsimp only
    split
    · exact schedule_removeConnection env gate i _
    · split
      · rw [← schedule_addIdleTimer, schedule_modify]
        rfl
      · rfl

end GateServerHandler

end Playground.Gate
