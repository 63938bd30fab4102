import Playground.Gate.Receive

/-! One event of the gate as a run of acts. -/

namespace Playground.Gate

open Framing Component Transition

/-- The first of these payloads that parses asks for an area that is not served. -/
def rejects (env : Env) : List Bytes → Bool
  | [] => false
  | payload :: payloads =>
    match env.parseGateCSMsg payload with
    | none => rejects env payloads
    | some ga => (env.mpAreaID2ChannelID ga.authreq.area).isNone

/-- The call removes the connection of the slot. -/
def Removes (env : Env) (gate : GateServerHandler) (i : Nat) : Event → Prop
  | .newConnection _ => False
  | .clientDataRecv fd chunk =>
    gate.getConnectionByFD fd = some i ∧ (gate.vecConnections i).bState = .connected ∧
      rejects env (decode (gate.vecConnections i).receiver.iMsgLen chunk).2
  | .connectionClosed fd => gate.getConnectionByFD fd = some i
  | .checkConnxFree idx =>
    gate.getConnectionByIdx idx = some i ∧
      (gate.vecConnections i).tLastActTime + env.iIdleCheckPeriod.toInt < gate.curTime
  | .agentMessage ggc _ => gate.getConnectionByIdx ggc.idx = some i ∧ ggc.event = .close
  | .closing _ notifinum =>
    gate.getConnectionByIdx i = some i ∧ gate.dwLastClosingIdx ≤ i ∧ i < gate.dwLastClosingIdx + notifinum
  | .clock _ _ _ => False

/-- One of the acts removes the connection of the slot. -/
def Removal (i : Nat) (acts : List Act) : Prop := ∃ reason, Act.remove i reason ∈ acts

def Act.taken : Act → Option (Nat × TcpSocket)
  | .accept i client _ => some (i, client)
  | .refuse i client _ => some (i, client)
  | _ => none

def Act.admits : Act → Option Nat
  | .authorize i _ _ _ _ => some i
  | _ => none

namespace Handled

variable {env : Env} {table : Table} {i : Nat} {fd : Int} {payload : Bytes} {acts : List Act}

section

variable (handled : Handled env table i payload acts)

include handled

theorem taken : ∀ act ∈ acts, act.taken = none := by
  cases handled <;> simp [Act.taken]

theorem removal_own (removed : Removal j acts) : j = i := by
  obtain ⟨reason, member⟩ := removed
  cases handled <;> simp_all

theorem not_admits_of_removal (removed : Removal i acts) : ∀ act ∈ acts, act.admits = none := by
  obtain ⟨reason, member⟩ := removed
  cases handled with
  | rejected => simp [Act.admits]
  | _ => simp at member

theorem state_of_admits (member : act ∈ acts)
    (admits : act.admits = some j) : ((table.run env acts).slots i).state = .authorized := by
  cases handled with
  | authorized => simp [Table.run, Table.apply]
  | _ =>
    simp only [List.mem_cons, List.not_mem_nil, or_false] at member
    rcases member with rfl | rfl | rfl <;> cases admits

end

theorem removal_iff_gone (found : table.byFD fd = some i) (handled : Handled env table i payload acts) :
    Removal i acts ↔ (table.run env acts).byFD fd = none := by
  rcases handled.outcome found with ⟨removed, gone⟩ | ⟨kept, alive⟩
  · exact ⟨fun _ => gone, fun _ => removed⟩
  · constructor
    · rintro ⟨reason, member⟩
      exact absurd member (kept i reason)
    · intro gone
      cases gone.symm.trans alive

theorem rejects_of_removal (handled : Handled env table i payload acts) (removed : Removal i acts)
    (payloads : List Bytes) :
    (table.slots i).state = .connected ∧ rejects env (payload :: payloads) := by
  obtain ⟨reason, member⟩ := removed
  cases handled with
  | rejected fresh parsed unknown => exact ⟨fresh, by simp [rejects, parsed, unknown]⟩
  | ignored _ => simp at member
  | authorized _ _ _ _ => simp at member
  | awaiting _ _ _ => simp at member
  | forwarded _ _ => simp at member

theorem rejects_behind (handled : Handled env table i payload acts) (kept : ¬ Removal i acts)
    (payloads : List Bytes) :
    ((table.run env acts).slots i).state = .connected ∧ rejects env payloads ↔
      (table.slots i).state = .connected ∧ rejects env (payload :: payloads) := by
  cases handled with
  | rejected _ _ _ => exact absurd ⟨_, List.mem_of_mem_tail (List.mem_singleton_self _)⟩ kept
  | ignored idle =>
    show (table.slots i).state = .connected ∧ _ ↔ _
    rcases idle with ⟨_, unparsed⟩ | waiting
    · simp [rejects, unparsed]
    · simp [waiting]
  | authorized fresh parsed known _ =>
    simp [Table.run, Table.apply, rejects, parsed, known]
  | awaiting fresh parsed known =>
    simp [Table.run, Table.apply, rejects, parsed, known]
  | forwarded trusted _ =>
    simp [Table.run, Table.apply, trusted]

end Handled

theorem removal_append (i : Nat) (acts later : List Act) :
    Removal i (acts ++ later) ↔ Removal i acts ∨ Removal i later := by
  simp [Removal, exists_or]

namespace Received

variable {env : Env} {table final : Table} {i : Nat} {fd : Int} {payloads : List Bytes} {acts : List Act}

theorem taken (received : Received env i fd table payloads acts final) :
    ∀ act ∈ acts, act.taken = none := by
  induction received with
  | done => simp
  | next handled _ _ ih =>
    intro act member
    rcases List.mem_append.mp member with now | later
    · exact handled.taken act now
    · exact ih act later
  | cut handled _ closing =>
    intro act member
    rcases List.mem_append.mp member with now | later
    · exact handled.taken act now
    · rcases closing with rfl | rfl
      · cases later
      · rw [List.mem_singleton.mp later]
        rfl

private theorem removal_closes (i : Nat) (closing : closes = [] ∨ closes = [Act.closeClient fd]) :
    ¬ Removal i closes := by
  rcases closing with rfl | rfl <;> simp [Removal]

theorem removal_own (received : Received env i fd table payloads acts final) (removed : Removal j acts) :
    j = i := by
  induction received with
  | done => simp [Removal] at removed
  | next handled _ _ ih =>
    rcases (removal_append j _ _).mp removed with now | later
    · exact handled.removal_own now
    · exact ih later
  | cut handled _ closing =>
    rcases (removal_append j _ _).mp removed with now | later
    · exact handled.removal_own now
    · exact absurd later (removal_closes j closing)

theorem removal_iff (found : table.byFD fd = some i)
    (received : Received env i fd table payloads acts final) :
    Removal i acts ↔ (table.slots i).state = .connected ∧ rejects env payloads := by
  induction received with
  | done => simp [Removal, rejects]
  | next handled alive rest ih =>
    have kept := mt (handled.removal_iff_gone found).mp (by simp [alive])
    rw [removal_append, ih alive, handled.rejects_behind kept]
    exact or_iff_right kept
  | cut handled gone closing =>
    have removed := (handled.removal_iff_gone found).mpr gone
    rw [removal_append]
    exact ⟨fun _ => handled.rejects_of_removal removed _, fun _ => .inl removed⟩

theorem not_admits_of_removal (found : table.byFD fd = some i)
    (received : Received env i fd table payloads acts final) (removed : Removal i acts) :
    ∀ act ∈ acts, act.admits = none := by
  induction received with
  | done => simp
  | next handled alive rest ih =>
    have kept := mt (handled.removal_iff_gone found).mp (by simp [alive])
    have behind := ((removal_append i _ _).mp removed).resolve_left kept
    have fresh := ((rest.removal_iff alive).mp behind).1
    intro act member
    rcases List.mem_append.mp member with now | later
    · cases admits : act.admits with
      | none => rfl
      | some j => cases fresh.symm.trans (handled.state_of_admits now admits)
    · exact ih alive behind act later
  | cut handled gone closing =>
    have now := (handled.removal_iff_gone found).mpr gone
    intro act member
    rcases List.mem_append.mp member with early | late
    · exact handled.not_admits_of_removal now act early
    · rcases closing with rfl | rfl
      · cases late
      · rw [List.mem_singleton.mp late]
        rfl

end Received

namespace GateServerHandler

variable (env : Env) (gate : GateServerHandler) (reason : Int)

/-- No decoder holds a part of a field. -/
def Idle (gate : GateServerHandler) : Prop := ∀ j, (gate.receivers j).iUsed = 0

theorem getNextIdx_some (found : gate.getNextIdx = some i) :
    1 ≤ i ∧ i < gate.size ∧ ¬ gate.table.Live i := by
  unfold getNextIdx at found
  split at found
  · cases found
  · have member := List.mem_of_find?_eq_some found
    have free := List.find?_some found
    obtain ⟨positive, bounded⟩ := List.mem_range'_1.mp member
    have invalid : (gate.vecConnections i).bState = .invalid := by simpa using free
    exact ⟨positive, by omega, fun live => live invalid⟩

theorem createBuffer_frame (i : Nat) : (gate.createBuffer env i).1.table = gate.table ∧
      (gate.Idle → (gate.createBuffer env i).1.Idle) := by
  unfold createBuffer
  dsimp only
  split
  · exact ⟨rfl, id⟩
  · refine ⟨table_setReceiver _ i _, ?_⟩
    intro idle j
    rw [receivers_setReceiver]
    by_cases same : j = i
    · subst same
      rw [Function.update_self]
      exact idle j
    · rw [Function.update_of_ne same]
      exact idle j

theorem addIdleTimer_frame (i : Nat) :
    (gate.addIdleTimer i).table = gate.table ∧ (gate.addIdleTimer i).receivers = gate.receivers := by
  unfold addIdleTimer
  dsimp only
  constructor
  · rw [table_modify_same _ i _ rfl]
    rfl
  · rw [receivers_modify_same _ i _ rfl]
    rfl

theorem occupy_idle (i : Nat) (client : TcpSocket) (idle : gate.Idle) :
    (gate.occupy i client).Idle := by
  intro j
  have changed : (gate.occupy i client).receivers = (gate.modify i fun conn =>
    { conn.init with bState := .connected, cliSocket := client }).receivers := rfl
  rw [changed, receivers_modify]
  by_cases same : j = i
  · subst same
    simp [Connection.init]
  · rw [Function.update_of_ne same]
    exact idle j

theorem table_occupy (i : Nat) (client : TcpSocket) :
    (gate.occupy i client).table = (gate.table.setSlot i
      { gate.table.slots i with state := .connected, socket := client, iIdx := -1, uid := 0, dst := 0 }).record
        [.accepted i client.fd] := by
  unfold occupy
  rw [table_emit, table_modify_slot _ i _ (fun slot =>
    { slot with state := .connected, socket := client, iIdx := -1, uid := 0, dst := 0 }) (fun _ => rfl)]

theorem register_frame (i : Nat) (client : TcpSocket) : (gate.register i client).table =
      { gate.table.setSlot i { gate.table.slots i with iIdx := i } with
        map := Function.update gate.table.map client.fd (some i) } ∧
      (gate.register i client).receivers = gate.receivers := by
  have slot := table_modify_slot gate i (fun conn => { conn with iIdx := i })
    (fun slot => { slot with iIdx := i }) (fun _ => rfl)
  have kept := receivers_modify_same gate i (fun conn => { conn with iIdx := i }) rfl
  have mapped : ((gate.modify i fun conn => { conn with iIdx := i }).mapSocket client.fd i).table =
      { gate.table.setSlot i { gate.table.slots i with iIdx := i } with
        map := Function.update gate.table.map client.fd (some i) } := by
    rw [← slot]
    rfl
  unfold register
  dsimp only
  split
  · obtain ⟨table, receivers⟩ := addIdleTimer_frame
      ((gate.modify i fun conn => { conn with iIdx := i }).mapSocket client.fd i) i
    exact ⟨table.trans mapped, receivers.trans kept⟩
  · exact ⟨mapped, kept⟩

theorem onNewConnection_acts (client : TcpSocket)
    (returned : gate.onNewConnection env client = some result) :
    ∃ act, (act = .closeClient client.fd ∨
        ∃ i, act.taken = some (i, client) ∧ (gate.countAlive 1).getNextIdx = some i) ∧
      (∀ i, ¬ Removal i [act]) ∧
      ActStep env gate.table act result.1.table ∧ (gate.Idle → result.1.Idle) := by
  obtain ⟨i, found, rfl⟩ := Option.map_eq_some_iff.mp returned
  obtain ⟨positive, bounded, free⟩ := getNextIdx_some (gate.countAlive 1) found
  have table : (gate.countAlive 1).table = gate.table := rfl
  have counted : gate.Idle → (gate.countAlive 1).Idle := id
  have size : (gate.countAlive 1).size = gate.table.size := rfl
  generalize gate.countAlive 1 = accepting at *
  obtain ⟨created, ready⟩ := createBuffer_frame env accepting i
  generalize accepting.createBuffer env i = buffer at created ready ⊢
  dsimp only
  rw [table] at created free
  split
  · refine ⟨.closeClient client.fd, .inl rfl, by simp [Removal], ⟨trivial, ?_⟩, fun idle => ready (counted idle)⟩
    rw [table_emit, created]
    rfl
  · have sends := sendToClient_sends env (buffer.1.occupy i client) i { cmd := gateNeedAuth }
    obtain ⟨written, wrote⟩ := sends.writes
    rw [notifyNeedAuth]
    generalize (buffer.1.occupy i client).sendToClient env i { cmd := gateNeedAuth } = notified at sends wrote ⊢
    rw [table_occupy, created] at wrote
    have idle : gate.Idle → notified.1.Idle := by
      intro idle
      have occupied := occupy_idle buffer.1 i client (ready (counted idle))
      intro j
      rw [sends.receivers]
      exact occupied j
    split
    · refine ⟨.refuse i client written, .inr ⟨i, rfl, found⟩, by simp [Removal],
        ⟨⟨free, positive, size ▸ bounded⟩, ?_⟩, ?_⟩
      · have live : (notified.1.vecConnections i).bState ≠ .invalid := by
          have state := congrArg (fun after : Table => (after.slots i).state) wrote
          intro invalid
          simpa [invalid] using (show (notified.1.vecConnections i).bState = _ from state)
        rw [table_closeConnection _ _ live, wrote]
        simp [Table.apply, Table.setSlot, Table.record, Table.writes]
      · intro before j
        rw [receivers_closeConnection]
        exact idle before j
    · obtain ⟨registered, kept⟩ := register_frame notified.1 i client
      refine ⟨.accept i client written, .inr ⟨i, rfl, found⟩, by simp [Removal],
        ⟨⟨free, positive, size ▸ bounded⟩, ?_⟩, ?_⟩
      · rw [registered, wrote]
        simp [Table.apply, Table.setSlot, Table.record, Table.writes]
      · intro before j
        rw [kept]
        exact idle before j

theorem removeConnection_step (found : gate.table.byIdx idx = some i) :
    ActStep env gate.table (.remove i reason) (gate.removeConnection env i reason).table := by
  obtain ⟨rfl, _, _, live⟩ := Table.byIdx_some found
  exact ⟨found, (table_removeConnection env gate i reason live).symm⟩

theorem removal_remove (i j : Nat) (reason : Int) : Removal j [.remove i reason] ↔ i = j := by
  simp [Removal, eq_comm]

theorem closeNext_acts :
    ∃ acts, Steps (ActStep env) gate.table acts (gate.closeNext env reason).table ∧
      (∀ i, Removal i acts ↔ gate.table.byIdx i = some i ∧ i = gate.dwLastClosingIdx) ∧
      (∀ act ∈ acts, act.taken = none ∧ act.admits = none) ∧
      (∀ i, (gate.closeNext env reason).table.byIdx i =
        if i = gate.dwLastClosingIdx then none else gate.table.byIdx i) ∧
      (gate.closeNext env reason).receivers = gate.receivers ∧
      (gate.closeNext env reason).dwLastClosingIdx = gate.dwLastClosingIdx := by
  unfold closeNext
  rw [getConnectionByIdx_eq]
  cases found : gate.table.byIdx gate.dwLastClosingIdx with
  | none =>
    refine ⟨[], .nil, ?_, by simp, ?_, rfl, rfl⟩
    · intro i
      simp only [Removal, List.not_mem_nil, exists_false, false_iff]
      rintro ⟨live, rfl⟩
      cases found.symm.trans live
    · intro i
      by_cases same : i = gate.dwLastClosingIdx
      · simp [same, found]
      · simp [same]
  | some i =>
    have step := removeConnection_step env gate reason found
    obtain ⟨rfl, _, _, live⟩ := Table.byIdx_some found
    refine ⟨_, .single step, ?_, by simp [Act.taken, Act.admits], ?_, receivers_removeConnection _ _ _ _,
      removeConnection_closingIdx _ _ _ _⟩
    · intro j
      rw [removal_remove]
      constructor
      · rintro rfl
        exact ⟨found, rfl⟩
      · rintro ⟨_, rfl⟩
        rfl
    · intro j
      rw [table_removeConnection env gate _ reason live]
      exact Table.remove_byIdx env gate.table _ reason j

theorem closingLoop_acts (count : Nat) (gate : GateServerHandler) :
    ∃ acts, Steps (ActStep env) gate.table acts (closingLoop env reason count gate).table ∧
      (∀ i, Removal i acts ↔ gate.table.byIdx i = some i ∧ gate.dwLastClosingIdx ≤ i ∧
        i < gate.dwLastClosingIdx + count) ∧
      (∀ act ∈ acts, act.taken = none ∧ act.admits = none) ∧
      (closingLoop env reason count gate).receivers = gate.receivers := by
  induction count generalizing gate with
  | zero => exact ⟨[], .nil, by simp [Removal], by simp, rfl⟩
  | succ count ih =>
    rw [closingLoop]
    split
    · obtain ⟨now, first, removedNow, takenNow, resolves, keptNow, progress⟩ := closeNext_acts env gate reason
      obtain ⟨later, rest, removedLater, takenLater, keptLater⟩ :=
        ih (gate.closeNext env reason).advanceClosing
      refine ⟨now ++ later, first.append rest, ?_, ?_, keptLater.trans keptNow⟩
      · intro i
        have next : (gate.closeNext env reason).advanceClosing.dwLastClosingIdx =
            gate.dwLastClosingIdx + 1 := congrArg (· + 1) progress
        have table : (gate.closeNext env reason).advanceClosing.table = (gate.closeNext env reason).table :=
          rfl
        rw [removal_append, removedNow, removedLater, next, table, resolves]
        by_cases here : i = gate.dwLastClosingIdx
        · simp [here]
        · simp only [here, and_false, false_or, if_false]
          constructor
          · rintro ⟨live, above, below⟩
            exact ⟨live, by omega, by omega⟩
          · rintro ⟨live, above, below⟩
            exact ⟨live, by omega, by omega⟩
      · intro act member
        rcases List.mem_append.mp member with early | late
        · exact takenNow act early
        · exact takenLater act late
    · next past =>
      refine ⟨[], .nil, ?_, by simp, rfl⟩
      intro i
      simp only [Removal, List.not_mem_nil, exists_false, false_iff]
      rintro ⟨live, above, _⟩
      have inside : i < gate.size := (Table.byIdx_some live).2.2.1
      omega

theorem beginClosing_frame : (gate.beginClosing reason).table = gate.table ∧
      (gate.beginClosing reason).receivers = gate.receivers ∧
      (gate.beginClosing reason).dwLastClosingIdx = gate.dwLastClosingIdx := by
  unfold beginClosing
  split <;> exact ⟨rfl, rfl, rfl⟩

theorem onClosing_fst (notifinum : Nat) :
    (gate.onClosing env reason notifinum).1 = closingLoop env reason notifinum (gate.beginClosing reason) := by
  unfold onClosing
  dsimp only
  split <;> rfl

end GateServerHandler

/-- A handler call as acts: it removes the slots the event asks for, and takes at most one, on an accept. -/
structure StepActs (env : Env) (gate : GateServerHandler) (ev : Event) (acts : List Act)
    (next : GateServerHandler) : Prop where
  steps : Steps (ActStep env) gate.table acts next.table
  removal : ∀ i, Removal i acts ↔ Removes env gate i ev
  taken : ∀ act ∈ acts, ∀ i client, act.taken = some (i, client) →
    ev = .newConnection client ∧ acts = [act] ∧ (gate.countAlive 1).getNextIdx = some i
  admitted : ∀ i, Removal i acts → ∀ act ∈ acts, act.admits = none
  idle : next.Idle

namespace StepActs

variable {env : Env} {gate next : GateServerHandler} {ev : Event}

theorem silent (same : next.table = gate.table) (idle : next.Idle) (kept : ∀ i, ¬ Removes env gate i ev) :
    StepActs env gate ev [] next :=
  ⟨same ▸ .nil, fun i => by simp [Removal, kept i], by simp, by simp, idle⟩

theorem removing (found : gate.table.byIdx idx = some i) (reason : Int) (idle : gate.Idle)
    (removes : ∀ j, Removes env gate j ev ↔ i = j) :
    StepActs env gate ev [.remove i reason] (gate.removeConnection env i reason) := by
  refine ⟨.single (GateServerHandler.removeConnection_step env gate reason found), ?_, by simp [Act.taken],
    by simp [Act.admits], ?_⟩
  · intro j
    rw [GateServerHandler.removal_remove, removes]
  · intro j
    rw [GateServerHandler.receivers_removeConnection]
    exact idle j

theorem newConnection (idle : gate.Idle) (returned : gate.onNewConnection env client = some result) :
    ∃ acts, StepActs env gate (.newConnection client) acts result.1 := by
  obtain ⟨act, takes, removes, stepped, kept⟩ :=
    GateServerHandler.onNewConnection_acts env gate client returned
  refine ⟨[act], .single stepped, fun i => by simp [removes i, Removes], ?_,
    fun i removed => absurd removed (removes i), kept idle⟩
  intro act' member i client' taken
  obtain rfl := List.mem_singleton.mp member
  rcases takes with rfl | ⟨j, some, next⟩
  · cases taken
  · obtain ⟨rfl, rfl⟩ : j = i ∧ client = client' := by simpa [some] using taken
    exact ⟨rfl, rfl, next⟩

theorem clientDataRecv (idle : gate.Idle) (fd : Int) (chunk : Bytes) :
    ∃ acts, StepActs env gate (.clientDataRecv fd chunk) acts (gate.onClientDataRecv env fd chunk).1 := by
  cases found : gate.table.byFD fd with
  | none =>
    rw [GateServerHandler.onClientDataRecv_gone env gate chunk found]
    refine ⟨[.closeClient fd], .single ⟨trivial, rfl⟩, ?_, by simp [Act.taken], by simp [Act.admits], idle⟩
    intro i
    simp [Removal, Removes, GateServerHandler.getConnectionByFD_eq, found]
  | some i =>
    have consumed := GateServerHandler.onClientDataRecv_consumed env gate chunk found (idle i)
    obtain ⟨acts, received⟩ := consumed.received
    have admitted : ∀ j, Removal j acts → ∀ act ∈ acts, act.admits = none := by
      intro j removed
      obtain rfl := received.removal_own removed
      exact received.not_admits_of_removal found removed
    refine ⟨acts, received.steps found, ?_, ?_, admitted, ?_⟩
    · intro j
      rw [Removes, GateServerHandler.getConnectionByFD_eq, found]
      constructor
      · intro removed
        obtain rfl := received.removal_own removed
        exact ⟨rfl, (received.removal_iff found).mp removed⟩
      · rintro ⟨same, rejected⟩
        cases same
        exact (received.removal_iff found).mpr rejected
    · intro act member j client taken
      cases (received.taken act member).symm.trans taken
    · intro j
      by_cases same : j = i
      · subst same
        exact consumed.idle
      · rw [consumed.others j same]
        exact idle j

theorem connectionClosed (idle : gate.Idle) (fd : Int) :
    ∃ acts, StepActs env gate (.connectionClosed fd) acts (gate.onConnectionClosed env fd).1 := by
  have table : (gate.countAlive (-1)).table = gate.table := rfl
  unfold GateServerHandler.onConnectionClosed
  dsimp only
  rw [GateServerHandler.getConnectionByFD_eq, table]
  cases found : gate.table.byFD fd with
  | none =>
    refine ⟨[], silent rfl idle fun i => ?_⟩
    simp [Removes, GateServerHandler.getConnectionByFD_eq, found]
  | some i =>
    obtain ⟨_, positive, bounded, live⟩ := Table.byFD_some found
    have resolved : (gate.countAlive (-1)).table.byIdx i = some i :=
      Table.byIdx_of_live positive bounded live
    have counted : (gate.countAlive (-1)).Idle := idle
    have removes : ∀ j, Removes env (gate.countAlive (-1)) j (.connectionClosed fd) ↔ i = j := by
      intro j
      simp [Removes, GateServerHandler.getConnectionByFD_eq, table, found]
    have removed := removing resolved connectionCloseByClient counted removes
    exact ⟨_, removed.steps, removed.removal, by simp [Act.taken], removed.admitted, removed.idle⟩

theorem checkConnxFree (idle : gate.Idle) (idx : Nat) :
    ∃ acts, StepActs env gate (.checkConnxFree idx) acts (gate.checkConnxFree env idx) := by
  unfold GateServerHandler.checkConnxFree
  rw [GateServerHandler.getConnectionByIdx_eq]
  cases found : gate.table.byIdx idx with
  | none =>
    refine ⟨[], silent rfl idle fun i => ?_⟩
    simp [Removes, GateServerHandler.getConnectionByIdx_eq, found]
  | some i =>
    dsimp only
    split
    · next expired =>
      refine ⟨_, removing found connectionCloseByDefault idle fun j => ?_⟩
      simp only [Removes, GateServerHandler.getConnectionByIdx_eq, found, Option.some.injEq]
      constructor
      · exact fun removes => removes.1
      · rintro rfl
        exact ⟨rfl, expired⟩
    · next recent =>
      have kept : ∀ j, ¬ Removes env gate j (.checkConnxFree idx) := by
        rintro j ⟨same, expired⟩
        cases found.symm.trans same
        exact recent expired
      split
      · obtain ⟨table, receivers⟩ := GateServerHandler.addIdleTimer_frame gate i
        refine ⟨[], silent ?_ ?_ kept⟩
        · rw [GateServerHandler.table_modify_same _ i _ rfl, table]
        · intro j
          rw [GateServerHandler.receivers_modify_same _ i _ rfl, receivers]
          exact idle j
      · exact ⟨[], silent rfl idle kept⟩

/-- What a message of the agent does to the table: nothing, a write, or a removal, all
on the slot it names. -/
theorem dispatchMessage_acts (env : Env) (gate : GateServerHandler) (ggc : GateSSMsg) (csmsg : Bytes) :
    gate.table.byIdx ggc.idx = none ∧ (gate.dispatchMessage env ggc csmsg).1 = gate ∨
    gate.table.byIdx ggc.idx = some ggc.idx ∧
      (ggc.event = .close ∧ (gate.dispatchMessage env ggc csmsg).1 =
          gate.removeConnection env ggc.idx (ggc.reason.getD 0) ∨
        ggc.event = .data ∧ GateServerHandler.Sends ggc.idx gate (gate.dispatchMessage env ggc csmsg).1 ∨
        ggc.event = .connected ∧ (gate.dispatchMessage env ggc csmsg).1 = gate) := by
  unfold GateServerHandler.dispatchMessage
  rw [GateServerHandler.getConnectionByIdx_eq]
  cases found : gate.table.byIdx ggc.idx with
  | none => exact .inl ⟨rfl, rfl⟩
  | some i =>
    obtain ⟨rfl, _⟩ := Table.byIdx_some found
    refine .inr ⟨rfl, ?_⟩
    cases event : ggc.event with
    | close => exact .inl ⟨rfl, rfl⟩
    | connected => exact .inr (.inr ⟨rfl, rfl⟩)
    | data =>
      refine .inr (.inl ⟨rfl, ?_⟩)
      apply GateServerHandler.Sends.trans _ (GateServerHandler.sendFrameToClient_sends env _ _ csmsg)
      exact GateServerHandler.Sends.silent rfl rfl rfl

private theorem agentMessage (idle : gate.Idle) (ggc : GateSSMsg) (csmsg : Bytes) :
    ∃ acts, StepActs env gate (.agentMessage ggc csmsg) acts (gate.dispatchMessage env ggc csmsg).1 := by
  rcases dispatchMessage_acts env gate ggc csmsg with
    ⟨missing, same⟩ | ⟨found, ⟨event, same⟩ | ⟨event, sends⟩ | ⟨event, same⟩⟩
  · rw [same]
    refine ⟨[], silent rfl idle fun i => ?_⟩
    simp [Removes, GateServerHandler.getConnectionByIdx_eq, missing]
  · rw [same]
    refine ⟨_, removing found _ idle fun j => ?_⟩
    simp [Removes, GateServerHandler.getConnectionByIdx_eq, found, event]
  · obtain ⟨written, wrote⟩ := sends.writes
    refine ⟨[.write ggc.idx written], .single ⟨(Table.byIdx_some found).2.2.2, wrote.symm⟩, ?_,
      by simp [Act.taken], by simp [Act.admits], ?_⟩
    · intro j
      simp [Removal, Removes, event]
    · intro j
      rw [sends.receivers]
      exact idle j
  · rw [same]
    refine ⟨[], silent rfl idle fun i => ?_⟩
    simp [Removes, event]

private theorem closing (idle : gate.Idle) (reason : Int) (notifinum : Nat) :
    ∃ acts, StepActs env gate (.closing reason notifinum) acts (gate.onClosing env reason notifinum).1 := by
  obtain ⟨table, receivers, progress⟩ := gate.beginClosing_frame reason
  obtain ⟨acts, steps, removed, taken, kept⟩ :=
    GateServerHandler.closingLoop_acts env reason notifinum (gate.beginClosing reason)
  rw [GateServerHandler.onClosing_fst]
  rw [table] at steps removed
  rw [progress] at removed
  refine ⟨acts, steps, removed, ?_, fun i _ act member => (taken act member).2, ?_⟩
  · intro act member i client takes
    cases (taken act member).1.symm.trans takes
  · intro j
    rw [kept, receivers]
    exact idle j

end StepActs

theorem step_acts (idle : gate.Idle) (stepped : step env gate ev = some next) :
    ∃ acts, StepActs env gate ev acts next := by
  cases ev with
  | newConnection client =>
    obtain ⟨result, returned, rfl⟩ := Option.map_eq_some_iff.mp stepped
    exact StepActs.newConnection idle returned
  | clientDataRecv fd chunk =>
    cases stepped
    exact StepActs.clientDataRecv idle fd chunk
  | connectionClosed fd =>
    cases stepped
    exact StepActs.connectionClosed idle fd
  | checkConnxFree idx =>
    cases stepped
    exact StepActs.checkConnxFree idle idx
  | agentMessage ggc csmsg =>
    cases stepped
    exact StepActs.agentMessage idle ggc csmsg
  | closing reason notifinum =>
    cases stepped
    exact StepActs.closing idle reason notifinum
  | clock curTime timeStampNow curMsTime =>
    cases stepped
    exact ⟨[], StepActs.silent rfl idle fun i => id⟩

end Playground.Gate
