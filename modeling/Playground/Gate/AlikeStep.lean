import Playground.Gate.Alike
import Playground.Gate.Step

/-! Gates that are alike take the same calls in the same way, and stay alike. -/

namespace Playground.Gate

open Framing Component Transition

variable {env : Env} {sendRet createRet : Nat → Int} {i k : Nat} {one two : GateServerHandler}

/-- Where the event removes the connection of slot `i`, both gates hold the same area for it. -/
abbrev RemovesAlike (env : Env) (i : Nat) (one two : GateServerHandler) (ev : Event) : Prop :=
  Removes env one i ev → (one.vecConnections i).iArea = (two.vecConnections i).iArea

theorem Handled.area_kept {gate next : GateServerHandler} (handled : Handled env gate.table k payload acts)
    (ran : next.table = gate.table.run env acts) (fresh : (next.vecConnections k).bState = .connected) :
    (next.vecConnections k).iArea = (gate.vecConnections k).iArea := by
  have area : (next.vecConnections k).iArea = ((gate.table.run env acts).slots k).area :=
    congrArg (fun table : Table => (table.slots k).area) ran
  have state : (next.vecConnections k).bState = ((gate.table.run env acts).slots k).state :=
    congrArg (fun table : Table => (table.slots k).state) ran
  rw [state] at fresh
  rw [area]
  cases handled with
  | ignored _ => rfl
  | authorized _ _ _ _ => simp [Table.run, Table.apply] at fresh
  | awaiting _ _ _ => simp [Table.run, Table.apply] at fresh
  | rejected _ _ _ => simp [Table.run, Table.apply] at fresh
  | forwarded trusted _ => simp [Table.run, Table.apply, trusted] at fresh

namespace Alike

variable (alike : Alike env sendRet createRet one two)

include alike

theorem identify (fresh : (one.vecConnections k).bState = .connected) (auth : AuthReq) (channel : Int) :
    Alike env sendRet createRet
      (one.modify k fun conn => GateServerHandler.identify conn auth channel one.timeStampNow)
      (two.modify k fun conn => GateServerHandler.identify conn auth channel two.timeStampNow) := by
  have stamp : two.timeStampNow = one.timeStampNow := congrArg GateCore.timeStampNow alike
  have live : (one.vecConnections k).bState ≠ .invalid := by simp [fresh]
  have view := alike.view live
  rw [stamp]
  refine alike.modify (Connection.core_congr (alike.state k) ?_ ?_ ?_ ?_)
  · exact alike.created k
  · exact alike.used k
  · intro _
    exact congrArg (fun view : ConnectionView =>
      { view with iDstChannel := channel, ulUid := auth.uid, tLastActTime := one.timeStampNow }) view
  · intro known
    simp [GateServerHandler.identify, fresh] at known

theorem enter (live : (one.vecConnections k).bState ≠ .invalid)
    (area : (two.vecConnections k).iArea = (one.vecConnections k).iArea) (state : GateConnectionState) :
    Alike env sendRet createRet (one.modify k fun conn => { conn with bState := state })
      (two.modify k fun conn => { conn with bState := state }) := by
  have view := alike.view live
  refine alike.modify (Connection.core_congr rfl ?_ ?_ ?_ ?_)
  · exact alike.created k
  · exact alike.used k
  · exact fun _ => view
  · exact fun _ => area

private theorem authorize (live : (one.vecConnections k).bState ≠ .invalid)
    (area : (two.vecConnections k).iArea = (one.vecConnections k).iArea) :
    Follows env sendRet createRet i one two
      (((one.notifyAuthResult env k 0).1.modify k fun conn =>
        { conn with bState := .authorized }).reportEvent env k .connected 0 none)
      (((two.notifyAuthResult (env.calls sendRet createRet) k 0).1.modify k fun conn =>
        { conn with bState := .authorized }).reportEvent (env.calls sendRet createRet) k .connected 0 none)
      True := by
  have kept : ∀ (env : Env) (gate : GateServerHandler),
      ((gate.notifyAuthResult env k 0).1.vecConnections k).slot = (gate.vecConnections k).slot := by
    intro env gate
    obtain ⟨written, wrote⟩ := (GateServerHandler.sendToClient_sends env gate k
      { cmd := gateAuthRsp, authRsp := some { result := 0 } }).writes
    exact congrArg (fun table : Table => table.slots k) wrote
  obtain ⟨told, _⟩ := alike.sendToClient (i := i) k { cmd := gateAuthRsp, authRsp := some { result := 0 } }
  have left := kept env one
  have right := kept (env.calls sendRet createRet) two
  unfold GateServerHandler.notifyAuthResult at left right ⊢
  generalize one.sendToClient env k _ = notified at told left ⊢
  generalize two.sendToClient _ k _ = notified' at told right ⊢
  have live' : (notified.1.vecConnections k).bState ≠ .invalid := by
    have state : (notified.1.vecConnections k).bState = (one.vecConnections k).bState :=
      congrArg Slot.state left
    rw [state]
    exact live
  have area' : (notified'.1.vecConnections k).iArea = (notified.1.vecConnections k).iArea :=
    (congrArg Slot.area right).trans (area.trans (congrArg Slot.area left).symm)
  have admitted := told.alike.enter live' area' .authorized
  have reported := admitted.reportEvent (i := i) (k :=
    k) (by simp [GateServerHandler.modify]) .connected 0 none
  refine (told.then_same (.then_same (.quiet admitted rfl rfl) reported)).congr (iff_true_intro fun _ => ?_)
  simpa [GateServerHandler.modify] using area'.symm

theorem onAuthRequest (fresh : (one.vecConnections k).bState = .connected) (request : AuthReq) :
    Follows env sendRet createRet i one two (one.onAuthRequest env k request).1
        (two.onAuthRequest (env.calls sendRet createRet) k request).1
        (k = i → env.mpAreaID2ChannelID request.area = none →
          (one.vecConnections k).iArea = (two.vecConnections k).iArea) ∧
      (two.onAuthRequest (env.calls sendRet createRet) k request).2 =
        (one.onAuthRequest env k request).2 := by
  have areas : (env.calls sendRet createRet).mpAreaID2ChannelID = env.mpAreaID2ChannelID := rfl
  have needs : (env.calls sendRet createRet).iNeedAuth = env.iNeedAuth := rfl
  have live : (one.vecConnections k).bState ≠ .invalid := by simp [fresh]
  unfold GateServerHandler.onAuthRequest GateServerHandler.authorizing
  rw [areas, needs]
  cases known : env.mpAreaID2ChannelID request.area with
  | none => exact ⟨(alike.removeConnection live _).congr (by simp), rfl⟩
  | some channel =>
    dsimp only
    have identified := alike.identify fresh request channel
    have first : Follows env sendRet createRet i one two _ _ True := .quiet identified rfl rfl
    have own : ∀ (gate : GateServerHandler) (now : Int),
        ((gate.modify k fun conn => GateServerHandler.identify conn request channel now).vecConnections k) =
          GateServerHandler.identify (gate.vecConnections k) request channel now := by
      intro gate now
      simp [GateServerHandler.modify]
    have left := own one one.timeStampNow
    have right := own two two.timeStampNow
    generalize one.modify k _ = asked at identified first left ⊢
    generalize two.modify k _ = asked' at identified first right ⊢
    have area : (asked'.vecConnections k).iArea = (asked.vecConnections k).iArea := by
      rw [left, right]
      rfl
    have alive : (asked.vecConnections k).bState ≠ .invalid := by
      rw [left]
      exact live
    by_cases trusts : env.iNeedAuth = 0
    · rw [if_neg (not_not.mpr trusts), if_neg (not_not.mpr trusts)]
      exact ⟨(first.then_same (identified.authorize alive area)).congr (by simp), rfl⟩
    · rw [if_pos trusts, if_pos trusts]
      have awaits := identified.enter alive area .authing
      exact ⟨(first.then_same (.quiet awaits rfl rfl)).congr (by simp), rfl⟩

private theorem forwardData (trusted : (one.vecConnections k).bState = .authorized) (data : Bytes) :
    Follows env sendRet createRet i one two (one.forwardData env k data)
      (two.forwardData (env.calls sendRet createRet) k data) True := by
  have tests : (env.calls sendRet createRet).iTestMode = env.iTestMode := rfl
  have buffer : (env.calls sendRet createRet).testBuffer = env.testBuffer := rfl
  unfold GateServerHandler.forwardData
  dsimp only
  rw [tests, buffer]
  have counted : Alike env sendRet createRet { one with reqpkgs := one.reqpkgs + 1 }
      { two with reqpkgs := two.reqpkgs + 1 } := alike
  have area := alike.area (.inr trusted)
  have reported := (counted.reportEvent (i := i) (k := k) (by simp [trusted]) .data 0 (some data)).congr
    (iff_true_intro fun _ => area.symm)
  have first : Follows env sendRet createRet i one two _ _ True :=
    .then_same (.quiet counted rfl rfl) reported
  split
  · exact first.then_same (reported.alike.sendFrameToClient k env.testBuffer).1
  · exact first

private theorem countMessage (k : Nat) (payload : Bytes) :
    Follows env sendRet createRet i one two (one.countMessage k payload) (two.countMessage k payload)
      True := by
  unfold GateServerHandler.countMessage
  have counted : Alike env sendRet createRet { one with uppkgs := one.uppkgs + 1 }
      { two with uppkgs := two.uppkgs + 1 } := alike
  have noted : Follows env sendRet createRet i one two _ _ True :=
    .then_same (.quiet counted rfl rfl) (.emit_same counted (.message k payload))
  exact noted.then_same (.quiet (noted.alike.updateStat k true) rfl rfl)

theorem onClientMessage (live : (one.vecConnections k).bState ≠ .invalid) (payload : Bytes) :
    Follows env sendRet createRet i one two (one.onClientMessage env k payload).1
        (two.onClientMessage (env.calls sendRet createRet) k payload).1
        (k = i → (one.vecConnections k).bState = .connected → rejects env [payload] →
          (one.vecConnections k).iArea = (two.vecConnections k).iArea) ∧
      (two.onClientMessage (env.calls sendRet createRet) k payload).2 =
        (one.onClientMessage env k payload).2 := by
  have parse : (env.calls sendRet createRet).parseGateCSMsg = env.parseGateCSMsg := rfl
  have kept : ∀ gate : GateServerHandler,
      ((gate.countMessage k payload).vecConnections k).slot = (gate.vecConnections k).slot := by
    intro gate
    exact congrArg (fun table : Table => table.slots k) (gate.countMessage_acts k payload).1
  have counted := alike.countMessage (i := i) k payload
  have left := kept one
  have right := kept two
  unfold GateServerHandler.onClientMessage
  dsimp only
  rw [parse]
  generalize one.countMessage k payload = noted at counted left ⊢
  generalize two.countMessage k payload = noted' at counted right ⊢
  have state : (noted.vecConnections k).bState = (one.vecConnections k).bState := congrArg Slot.state left
  have area : (noted.vecConnections k).iArea = (one.vecConnections k).iArea := congrArg Slot.area left
  have area' : (noted'.vecConnections k).iArea = (two.vecConnections k).iArea := congrArg Slot.area right
  rw [counted.alike.state k, ← state, ← area, ← area']
  rw [← state] at live
  cases switch : (noted.vecConnections k).bState with
  | invalid => exact absurd switch live
  | authing => exact ⟨counted.congr (by simp), rfl⟩
  | authorized =>
    exact ⟨(counted.then_same (counted.alike.forwardData switch payload)).congr (by simp), rfl⟩
  | connected =>
    cases parsed : env.parseGateCSMsg payload with
    | none => exact ⟨counted.congr (by simp [rejects, parsed]), rfl⟩
    | some ga =>
      obtain ⟨answered, ret⟩ := counted.alike.onAuthRequest (i := i) switch ga.authreq
      exact ⟨(counted.then_same answered).congr (by simp [rejects, parsed]), ret⟩

theorem setReceiver (receiver receiver' : Receiver) (created : receiver'.created = receiver.created)
    (used : receiver'.iUsed = receiver.iUsed)
    (length : (one.vecConnections k).bState ≠ .invalid → receiver'.iMsgLen = receiver.iMsgLen) :
    Alike env sendRet createRet (one.setReceiver k receiver) (two.setReceiver k receiver') := by
  have conns := alike.conn k
  refine alike.modify (Connection.core_congr (alike.state k) created used ?_ ?_)
  · intro live
    have view := Connection.core_view conns live
    have rest := congrArg (fun view => { view with iMsgLen := receiver.iMsgLen }) view
    exact (congrArg (fun iMsgLen => { (two.vecConnections k).view with iMsgLen }) (length live)).trans rest
  · intro known
    have area : (two.vecConnections k).iArea = (one.vecConnections k).iArea :=
      Connection.core_area conns known
    exact area

theorem completeMessage (live : (one.vecConnections k).bState ≠ .invalid) {body body' : Receiver}
    (created : body'.created = body.created) (used : body'.iUsed = body.iUsed)
    (payload : body'.bytes body'.iMsgLen = body.bytes body.iMsgLen) :
    Follows env sendRet createRet i one two (one.completeMessage env k body).1
      (two.completeMessage (env.calls sendRet createRet) k body').1
      (k = i → (one.vecConnections k).bState = .connected → rejects env [body.bytes body.iMsgLen] →
        (one.vecConnections k).iArea = (two.vecConnections k).iArea) := by
  have length : body'.iMsgLen = body.iMsgLen := by
    have lengths := congrArg List.length payload
    simpa [Receiver.bytes] using lengths
  have ready : Follows env sendRet createRet i one two _ _ True :=
    .quiet (alike.setReceiver (k := k) body body' created used fun _ => length) rfl rfl
  have own : ∀ (gate : GateServerHandler) (receiver : Receiver),
      ((gate.setReceiver k receiver).vecConnections k).slot = (gate.vecConnections k).slot := by
    intro gate receiver
    exact congrArg (fun table : Table => table.slots k) (gate.table_setReceiver k receiver)
  have left := own one body
  have right := own two body'
  unfold GateServerHandler.completeMessage
  dsimp only
  rw [payload]
  generalize one.setReceiver k body = set at ready left ⊢
  generalize two.setReceiver k body' = set' at ready right ⊢
  have state : (set.vecConnections k).bState = (one.vecConnections k).bState := congrArg Slot.state left
  have area : (set.vecConnections k).iArea = (one.vecConnections k).iArea := congrArg Slot.area left
  have area' : (set'.vecConnections k).iArea = (two.vecConnections k).iArea := congrArg Slot.area right
  rw [← state, ← area, ← area']
  obtain ⟨handled, _⟩ := ready.alike.onClientMessage (i := i) (state ▸ live) (body.bytes body.iMsgLen)
  have done := ready.then_same handled
  generalize set.onClientMessage env k _ = result at handled done ⊢
  generalize set'.onClientMessage _ k _ = result' at handled done ⊢
  have reset := done.alike.setReceiver (k := k)
    { (result.1.vecConnections k).receiver with iMsgLen := 0, iUsed := 0 }
    { (result'.1.vecConnections k).receiver with iMsgLen := 0, iUsed := 0 }
    (done.alike.created k) rfl fun _ => rfl
  exact (done.trans (.quiet reset rfl rfl)).congr ⟨fun both => both.1, fun areas => ⟨areas, trivial⟩⟩

end Alike

theorem not_removes_of_decode (nothing : (decode (one.vecConnections i).receiver.iMsgLen chunk).2 = []) :
    ¬ Removes env one i (.clientDataRecv fd chunk) := by
  rintro ⟨_, _, rejected⟩
  rw [nothing] at rejected
  simp [rejects] at rejected

theorem Handled.removes_iff {next next' : GateServerHandler}
    (found : one.table.byFD fd = some k) (handled : Handled env one.table k payload acts)
    (handled' : Handled env' two.table k payload acts') (ran : next.table = one.table.run env acts)
    (ran' : next'.table = two.table.run env' acts') (reset : (next.receivers k).iMsgLen = 0)
    (state : (next'.vecConnections k).bState = (next.vecConnections k).bState)
    (decoded : (decode (one.receivers k).iMsgLen chunk).2 = payload :: (decode 0 rest).2) :
    ((k = i → (one.vecConnections k).bState = .connected → rejects env [payload] →
        (one.vecConnections k).iArea = (two.vecConnections k).iArea) ∧
      RemovesAlike env i next next' (.clientDataRecv fd rest)) ↔
      RemovesAlike env i one two (.clientDataRecv fd chunk) := by
  have here : ∀ {j}, one.getConnectionByFD fd = some j → k = j :=
    fun same => Option.some.inj (found.symm.trans same)
  by_cases removed : Removal k acts
  · have gone : next.table.byFD fd = none := ran ▸ (handled.removal_iff_gone found).mp removed
    have ended : ¬ Removes env next i (.clientDataRecv fd rest) :=
      fun removes => absurd (gone.symm.trans removes.1) (by simp)
    obtain ⟨fresh, rejected⟩ := handled.rejects_of_removal removed []
    constructor
    · rintro ⟨now, _⟩ removes
      obtain rfl := here removes.1
      exact now rfl fresh rejected
    · refine fun areas => ⟨?_, fun removes => absurd removes ended⟩
      rintro rfl _ _
      refine areas ⟨found, fresh, ?_⟩
      rw [show (one.vecConnections k).receiver = one.receivers k from rfl, decoded]
      exact (handled.rejects_of_removal removed _).2
  · have behind := handled.rejects_behind removed
    have alive : next.table.byFD fd = some k := by
      rw [ran]
      rcases handled.outcome found with ⟨removal, _⟩ | ⟨_, alive⟩
      · exact absurd removal removed
      · exact alive
    have state_eq : (next.vecConnections k).bState = ((one.table.run env acts).slots k).state :=
      congrArg (fun table : Table => (table.slots k).state) ran
    have passes : ¬ ((one.vecConnections k).bState = .connected ∧ rejects env [payload] = true) := by
      intro both
      have empty := ((behind []).mpr both).2
      simp [rejects] at empty
    have same : Removes env next k (.clientDataRecv fd rest) ↔ Removes env one k (.clientDataRecv fd chunk) := by
      have later := behind (decode 0 rest).2
      rw [← state_eq, ← decoded, ← reset] at later
      exact ⟨fun removes => ⟨found, later.mp removes.2⟩, fun removes => ⟨alive, later.mpr removes.2⟩⟩
    have own : Removes env next k (.clientDataRecv fd rest) →
        ((next.vecConnections k).iArea = (next'.vecConnections k).iArea ↔
          (one.vecConnections k).iArea = (two.vecConnections k).iArea) := by
      intro removes
      rw [handled.area_kept ran removes.2.1, handled'.area_kept ran' (state.trans removes.2.1)]
    constructor
    · rintro ⟨_, areas⟩ removes
      obtain rfl := here removes.1
      exact (own (same.mpr removes)).mp (areas (same.mpr removes))
    · refine fun areas => ⟨fun _ fresh rejected => absurd ⟨fresh, rejected⟩ passes, ?_⟩
      intro removes
      obtain rfl : k = i := Option.some.inj (alive.symm.trans removes.1)
      exact (own removes).mpr (areas (same.mp removes))

namespace Alike

section

variable (alike : Alike env sendRet createRet one two)

include alike

theorem recvRest (found : one.table.byFD fd = some k) {body body' : Receiver}
    (created : body'.created = body.created) (used : body'.iUsed = body.iUsed)
    (payload : body'.bytes body'.iMsgLen = body.bytes body.iMsgLen)
    (decoded : (decode (one.receivers k).iMsgLen chunk).2 = body.bytes body.iMsgLen :: (decode 0 rest).2)
    (later : ∀ {done done' : GateServerHandler}, Alike env sendRet createRet done done' →
      (∀ j, done.table.byFD fd = some j → (done.receivers j).iUsed = 0) →
      Follows env sendRet createRet i done done' (GateServerHandler.recvLoop env fuel done fd rest).1
        (GateServerHandler.recvLoop (env.calls sendRet createRet) fuel done' fd rest).1
        (RemovesAlike env i done done' (.clientDataRecv fd rest))) :
    Follows env sendRet createRet i one two
      (GateServerHandler.recvRest env fuel fd (one.completeMessage env k body) rest).1
      (GateServerHandler.recvRest (env.calls sendRet createRet) fuel fd
        (two.completeMessage (env.calls sendRet createRet) k body') rest).1
      (RemovesAlike env i one two (.clientDataRecv fd chunk)) := by
  have live : one.table.Live k := (Table.byFD_some found).2.2.2
  have live' : two.table.Live k := by
    have state : (two.table.slots k).state = (one.table.slots k).state := alike.state k
    rw [Table.Live, state]
    exact live
  have first := alike.completeMessage (i := i) live created used payload
  obtain ⟨acts, handled, ran, reset, _⟩ := GateServerHandler.completeMessage_handled env one k body live
  obtain ⟨acts', handled', ran', _⟩ :=
    GateServerHandler.completeMessage_handled (env.calls sendRet createRet) two k body' live'
  rw [payload] at handled'
  generalize one.completeMessage env k body = done at first ran reset ⊢
  generalize two.completeMessage _ k body' = done' at first ran' ⊢
  have waits : (done.1.receivers k).iMsgLen = 0 := by rw [reset]
  have shows := handled.removes_iff (i := i) found handled' ran ran' waits (first.alike.state k) decoded
  unfold GateServerHandler.recvRest
  split
  · next last =>
    refine first.congr (Iff.trans ?_ shows)
    have none : ¬ Removes env done.1 i (.clientDataRecv fd rest) :=
      not_removes_of_decode (by rw [last, decode_nil])
    exact ⟨fun now => ⟨now, fun removes => absurd removes none⟩, fun both => both.1⟩
  · refine (first.trans (later first.alike ?_)).congr shows
    intro j found'
    rcases handled.outcome found with ⟨_, gone⟩ | ⟨_, alive⟩
    · rw [← ran] at gone
      cases gone.symm.trans found'
    · rw [← ran] at alive
      obtain rfl : k = j := Option.some.inj (alive.symm.trans found')
      rw [reset]

end

/-- A chunk shows what was left behind only where it ends the connection. -/
theorem recvLoop (alike : Alike env sendRet createRet one two) (fd : Int) (fuel : Nat) (chunk : Bytes)
    (enough : chunk.length < fuel) (idle : ∀ k, one.table.byFD fd = some k → (one.receivers k).iUsed = 0) :
    Follows env sendRet createRet i one two (GateServerHandler.recvLoop env fuel one fd chunk).1
      (GateServerHandler.recvLoop (env.calls sendRet createRet) fuel two fd chunk).1
      (RemovesAlike env i one two (.clientDataRecv fd chunk)) := by
  induction fuel generalizing one two chunk with
  | zero => exact absurd enough (Nat.not_lt_zero _)
  | succ fuel ih =>
    cases found : one.table.byFD fd with
    | none =>
      have found' : two.table.byFD fd = none := (alike.byFD fd).trans found
      rw [GateServerHandler.recvLoop_gone env _ one chunk enough found,
        GateServerHandler.recvLoop_gone _ _ two chunk enough found']
      refine (Follows.emit_same alike _).spared fun removes => ?_
      cases found.symm.trans removes.1
    | some k =>
      have found' : two.table.byFD fd = some k := (alike.byFD fd).trans found
      have live : (one.vecConnections k).bState ≠ .invalid := (Table.byFD_some found).2.2.2
      have unused' : (two.receivers k).iUsed = 0 :=
        (alike.used k).trans (idle k found)
      have waits : (two.receivers k).iMsgLen = (one.receivers k).iMsgLen :=
        congrArg ConnectionView.iMsgLen (alike.view live)
      have allocated : (two.receivers k).created = (one.receivers k).created :=
        alike.created k
      have counted : Alike env sendRet createRet (one.countUpload chunk.length)
          (two.countUpload chunk.length) := alike
      have first : Follows env sendRet createRet i one two _ _ True := .quiet counted rfl rfl
      have left := GateServerHandler.recvLoop_cases env fuel one chunk found (idle k found)
      have right :=
        GateServerHandler.recvLoop_cases (env.calls sendRet createRet) fuel two chunk found' unused'
      rw [waits, allocated] at right
      -- the same bytes complete the same payload, or none, in both
      rcases left with ⟨receiver, unused, created, decoded, same⟩ |
        ⟨body, rest, unused, created, behind, shorter, decoded, same⟩
      · rcases right with ⟨receiver', unused', created', decoded', same'⟩ |
          ⟨body', rest', unused', created', behind', shorter', decoded', same'⟩
        · rw [same, same']
          rw [decoded, Prod.mk.injEq] at decoded'
          have set := counted.setReceiver (k := k) receiver receiver' (created'.trans created.symm)
            (unused'.trans unused.symm) fun _ => decoded'.1.symm
          refine (first.then_same (.quiet set rfl rfl)).spared fun removes => ?_
          obtain rfl : k = i := Option.some.inj (found.symm.trans removes.1)
          exact not_removes_of_decode (congrArg Prod.snd decoded) removes
        · simp [decoded] at decoded'
      · rcases right with ⟨receiver', unused', created', decoded', same'⟩ |
          ⟨body', rest', unused', created', behind', shorter', decoded', same'⟩
        · simp [decoded] at decoded'
        · obtain rfl : rest' = rest := behind'.trans behind.symm
          rw [same, same']
          rw [decoded, Prod.mk.injEq, List.cons.injEq] at decoded'
          have fewer : rest'.length < fuel := by omega
          have done := counted.recvRest (i := i) found (created'.trans created.symm)
            (unused'.trans unused.symm) decoded'.2.1.symm (congrArg Prod.snd decoded)
            fun {done done'} alike' idle' => ih alike' rest' fewer idle'
          exact first.then_same done

variable (alike : Alike env sendRet createRet one two)

include alike

theorem countAlive (change : Int) :
    Alike env sendRet createRet (one.countAlive change) (two.countAlive change) := by
  have counted := congrArg (fun core : GateCore =>
    { core with iAlivedConnections := core.iAlivedConnections + change }) alike
  exact counted

theorem createBuffer (k : Nat) :
    Follows env sendRet createRet i one two (one.createBuffer env k).1
        (two.createBuffer (env.calls sendRet createRet) k).1 True ∧
      (two.createBuffer (env.calls sendRet createRet) k).2 = (one.createBuffer env k).2 := by
  have ret : (env.calls sendRet createRet).createRet two.creates = env.createRet one.creates :=
    alike.createRet_eq
  have created : (two.vecConnections k).receiver.created = (one.vecConnections k).receiver.created :=
    alike.created k
  have used : (two.vecConnections k).receiver.iUsed = (one.vecConnections k).receiver.iUsed :=
    alike.used k
  unfold GateServerHandler.createBuffer
  dsimp only
  rw [created, ret]
  split
  · exact ⟨.quiet alike rfl rfl, rfl⟩
  · refine ⟨.quiet (alike.creates.setReceiver _ _ rfl used fun live => ?_) rfl rfl, rfl⟩
    exact congrArg ConnectionView.iMsgLen (alike.view live)

theorem occupy (k : Nat) (client : TcpSocket) :
    Follows env sendRet createRet i one two (one.occupy k client) (two.occupy k client) True := by
  have created : (two.vecConnections k).receiver.created = (one.vecConnections k).receiver.created :=
    alike.created k
  have taken : Alike env sendRet createRet
      (one.modify k fun conn => { conn.init with bState := .connected, cliSocket := client })
      (two.modify k fun conn => { conn.init with bState := .connected, cliSocket := client }) := by
    refine alike.modify (Connection.core_congr rfl created rfl (fun _ => rfl) ?_)
    exact fun known => by simp at known
  exact .then_same (.quiet taken rfl rfl) (.emit_same taken (.accepted k client.fd))

end Alike

namespace GateServerHandler

theorem core_addIdleTimer (env : Env) (gate : GateServerHandler) (k : Nat) :
    (gate.addIdleTimer k).core env = gate.core env := by
  unfold addIdleTimer
  dsimp only
  rw [core_modify_same _ _ _ _ rfl]
  rfl

private theorem core_register (env : Env) (gate : GateServerHandler) (k : Nat) (client : TcpSocket) :
    (gate.register k client).core env =
      { gate.core env with sockets := Function.update (gate.core env).sockets client.fd k } := by
  have mapped : ((gate.modify k fun conn => { conn with iIdx := k }).mapSocket client.fd k).core env =
      { gate.core env with sockets := Function.update (gate.core env).sockets client.fd k } := by
    unfold mapSocket
    rw [core_mapped, core_modify_same _ _ _ _ rfl]
    rfl
  unfold register
  dsimp only
  split
  · rw [core_addIdleTimer, mapped]
  · exact mapped

private theorem out_register (gate : GateServerHandler) (k : Nat) (client : TcpSocket) :
    (gate.register k client).out = gate.out := by
  unfold register
  dsimp only
  split <;> rfl

end GateServerHandler

theorem live_of_byIdx (found : one.getConnectionByIdx idx = some k) :
    (one.vecConnections k).bState ≠ .invalid := by
  rw [GateServerHandler.getConnectionByIdx_eq] at found
  obtain ⟨rfl, _, _, live⟩ := Table.byIdx_some found
  exact live

theorem live_of_byFD (found : one.getConnectionByFD fd = some k) :
    (one.vecConnections k).bState ≠ .invalid := by
  rw [GateServerHandler.getConnectionByFD_eq] at found
  exact (Table.byFD_some found).2.2.2

namespace Alike

variable (alike : Alike env sendRet createRet one two)

include alike

private theorem register (k : Nat) (client : TcpSocket) :
    Follows env sendRet createRet i one two (one.register k client) (two.register k client) True := by
  refine .quiet ?_ (one.out_register k client) (two.out_register k client)
  rw [Alike, GateServerHandler.core_register, GateServerHandler.core_register,
    alike.core_eq]

theorem onNewConnection (client : TcpSocket) (returned : one.onNewConnection env client = some result) :
    ∃ result', two.onNewConnection (env.calls sendRet createRet) client = some result' ∧
      Follows env sendRet createRet i one two result.1 result'.1 True := by
  unfold GateServerHandler.onNewConnection at returned ⊢
  dsimp only at returned ⊢
  obtain ⟨k, free, rfl⟩ := Option.map_eq_some_iff.mp returned
  have counted := alike.countAlive 1
  rw [counted.nextIdx, free]
  refine ⟨_, rfl, ?_⟩
  dsimp only
  obtain ⟨buffer, failed⟩ := counted.createBuffer (i := i) k
  have made : Follows env sendRet createRet i one two _ _ True := .then_same (.quiet counted rfl rfl) buffer
  clear buffer
  generalize (one.countAlive 1).createBuffer env k = created at made failed ⊢
  generalize (two.countAlive 1).createBuffer _ k = created' at made failed ⊢
  have closing : created'.1.closing = created.1.closing := congrArg GateCore.closing made.alike
  rw [failed, closing]
  split
  · exact made.then_same (.emit_same made.alike _)
  · have taken := made.then_same (made.alike.occupy k client)
    obtain ⟨told, ret⟩ := taken.alike.sendToClient (i := i) k { cmd := gateNeedAuth }
    have asked := taken.then_same told
    unfold GateServerHandler.notifyNeedAuth
    generalize GateServerHandler.sendToClient env _ k _ = notified at asked ret ⊢
    generalize GateServerHandler.sendToClient _ _ k _ = notified' at asked ret ⊢
    rw [ret]
    split
    · exact asked.then_same (asked.alike.closeConnection k)
    · exact asked.then_same (asked.alike.register k client)

theorem removes_found (ev : Event) (live : (one.vecConnections k).bState ≠ .invalid) (reason : Int)
    (removes : Removes env one i ev ↔ k = i) :
    Follows env sendRet createRet i one two (one.removeConnection env k reason)
      (two.removeConnection (env.calls sendRet createRet) k reason)
      (RemovesAlike env i one two ev) := by
  refine (alike.removeConnection live reason).congr ?_
  rw [RemovesAlike, removes]
  constructor
  · rintro areas rfl
    exact areas rfl
  · rintro areas rfl
    exact areas rfl

theorem onConnectionClosed (fd : Int) :
    Follows env sendRet createRet i one two (one.onConnectionClosed env fd).1
      (two.onConnectionClosed (env.calls sendRet createRet) fd).1
      (RemovesAlike env i one two (.connectionClosed fd)) := by
  have counted := alike.countAlive (-1)
  have first : Follows env sendRet createRet i one two _ _ True := .quiet counted rfl rfl
  unfold GateServerHandler.onConnectionClosed
  dsimp only
  rw [counted.byFD fd]
  cases found : (one.countAlive (-1)).getConnectionByFD fd with
  | none =>
    refine first.spared fun removes => ?_
    cases found.symm.trans removes
  | some k =>
    have live := live_of_byFD found
    refine first.then_same (counted.removes_found (.connectionClosed fd) live connectionCloseByClient ?_)
    rw [Removes, found, Option.some.injEq]

theorem checkConnxFree (idx : Nat) :
    Follows env sendRet createRet i one two (one.checkConnxFree env idx)
      (two.checkConnxFree (env.calls sendRet createRet) idx)
      (RemovesAlike env i one two (.checkConnxFree idx)) := by
  have quiet : Follows env sendRet createRet i one two one two True := .quiet alike rfl rfl
  have period : (env.calls sendRet createRet).iIdleCheckPeriod = env.iIdleCheckPeriod := rfl
  have time : two.curTime = one.curTime := congrArg GateCore.curTime alike
  unfold GateServerHandler.checkConnxFree
  rw [alike.byIdx idx]
  cases found : one.getConnectionByIdx idx with
  | none =>
    refine quiet.spared fun removes => ?_
    cases found.symm.trans removes.1
  | some k =>
    have live := live_of_byIdx found
    have view := alike.view live
    have acted : (two.vecConnections k).tLastActTime = (one.vecConnections k).tLastActTime :=
      congrArg ConnectionView.tLastActTime view
    have checked : (two.vecConnections k).tLastCheckTime = (one.vecConnections k).tLastCheckTime :=
      congrArg ConnectionView.tLastCheckTime view
    dsimp only
    rw [period, time, acted, checked]
    split
    · next expired =>
      refine alike.removes_found (.checkConnxFree idx) live connectionCloseByDefault ⟨?_, ?_⟩
      · exact fun removes => Option.some.inj (found.symm.trans removes.1)
      · rintro rfl
        exact ⟨found, expired⟩
    · next recent =>
      have kept : ¬ Removes env one i (.checkConnxFree idx) := by
        rintro ⟨same, expired⟩
        cases found.symm.trans same
        exact recent expired
      split
      · have armed : Alike env sendRet createRet (one.addIdleTimer k) (two.addIdleTimer k) := by
          rw [Alike, GateServerHandler.core_addIdleTimer, GateServerHandler.core_addIdleTimer]
          exact alike
        have noted : Alike env sendRet createRet
            ((one.addIdleTimer k).modify k fun conn => { conn with tLastCheckTime := one.curTime })
            ((two.addIdleTimer k).modify k fun conn => { conn with tLastCheckTime := one.curTime }) := by
          apply armed.modify
          exact Connection.core_change (armed.conn k) (fun conn => { conn with tLastCheckTime := one.curTime })
            (fun view => { view with tLastCheckTime := one.curTime })
            (fun _ => ⟨rfl, rfl⟩) (fun _ => rfl) (fun _ => rfl)
        have rearmed : Follows env sendRet createRet i one two _ _ True := .quiet noted rfl rfl
        exact rearmed.spared kept
      · exact quiet.spared kept

theorem dispatchMessage (ggc : GateSSMsg) (csmsg : Bytes) :
    Follows env sendRet createRet i one two (one.dispatchMessage env ggc csmsg).1
      (two.dispatchMessage (env.calls sendRet createRet) ggc csmsg).1
      (RemovesAlike env i one two (.agentMessage ggc csmsg)) := by
  have quiet : Follows env sendRet createRet i one two one two True := .quiet alike rfl rfl
  unfold GateServerHandler.dispatchMessage
  rw [alike.byIdx ggc.idx]
  cases found : one.getConnectionByIdx ggc.idx with
  | none =>
    refine quiet.spared fun removes => ?_
    cases found.symm.trans removes.1
  | some k =>
    cases event : ggc.event with
    | close =>
      refine alike.removes_found (.agentMessage ggc csmsg) (live_of_byIdx found) _ ⟨?_, ?_⟩
      · exact fun removes => Option.some.inj (found.symm.trans removes.1)
      · rintro rfl
        exact ⟨found, event⟩
    | data =>
      have counted : Alike env sendRet createRet
          { one with downpkgs := one.downpkgs + 1, rsppkgs := one.rsppkgs + 1 }
          { two with downpkgs := two.downpkgs + 1, rsppkgs := two.rsppkgs + 1 } := alike
      have sent : Follows env sendRet createRet i one two _ _ True :=
        .then_same (.quiet counted rfl rfl) (counted.sendFrameToClient k csmsg).1
      refine sent.spared fun removes => ?_
      cases event.symm.trans removes.2
    | connected =>
      refine quiet.spared fun removes => ?_
      cases event.symm.trans removes.2

theorem closeNext (reason : Int) :
    Follows env sendRet createRet i one two (one.closeNext env reason)
      (two.closeNext (env.calls sendRet createRet) reason)
      (one.getConnectionByIdx i = some i ∧ i = one.dwLastClosingIdx →
        (one.vecConnections i).iArea = (two.vecConnections i).iArea) := by
  have progress : two.dwLastClosingIdx = one.dwLastClosingIdx := congrArg GateCore.dwLastClosingIdx alike
  unfold GateServerHandler.closeNext
  rw [progress, alike.byIdx]
  cases found : one.getConnectionByIdx one.dwLastClosingIdx with
  | none =>
    refine (Follows.quiet alike rfl rfl).spared ?_
    rintro ⟨live, rfl⟩
    cases found.symm.trans live
  | some k =>
    obtain rfl : k = one.dwLastClosingIdx := (@Table.byIdx_some one.table _ _ found).1
    refine (alike.removeConnection (live_of_byIdx found) reason).congr ⟨?_, ?_⟩
    · rintro areas ⟨_, rfl⟩
      exact areas rfl
    · rintro areas rfl
      exact areas ⟨found, rfl⟩

end Alike

private theorem closeNext_area (env : Env) (gate : GateServerHandler) (reason : Int) (j : Nat) :
    ((gate.closeNext env reason).vecConnections j).iArea = (gate.vecConnections j).iArea := by
  unfold GateServerHandler.closeNext
  cases found : gate.getConnectionByIdx gate.dwLastClosingIdx with
  | none => rfl
  | some k =>
    have removed := GateServerHandler.table_removeConnection env gate k reason (live_of_byIdx found)
    have slot : ((gate.removeConnection env k reason).vecConnections j).slot =
        (gate.table.remove env k reason).slots j := congrArg (fun table : Table => table.slots j) removed
    refine (congrArg Slot.area slot).trans ?_
    by_cases own : j = k
    · subst own
      simp [GateServerHandler.table, Connection.slot]
    · simp [GateServerHandler.table, Connection.slot, own]

namespace Alike

theorem closingLoop (alike : Alike env sendRet createRet one two) (reason : Int) (count : Nat) :
    Follows env sendRet createRet i one two (GateServerHandler.closingLoop env reason count one)
      (GateServerHandler.closingLoop (env.calls sendRet createRet) reason count two)
      (one.getConnectionByIdx i = some i ∧ one.dwLastClosingIdx ≤ i ∧ i < one.dwLastClosingIdx + count →
        (one.vecConnections i).iArea = (two.vecConnections i).iArea) := by
  induction count generalizing one two with
  | zero =>
    refine (Follows.quiet alike rfl rfl).spared ?_
    rintro ⟨_, above, below⟩
    omega
  | succ count ih =>
    have progress : two.dwLastClosingIdx = one.dwLastClosingIdx := congrArg GateCore.dwLastClosingIdx alike
    have size : two.size = one.size := congrArg GateCore.size alike
    rw [GateServerHandler.closingLoop, GateServerHandler.closingLoop, progress, size]
    split
    · have first := alike.closeNext (i := i) reason
      have advanced : Alike env sendRet createRet (one.closeNext env reason).advanceClosing
          (two.closeNext (env.calls sendRet createRet) reason).advanceClosing := by
        have moved := congrArg (fun core : GateCore =>
          { core with dwLastClosingIdx := core.dwLastClosingIdx + 1 }) first.alike
        exact moved
      obtain ⟨_, _, _, _, resolves, _, kept⟩ := GateServerHandler.closeNext_acts env one reason
      have next : (one.closeNext env reason).advanceClosing.dwLastClosingIdx = one.dwLastClosingIdx + 1 :=
        congrArg (· + 1) kept
      have found : (one.closeNext env reason).advanceClosing.getConnectionByIdx i =
          if i = one.dwLastClosingIdx then none else one.getConnectionByIdx i := resolves i
      have area : ((one.closeNext env reason).advanceClosing.vecConnections i).iArea =
          (one.vecConnections i).iArea := closeNext_area env one reason i
      have area' : ((two.closeNext (env.calls sendRet createRet) reason).advanceClosing.vecConnections i).iArea =
          (two.vecConnections i).iArea := closeNext_area _ two reason i
      have rest := ih advanced
      rw [next, found, area, area'] at rest
      refine (first.trans (.then_same (.quiet advanced rfl rfl) rest)).congr ?_
      by_cases here : i = one.dwLastClosingIdx
      · simp [here]
      · simp only [here, and_false, false_implies, if_false, true_and]
        constructor
        · rintro areas ⟨live, above, below⟩
          exact areas ⟨live, by omega, by omega⟩
        · rintro areas ⟨live, above, below⟩
          exact areas ⟨live, by omega, by omega⟩
    · next past =>
      refine (Follows.quiet alike rfl rfl).spared ?_
      rintro ⟨live, above, _⟩
      have inside : i < one.size := (@Table.byIdx_some one.table _ _ live).2.2.1
      omega

theorem onClosing (alike : Alike env sendRet createRet one two) (reason : Int) (notifinum : Nat) :
    Follows env sendRet createRet i one two (one.onClosing env reason notifinum).1
      (two.onClosing (env.calls sendRet createRet) reason notifinum).1
      (RemovesAlike env i one two (.closing reason notifinum)) := by
  have closing : two.closing = one.closing := congrArg GateCore.closing alike
  have begun : Follows env sendRet createRet i one two (one.beginClosing reason) (two.beginClosing reason)
      True := by
    unfold GateServerHandler.beginClosing
    rw [closing]
    split
    · have set := congrArg (fun core : GateCore => { core with closing := reason }) alike
      exact .quiet set rfl rfl
    · exact .quiet alike rfl rfl
  have areas : ∀ gate : GateServerHandler,
      ((gate.beginClosing reason).vecConnections i).iArea = (gate.vecConnections i).iArea :=
    fun gate => congrArg (fun table : Table => (table.slots i).area) (gate.beginClosing_frame reason).1
  have found : (one.beginClosing reason).getConnectionByIdx i = one.getConnectionByIdx i :=
    congrArg (fun table : Table => table.byIdx i) (one.beginClosing_frame reason).1
  have loop := begun.alike.closingLoop (i := i) reason notifinum
  rw [found, (one.beginClosing_frame reason).2.2, areas, areas] at loop
  rw [GateServerHandler.onClosing_fst, GateServerHandler.onClosing_fst]
  exact begun.then_same loop

end Alike

/-- A call that removes slot `i` before it has authenticated finds the same area in both gates. -/
def SameArea (env : Env) (i : Nat) (one two : GateServerHandler) (ev : Event) : Prop :=
  Removes env one i ev → (one.vecConnections i).bState = .connected →
    (one.vecConnections i).iArea = (two.vecConnections i).iArea

theorem Removes.live (removes : Removes env one i ev) : (one.vecConnections i).bState ≠ .invalid := by
  cases ev with
  | newConnection _ => exact removes.elim
  | clientDataRecv _ _ => exact live_of_byFD removes.1
  | connectionClosed _ => exact live_of_byFD removes
  | checkConnxFree _ => exact live_of_byIdx removes.1
  | agentMessage _ _ => exact live_of_byIdx removes.1
  | closing _ _ => exact live_of_byIdx removes.1
  | clock _ _ _ => exact removes.elim

namespace Alike

variable (alike : Alike env sendRet createRet one two)

include alike

private theorem sameArea_iff (ev : Event) : SameArea env i one two ev ↔ RemovesAlike env i one two ev := by
  refine ⟨fun same removes => ?_, fun same removes _ => same removes⟩
  cases state : (one.vecConnections i).bState with
  | invalid => exact absurd state removes.live
  | connected => exact same removes state
  | authing => exact (alike.area (.inl state)).symm
  | authorized => exact (alike.area (.inr state)).symm

/-- Gates that are alike take the same calls, and stay alike. -/
theorem step (idle : one.Idle) (stepped : step env one ev = some next) :
    ∃ next', Gate.step (env.calls sendRet createRet) two ev = some next' ∧
      Follows env sendRet createRet i one two next next' (SameArea env i one two ev) := by
  have kept := (alike.sameArea_iff (i := i) ev).symm
  cases ev with
  | newConnection client =>
    obtain ⟨result, returned, rfl⟩ := Option.map_eq_some_iff.mp stepped
    obtain ⟨result', returned', follows⟩ := alike.onNewConnection (i := i) client returned
    refine ⟨result'.1, by rw [Gate.step, returned']; rfl, follows.spared ?_⟩
    exact fun removes => removes.elim
  | clientDataRecv fd chunk =>
    cases stepped
    exact ⟨_, rfl, (alike.recvLoop fd _ chunk (by omega) fun k _ => idle k).congr kept⟩
  | connectionClosed fd =>
    cases stepped
    exact ⟨_, rfl, (alike.onConnectionClosed fd).congr kept⟩
  | checkConnxFree idx =>
    cases stepped
    exact ⟨_, rfl, (alike.checkConnxFree idx).congr kept⟩
  | agentMessage ggc csmsg =>
    cases stepped
    exact ⟨_, rfl, (alike.dispatchMessage ggc csmsg).congr kept⟩
  | closing reason notifinum =>
    cases stepped
    exact ⟨_, rfl, (alike.onClosing reason notifinum).congr kept⟩
  | clock curTime timeStampNow curMsTime =>
    cases stepped
    have set := congrArg (fun core : GateCore => { core with curTime, timeStampNow }) alike
    refine ⟨_, rfl, Follows.spared (.quiet ?_ rfl rfl) fun removes => removes.elim⟩
    exact set

end Alike

end Playground.Gate
