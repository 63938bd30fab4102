import Playground.Zone.Sessions

/-! `CreateSession`: which connection the session of a role is bound to afterwards, and whom the
kick of an older session is told to. -/

namespace Playground.Zone

open Framing Gate Transition ZoneAgentMgr

variable {env : ZoneEnv} {mgr middle next : ZoneAgentMgr} {zone : UInt32} {uid : UInt64} {s : Nat}

def responses (effects : List ZoneEffect) : List (Int × GateSSMsg) :=
  effects.filterMap fun
    | .respond _ gate msg _ => some (gate, msg)
    | _ => none

def ZoneAgentMgr.Responds (mgr next : ZoneAgentMgr) (sent : List (Int × GateSSMsg)) : Prop :=
  ∃ effects, next.log = effects ++ mgr.log ∧ responses effects = sent

theorem ZoneAgentMgr.Responds.refl (mgr : ZoneAgentMgr) : mgr.Responds mgr [] := ⟨[], rfl, rfl⟩

theorem ZoneAgentMgr.Responds.trans
    (early : mgr.Responds middle first) (late : middle.Responds next second) :
    mgr.Responds next (second ++ first) := by
  obtain ⟨before, grown, sentFirst⟩ := early
  obtain ⟨after, grownAgain, sentSecond⟩ := late
  refine ⟨after ++ before, by rw [grownAgain, grown, List.append_assoc], ?_⟩
  rw [responses, List.filterMap_append, ← sentFirst, ← sentSecond]
  rfl

theorem ZoneAgentMgr.Responds.emit (early : mgr.Responds middle sent)
    (effect : ZoneEffect) : mgr.Responds (middle.emit effect) (responses [effect] ++ sent) :=
  early.trans ⟨[effect], rfl, rfl⟩

theorem request_responds (env : ZoneEnv) (mgr : ZoneAgentMgr) (kind : RequestKind) (s : Nat) :
    mgr.Responds (mgr.request env kind s).1 [] := by
  unfold request
  dsimp only
  split
  · exact ⟨[_], rfl, rfl⟩
  · exact ⟨[], rfl, rfl⟩

private theorem enterPlaying_responds (mgr : ZoneAgentMgr) (s : Nat) : mgr.Responds (mgr.enterPlaying s) [] :=
  ⟨[_, _, _], rfl, rfl⟩

theorem login_responds (env : ZoneEnv) (mgr : ZoneAgentMgr) (s : Nat) :
    mgr.Responds (mgr.login env s) [] := by
  have begun : mgr.Responds ((mgr.emit (.loginBegin s (mgr.sessions s).uid)).setState s .loading) [] :=
    ⟨[_, _], rfl, rfl⟩
  unfold ZoneAgentMgr.login loginCoroutine
  dsimp only
  split
  · exact begun.trans (enterPlaying_responds _ s)
  · split
    · exact begun.trans (request_responds env _ .getRole s)
    · exact (begun.trans (request_responds env _ .getRole s)).emit _

theorem logout_responds (env : ZoneEnv) (mgr : ZoneAgentMgr) (s : Nat) :
    mgr.Responds (mgr.logout env s) [] := by
  unfold logout
  split
  · have stateSet : mgr.Responds (mgr.setState s .offline) [] := ⟨[_], rfl, rfl⟩
    exact stateSet.trans (request_responds env _ (.updateRole 3) s)
  · exact .refl mgr

private theorem detachPlayer_responds (mgr : ZoneAgentMgr) (s : Nat) : mgr.Responds (mgr.detachPlayer s) [] := by
  unfold detachPlayer
  split
  · exact ⟨[_], rfl, rfl⟩
  · exact .refl mgr

private theorem responseClient_responds (env : ZoneEnv) (mgr : ZoneAgentMgr) (s : Nat) (event : EventType)
    (param : Int) (data : Option Bytes) :
    mgr.Responds (mgr.responseClient env s event param data).1
      [((mgr.sessions s).gate, responseMessage (mgr.sessions s) event param)] := by
  unfold responseClient sendToAgent
  dsimp only
  split
  · exact ⟨[_], rfl, rfl⟩
  · split
    · exact ⟨[_], rfl, rfl⟩
    · exact ⟨[_], rfl, rfl⟩

theorem response_congr {before after : Session} (bound : after.binding = before.binding) :
    (after.gate, responseMessage after .close param) = (before.gate, responseMessage before .close param) := by
  simp only [Session.binding, Binding.mk.injEq] at bound
  simp [responseMessage, bound]

/-- What a kick tells the gate of a session; a session that is being kicked is not told again. -/
def Session.farewell (sson : Session) : List (Int × GateSSMsg) :=
  if sson.state = .kicking then [] else [(sson.gate, responseMessage sson .close connectionCloseByDefault)]

theorem Session.farewell_addressed {sson : Session} {one : Int × GateSSMsg} (told : one ∈ sson.farewell) :
    one.1 = sson.gate ∧ one.2.idx = sson.idx ∧ one.2.event = .close := by
  unfold Session.farewell at told
  split at told
  · cases told
  · obtain rfl := List.mem_singleton.mp told
    exact ⟨rfl, rfl, rfl⟩

theorem kick_responds (kicked : mgr.kick env s reason = some (next, ret)) :
    mgr.Responds next (mgr.sessions s).farewell := by
  unfold kick at kicked
  split at kicked
  next kicking =>
    cases kicked
    simpa [Session.farewell, kicking] using Responds.refl mgr
  next running =>
    obtain ⟨target, _, same⟩ := Option.map_eq_some_iff.mp kicked
    cases same
    let detached := (mgr.emit (.kick s reason)).detachPlayer s
    let loggedOut := detached.logout env target
    have quiet : mgr.Responds loggedOut [] :=
      (((Responds.refl mgr).emit (.kick s reason)).trans (detachPlayer_responds _ s)).trans
        (logout_responds env detached target)
    have bound : (loggedOut.sessions s).binding = (mgr.sessions s).binding := by
      have detaches : Serves (fun _ => True) s mgr detached :=
        (emit_serves mgr s trivial).trans (detachPlayer_serves _ s trivial)
      exact (detaches.trans (logout_serves detached s env target trivial trivial)).binding
    have told := quiet.trans (responseClient_responds env loggedOut s .close connectionCloseByDefault none)
    rw [response_congr bound] at told
    rw [Session.farewell, if_neg running]
    exact told.emit (.setState s .kicking)

theorem kick_total (sound : mgr.Sound) (found : mgr.mpSessions zone uid = some s) (env : ZoneEnv)
    (reason : KickReason) : ∃ after ret, mgr.kick env s reason = some (after, ret) := by
  obtain ⟨_, inZone, ofRole⟩ := sound.mapped found
  have looked : mgr.getSession (mgr.sessions s).zone (mgr.sessions s).uid = some s := by
    simp [getSession, inZone, ofRole, found]
  unfold kick
  split
  · exact ⟨_, _, rfl⟩
  · exact ⟨_, _, by rw [looked, Option.map_some]⟩

/-- The session is bound to the connection that asked, and one it replaces is told on its old one. -/
structure Binds (mgr : ZoneAgentMgr) (zone : UInt32) (uid : UInt64) (gateid : Int) (cnnx : GateSSMsg)
    (next : ZoneAgentMgr) : Prop where
  session : ∃ s, next.findSession zone uid = some s ∧ (next.sessions s).gate = gateid ∧
    (next.sessions s).idx = cnnx.idx ∧ (next.sessions s).accountid = cnnx.uid
  notified : ∀ s, mgr.findSession zone uid = some s → ∃ sent, mgr.Responds next sent ∧
    (∀ one ∈ sent, one.1 = (mgr.sessions s).gate ∧ one.2.idx = (mgr.sessions s).idx ∧ one.2.event = .close) ∧
    ((mgr.sessions s).state ≠ .kicking → sent.length = 1)

theorem binds_session_iff {cnnx : GateSSMsg} :
    (∃ s, next.findSession zone uid = some s ∧ (next.sessions s).gate = gateid ∧
      (next.sessions s).idx = cnnx.idx ∧ (next.sessions s).accountid = cnnx.uid) ↔
    next.peers zone uid = some { gate := gateid, idx := cnnx.idx, accountid := cnnx.uid } := by
  simp [peers, findSession, Session.binding, Binding.peer]

private theorem create_binds (sound : mgr.Sound) (absent : mgr.findSession zone uid = none) (env : ZoneEnv)
    (gateid : Int) (cnnx : GateSSMsg) :
    Binds mgr zone uid gateid cnnx ((mgr.newSession zone uid gateid cnnx).login env mgr.created) where
  session := by
    rw [binds_session_iff, login_peers, newSession_peers sound]
    simp [Peers.set]
  notified s found := by simp [absent] at found

theorem relogin_peers (sound : mgr.Sound) (found : mgr.findSession zone uid = some s)
    (kicked : mgr.kick env s .relogin = some (after, ret)) (cnnx : GateSSMsg) :
    ((after.modify s fun sson => sson.init uid cnnx).login env s).peers zone uid =
      some { gate := (mgr.sessions s).gate, idx := cnnx.idx, accountid := cnnx.uid } := by
  obtain ⟨target, serves, _⟩ := kick_serves env kicked
  have mapped : after.mpSessions zone uid = some s := serves.maps ▸ found
  have gate : (after.sessions s).gate = (mgr.sessions s).gate := congrArg Binding.gate serves.binding
  rw [login_peers, init_peers (sound.kick kicked) mapped, gate]
  simp [Peers.set]

private theorem relogin_notified (kicked : mgr.kick env s .relogin = some (after, ret)) :
    mgr.Responds ((after.modify s fun sson => sson.init uid cnnx).login env s) (mgr.sessions s).farewell := by
  have told := kick_responds kicked
  have started : mgr.Responds (after.modify s fun sson => sson.init uid cnnx) (mgr.sessions s).farewell :=
    told
  exact started.trans (login_responds env _ s)

/-- The session of a role is bound to the connection that asked exactly when there is none yet,
or the one there is came through the same gate: `Init` sets every field of the connection but the
gate, which only the constructor does. -/
theorem createSession_binds_iff (sound : mgr.Sound) (env : ZoneEnv) (zone : UInt32) (uid : UInt64)
    (gateid : Int) (cnnx : GateSSMsg) :
    ∃ next ret, mgr.createSession env zone uid gateid cnnx = some (next, ret) ∧
      (Binds mgr zone uid gateid cnnx next ↔
        ∀ s, mgr.findSession zone uid = some s → (mgr.sessions s).gate = gateid) := by
  cases found : mgr.findSession zone uid with
  | none =>
    refine ⟨_, _, by rw [createSession, found], ?_⟩
    exact ⟨fun _ s same => (nomatch same), fun _ => create_binds sound found env gateid cnnx⟩
  | some s =>
    obtain ⟨after, ret, kicked⟩ := kick_total sound found env .relogin
    have bound := relogin_peers sound found kicked cnnx
    refine ⟨_, _, by rw [createSession, found]; exact congrArg (Option.map _) kicked, ?_⟩
    constructor
    · intro binds t same
      cases same
      have asked := binds_session_iff.mp binds.session
      exact congrArg Peer.gate (Option.some.inj (bound.symm.trans asked))
    · intro sameGate
      refine ⟨binds_session_iff.mpr (sameGate s rfl ▸ bound), fun t same => ?_⟩
      cases found.symm.trans same
      refine ⟨_, relogin_notified kicked, fun one told => Session.farewell_addressed told, fun running => ?_⟩
      simp [Session.farewell, running]

theorem createSession_binds_same_gate :
    ∃ next ret, connected.createSession soleZone 1 (getRoleID 7 1) 3 (joining 7) = some (next, ret) ∧
      Binds connected 1 (getRoleID 7 1) 3 (joining 7) next := by
  have run : ZoneRun soleZone [connects 1] connected := steps_of_runAll (Option.some_get _).symm
  obtain ⟨next, ret, made, binds⟩ :=
    createSession_binds_iff run.sound soleZone 1 (getRoleID 7 1) 3 (joining 7)
  refine ⟨next, ret, made, binds.mpr fun s found => ?_⟩
  obtain rfl : 0 = s := Option.some.inj ((by decide : _ = some 0).symm.trans found)
  decide

/-- The account has connected through gate 3 and connects again through gate 4: its session
stays bound to gate 3. -/
theorem relogin_keeps_gate :
    ZoneRun soleZone [connects 1] connected ∧
      ∃ next ret, connected.createSession soleZone 1 (getRoleID 7 1) 4 (joining 7) = some (next, ret) ∧
        next.peers 1 (getRoleID 7 1) = some { gate := 3, idx := 2, accountid := 7 } ∧
        ¬ Binds connected 1 (getRoleID 7 1) 4 (joining 7) next := by
  have run : ZoneRun soleZone [connects 1] connected := steps_of_runAll (Option.some_get _).symm
  have found : connected.findSession 1 (getRoleID 7 1) = some 0 := by decide
  obtain ⟨after, ret, kicked⟩ := kick_total run.sound found soleZone .relogin
  have bound := relogin_peers run.sound found kicked (joining 7)
  refine ⟨run, _, _, by rw [createSession, found]; exact congrArg (Option.map _) kicked, bound, ?_⟩
  intro binds
  have asked := binds_session_iff.mp binds.session
  have sameGate := congrArg Peer.gate (Option.some.inj (bound.symm.trans asked))
  revert sameGate
  decide

end Playground.Zone
