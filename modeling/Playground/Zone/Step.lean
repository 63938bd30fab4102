import Playground.Transition.Steps
import Playground.Zone.Serves

/-! What one event makes of the agent, and what every run keeps of the session maps and the
outstanding requests. -/

namespace Playground.Zone

open Framing Gate Transition ZoneAgentMgr

def roleOf (ggc : GateSSMsg) : UInt64 := getRoleID ggc.uid ggc.area

/-- A message of no zone of the agent, a close of another connection, or data without a session. -/
def Ignored (env : ZoneEnv) (mgr : ZoneAgentMgr) (src : Int) (ggc : GateSSMsg) (data : Bytes) : Prop :=
  env.areas ggc.area = false ∨
  ggc.event = .close ∧ (∀ s, mgr.mpSessions ggc.area (roleOf ggc) = some s →
    (mgr.sessions s).idx = ggc.idx → (mgr.sessions s).gate ≠ src) ∨
  ggc.event = .data ∧ (env.parseCSMsg data = none ∨ mgr.mpSessions ggc.area (roleOf ggc) = none)

def ZoneAgentMgr.answered (mgr : ZoneAgentMgr) (req : Request) (ret : Int) : ZoneAgentMgr :=
  (mgr.answer req).keepObject req ret

inductive Takes (env : ZoneEnv) (mgr : ZoneAgentMgr) : ZoneEvent → ZoneAgentMgr → Prop where
  | ignore (why : Ignored env mgr src ggc data) : Takes env mgr (.gateMessage src ggc data) mgr
  | dispatch (known : env.areas ggc.area) (event : ggc.event = .data)
      (parsed : env.parseCSMsg data = some csmsg) (found : mgr.mpSessions ggc.area (roleOf ggc) = some s) :
      Takes env mgr (.gateMessage src ggc data) ((mgr.emit (.dispatch s src ggc)).dispatch env s csmsg).1
  | create (known : env.areas ggc.area) (event : ggc.event = .connected)
      (absent : mgr.mpSessions ggc.area (roleOf ggc) = none) :
      Takes env mgr (.gateMessage src ggc data)
        ((mgr.newSession ggc.area (roleOf ggc) src ggc).login env mgr.created)
  | relogin (known : env.areas ggc.area) (event : ggc.event = .connected)
      (found : mgr.mpSessions ggc.area (roleOf ggc) = some s)
      (kicked : mgr.kick env s .relogin = some (after, ret)) :
      Takes env mgr (.gateMessage src ggc data)
        ((after.modify s fun sson => sson.init (roleOf ggc) ggc).login env s)
  | stop (known : env.areas ggc.area) (event : ggc.event = .close)
      (found : mgr.mpSessions ggc.area (roleOf ggc) = some s)
      (idx : (mgr.sessions s).idx = ggc.idx) (gate : (mgr.sessions s).gate = src)
      (kicked : mgr.kick env s .closeClient = some (after, ret)) :
      Takes env mgr (.gateMessage src ggc data) (after.deleteSession ggc.area (roleOf ggc) s)
  | update (pending : req ∈ mgr.requests) (kind : req.kind = .updateRole retry) :
      Takes env mgr (.response req ret) ((mgr.answered req ret).logoutUpdated env req.session retry ret)
  | resume (pending : req ∈ mgr.requests) (isLogin : req.kind.isLogin)
      (resumed : (mgr.answered req ret).resume env req ret = some next) :
      Takes env mgr (.response req ret) next

variable {env : ZoneEnv} {mgr next : ZoneAgentMgr}

theorem takes_connected (known : env.areas ggc.area) (event : ggc.event = .connected)
    (made : mgr.createSession env ggc.area (roleOf ggc) src ggc = some (next, ret)) :
    Takes env mgr (.gateMessage src ggc data) next := by
  unfold ZoneAgentMgr.createSession ZoneAgentMgr.findSession at made
  split at made
  next found =>
    obtain ⟨⟨after, code⟩, kicked, same⟩ := Option.map_eq_some_iff.mp made
    cases same
    exact .relogin known event found kicked
  next absent =>
    cases made
    exact .create known event absent

private theorem takes_close (known : env.areas ggc.area) (event : ggc.event = .close)
    (stopped : mgr.stopSession env ggc.area src ggc.idx (roleOf ggc) = some (next, ret)) :
    Takes env mgr (.gateMessage src ggc data) next := by
  unfold ZoneAgentMgr.stopSession ZoneAgentMgr.findSession at stopped
  split at stopped
  next absent =>
    cases stopped
    exact .ignore (.inr (.inl ⟨event, by simp [absent]⟩))
  next s found =>
    split at stopped
    next differs =>
      cases stopped
      refine .ignore (.inr (.inl ⟨event, fun t same idx => ?_⟩))
      cases found.symm.trans same
      exact differs.resolve_left fun other => other idx
    next agrees =>
      obtain ⟨⟨after, code⟩, kicked, same⟩ := Option.map_eq_some_iff.mp stopped
      cases same
      obtain ⟨idx, gate⟩ := not_or.mp agrees
      exact .stop known event found (not_not.mp idx) (not_not.mp gate) kicked

private theorem takes_data (known : env.areas ggc.area) (event : ggc.event = .data)
    (parsed : env.parseCSMsg data = some csmsg) :
    Takes env mgr (.gateMessage src ggc data) (mgr.dispatchPlayerAgentMsg env src ggc csmsg).1 := by
  unfold ZoneAgentMgr.dispatchPlayerAgentMsg ZoneAgentMgr.findSession
  split
  next absent => exact .ignore (.inr (.inr ⟨event, .inr absent⟩))
  next found => exact .dispatch known event parsed found

theorem zoneStep_takes (stepped : zoneStep env mgr event = some next) : Takes env mgr event next := by
  cases event with
  | response req ret =>
    obtain ⟨pending, resumed⟩ := Option.ite_none_right_eq_some.mp stepped
    cases kind : req.kind with
    | updateRole retry =>
      simp only [onResponse, ZoneAgentMgr.resume, kind, Option.some.injEq] at resumed
      exact resumed ▸ .update pending kind
    | getRole => exact .resume pending (by simp [kind, RequestKind.isLogin]) resumed
    | insertRole => exact .resume pending (by simp [kind, RequestKind.isLogin]) resumed
  | gateMessage src ggc data =>
    obtain ⟨⟨made, code⟩, taken, rfl⟩ := Option.map_eq_some_iff.mp stepped
    unfold ZoneAgentMgr.onGateMessage at taken
    split at taken
    next unknown =>
      cases taken
      exact .ignore (.inl (by simpa using unknown))
    next known =>
      have known : env.areas ggc.area := by simpa using known
      dsimp only at taken
      split at taken
      next event =>
        obtain ⟨⟨after, ret⟩, created, same⟩ := Option.map_eq_some_iff.mp taken
        cases same
        exact takes_connected known event created
      next event => exact takes_close known event taken
      next event =>
        split at taken
        next unparsed =>
          cases taken
          exact .ignore (.inr (.inr ⟨event, .inl unparsed⟩))
        next parsed =>
          obtain rfl : _ = made := congrArg Prod.fst (Option.some.inj taken)
          exact takes_data known event parsed

/-- The sessions in the maps have their zone and role, and requests are numbered in the order of the
calls. -/
structure ZoneAgentMgr.Sound (mgr : ZoneAgentMgr) : Prop where
  mapped : ∀ {zone uid s}, mgr.mpSessions zone uid = some s →
    s < mgr.created ∧ (mgr.sessions s).zone = zone ∧ (mgr.sessions s).uid = uid
  asked : ∀ {req}, req ∈ mgr.requests → req.kind.isLogin →
    req.session < mgr.created ∧ (mgr.sessions req.session).uid = req.uid
  sorted : mgr.requests.Pairwise fun early late => early.id < late.id
  called : ∀ {req}, req ∈ mgr.requests → req.id < mgr.dbCalls

theorem Serves.bindings (serves : Serves allowed s mgr next) (x : Nat) :
    (next.sessions x).binding = (mgr.sessions x).binding := by
  by_cases own : x = s
  · exact own ▸ serves.binding
  · rcases serves.others x own with same | ⟨_, drops⟩
    · rw [same]
    · exact drops.binding

theorem Serves.sound (serves : Serves allowed s mgr next) (sound : mgr.Sound)
    (fine : ∀ {kind t uid}, allowed (.request kind t uid) → kind.isLogin →
      t < mgr.created ∧ (mgr.sessions t).uid = uid) : next.Sound where
  mapped := by
    intro zone uid t found
    obtain ⟨old, inZone, ofRole⟩ := sound.mapped (serves.maps ▸ found)
    have sameZone := congrArg Binding.zone (serves.bindings t)
    have sameRole := congrArg Binding.uid (serves.bindings t)
    exact ⟨serves.created ▸ old, sameZone.trans inZone, sameRole.trans ofRole⟩
  asked := by
    intro req member isLogin
    have same := congrArg Binding.uid (serves.bindings req.session)
    obtain ⟨added, requests, _, allowedAdded⟩ := serves.requests
    rw [requests] at member
    rw [serves.created]
    rcases List.mem_append.mp member with old | new
    · obtain ⟨exists_, uid⟩ := sound.asked old isLogin
      exact ⟨exists_, same.trans uid⟩
    · obtain ⟨exists_, uid⟩ := fine (allowedAdded req new).1 isLogin
      exact ⟨exists_, same.trans uid⟩
  sorted := by
    obtain ⟨added, requests, sorted, numbers⟩ := serves.requests
    rw [requests]
    refine List.pairwise_append.mpr ⟨sound.sorted, sorted, fun early old late new => ?_⟩
    exact Nat.lt_of_lt_of_le (sound.called old) (numbers late new).2.1
  called := by
    intro req member
    obtain ⟨added, requests, _, numbers⟩ := serves.requests
    rw [requests] at member
    rcases List.mem_append.mp member with old | new
    · exact Nat.lt_of_lt_of_le (sound.called old) serves.calls
    · exact (numbers req new).2.2

theorem Serves.sound_login (serves : Serves (ZoneEffect.OfLogin s uid failed inserts) s mgr next)
    (sound : mgr.Sound) (exists_ : s < mgr.created) (same : (mgr.sessions s).uid = uid) : next.Sound :=
  serves.sound sound fun ofLogin isLogin => by
    obtain ⟨rfl, rfl, _⟩ := ofLogin isLogin
    exact ⟨exists_, same⟩

def ZoneEffect.OfDispatch (s : Nat) : ZoneEffect → Prop
  | .dispatch t _ _ => t = s
  | .respond t _ _ _ => t = s
  | _ => False

namespace ZoneAgentMgr

private theorem send_serves : Serves (ZoneEffect.OfDispatch s) s mgr (mgr.send env s packed).1 := by
  unfold send
  split
  case' h_4 => exact Serves.refl _ s mgr
  all_goals
    split
    · exact Serves.refl _ s mgr
    · exact responseClient_serves mgr s env fun _ _ => rfl

private theorem onRoleMsg_serves : Serves (ZoneEffect.OfDispatch s) s mgr (mgr.onRoleMsg env s csmsg).1 := by
  unfold onRoleMsg
  split
  · exact Serves.refl _ s mgr
  · split
    · exact send_serves
    · exact Serves.refl _ s mgr

private theorem handle_serves (handled : Serves allowed s mgr onPlayingMsg.1) :
    Serves allowed s mgr (mgr.handle s onPlayingMsg).1 := by
  unfold handle
  split
  · exact Serves.refl allowed s mgr
  · exact handled
  · exact Serves.refl allowed s mgr

theorem dispatch_serves : Serves (ZoneEffect.OfDispatch s) s mgr (mgr.dispatch env s csmsg).1 := by
  unfold dispatch
  split
  · exact handle_serves onRoleMsg_serves
  · split
    · exact handle_serves (Serves.refl _ s mgr)
    · exact Serves.refl _ s mgr

theorem dispatched_serves (mgr : ZoneAgentMgr) :
    Serves (ZoneEffect.OfDispatch s) s mgr ((mgr.emit (.dispatch s src ggc)).dispatch env s csmsg).1 := by
  have logged : Serves (ZoneEffect.OfDispatch s) s mgr (mgr.emit (.dispatch s src ggc)) :=
    emit_serves mgr s rfl
  exact logged.trans dispatch_serves

theorem answered_getObjects (kind : req.kind = .getRole) :
    (mgr.answered req dataOk).getObjects req.uid := by
  simp [answered, keepObject, answer, kind]

end ZoneAgentMgr

/-- An error, or no role while the database agent takes no request. -/
def LoginFails (env : ZoneEnv) (mgr : ZoneAgentMgr) (req : Request) (ret : Int) : Prop :=
  match req.kind with
  | .getRole => 0 < ret ∧ (ret = dataNoExists → env.dbAccepts mgr.dbCalls = false)
  | .insertRole => ret ≠ dataOk
  | .updateRole _ => False

theorem resume_serves (isLogin : req.kind.isLogin) (same : (mgr.sessions req.session).uid = req.uid)
    (resumed : (mgr.answered req ret).resume env req ret = some next) :
    Serves (ZoneEffect.OfLogin req.session req.uid (LoginFails env mgr req ret)
      (req.kind = .getRole ∧ ret = dataNoExists)) req.session (mgr.answered req ret) next := by
  have here : ((mgr.answered req ret).sessions req.session).uid = req.uid := same
  unfold ZoneAgentMgr.resume at resumed
  split at resumed
  next kind =>
    refine loginLoaded_serves env here ?_ ?_ (fun missing => ⟨kind, missing⟩) resumed
    · rintro rfl
      exact answered_getObjects kind
    · intro positive full
      simp only [LoginFails, kind]
      exact ⟨positive, full⟩
  next kind =>
    refine loginInserted_serves env here (fun notOk => ?_) resumed
    simpa only [LoginFails, kind] using notOk
  next kind => simp [kind, RequestKind.isLogin] at isLogin

theorem ZoneEffect.OfKick.not_isLogin (ofKick : ZoneEffect.OfKick s target reason (.request kind t uid)) :
    ¬ kind.isLogin := by
  cases kind with
  | updateRole retry => exact fun isLogin => nomatch isLogin
  | _ => exact ofKick.elim

theorem ZoneEffect.OfUpdate.not_isLogin (ofUpdate : ZoneEffect.OfUpdate (.request kind t uid)) :
    ¬ kind.isLogin := by
  cases kind with
  | updateRole retry => exact fun isLogin => nomatch isLogin
  | _ => exact ofUpdate.elim

theorem newSession_mpSessions (found : (mgr.newSession zone uid gateid cnnx).mpSessions z r = some s) :
    (zone = z ∧ uid = r ∧ mgr.created = s) ∨ mgr.mpSessions z r = some s := by
  by_cases sameZone : z = zone
  · subst sameZone
    by_cases sameUid : r = uid
    · subst sameUid
      exact .inl ⟨rfl, rfl, by simpa [ZoneAgentMgr.newSession] using found⟩
    · exact .inr (by simpa [ZoneAgentMgr.newSession, sameUid] using found)
  · exact .inr (by simpa [ZoneAgentMgr.newSession, sameZone] using found)

theorem deleteSession_mpSessions (found : (mgr.deleteSession zone uid s).mpSessions z r = some t) :
    (z = zone → r ≠ uid) ∧ mgr.mpSessions z r = some t := by
  by_cases sameZone : z = zone
  · subst sameZone
    by_cases sameUid : r = uid
    · simp [ZoneAgentMgr.deleteSession, emit, sameUid] at found
    · exact ⟨fun _ => sameUid, by simpa [ZoneAgentMgr.deleteSession, emit, sameUid] using found⟩
  · exact ⟨fun same => absurd same sameZone, by simpa [ZoneAgentMgr.deleteSession, emit, sameZone] using found⟩

theorem login_serves (env : ZoneEnv) (same : (mgr.sessions s).uid = uid) :
    Serves (ZoneEffect.OfLogin s uid False False) s (mgr.emit (.loginBegin s (mgr.sessions s).uid))
      (mgr.login env s) :=
  loginCoroutine_serves env same

namespace ZoneAgentMgr.Sound

variable (sound : mgr.Sound)

include sound

theorem kick (kicked : mgr.kick env s reason = some (next, ret)) : next.Sound := by
  obtain ⟨target, serves, _⟩ := kick_serves env kicked
  exact serves.sound sound fun ofKick isLogin => absurd isLogin ofKick.not_isLogin

private theorem emit : (mgr.emit effect).Sound where
  mapped := sound.mapped
  asked := sound.asked
  sorted := sound.sorted
  called := sound.called

theorem login (allocated : s < mgr.created) : (mgr.login env s).Sound :=
  (login_serves env rfl).sound_login sound.emit allocated rfl

theorem newSession : (mgr.newSession zone uid gateid cnnx).Sound where
  mapped := by
    intro otherZone otherUid s found
    rcases newSession_mpSessions found with ⟨rfl, rfl, rfl⟩ | old
    · simp [ZoneAgentMgr.newSession, Session.init]
    · obtain ⟨allocated, inZone, ofRole⟩ := sound.mapped old
      refine ⟨Nat.lt_succ_of_lt allocated, ?_⟩
      simp [ZoneAgentMgr.newSession, Nat.ne_of_lt allocated, inZone, ofRole]
  asked := by
    intro req member isLogin
    obtain ⟨old, ofRole⟩ := sound.asked member isLogin
    exact ⟨Nat.lt_succ_of_lt old, by simpa [ZoneAgentMgr.newSession, Nat.ne_of_lt old] using ofRole⟩
  sorted := sound.sorted
  called := sound.called

theorem init (same : (mgr.sessions s).uid = uid) :
    (mgr.modify s fun sson => sson.init uid ggc).Sound where
  mapped := by
    intro zone role t found
    obtain ⟨old, inZone, ofRole⟩ := sound.mapped found
    refine ⟨old, ?_⟩
    by_cases own : t = s
    · subst own
      simp [modify, Session.init, inZone, ← same, ofRole]
    · simp [modify, own, inZone, ofRole]
  asked := by
    intro req member isLogin
    obtain ⟨old, ofRole⟩ := sound.asked member isLogin
    refine ⟨old, ?_⟩
    by_cases own : req.session = s
    · simp [modify, own, Session.init, ← ofRole, same]
    · simp [modify, own, ofRole]
  sorted := sound.sorted
  called := sound.called

private theorem deleteSession : (mgr.deleteSession zone uid s).Sound where
  mapped := by
    intro otherZone otherUid t found
    exact sound.mapped (deleteSession_mpSessions found).2
  asked := sound.asked
  sorted := sound.sorted
  called := sound.called

private theorem answered : (mgr.answered req ret).Sound where
  mapped := sound.mapped
  asked member := sound.asked (List.mem_of_mem_erase member)
  sorted := sound.sorted.sublist List.erase_sublist
  called member := sound.called (List.mem_of_mem_erase member)

end ZoneAgentMgr.Sound

theorem kick_kicking (kicking : (mgr.sessions s).state = .kicking) :
    mgr.kick env s reason = some (mgr, -1) := by
  simp [kick, kicking]

theorem kick_own (sound : mgr.Sound) (found : mgr.mpSessions zone uid = some s)
    (kicked : mgr.kick env s reason = some (next, ret)) :
    Serves (ZoneEffect.OfKick s s reason) s mgr next ∧ (next.sessions s).state = .kicking := by
  obtain ⟨target, serves, kicking, own | looked⟩ := kick_serves env kicked
  · exact ⟨own ▸ serves, kicking⟩
  · obtain ⟨_, inZone, ofRole⟩ := sound.mapped found
    have own : target = s := by simpa [getSession, inZone, ofRole, found] using looked.symm
    exact ⟨own ▸ serves, kicking⟩

theorem Takes.sound (takes : Takes env mgr event next) (sound : mgr.Sound) : next.Sound := by
  cases takes with
  | ignore why => exact sound
  | dispatch known event parsed found =>
    exact (dispatched_serves mgr).sound sound fun ofDispatch => ofDispatch.elim
  | create known event absent => exact sound.newSession.login (Nat.lt_succ_self _)
  | relogin known event found kicked =>
    obtain ⟨allocated, _, ofRole⟩ := sound.mapped found
    obtain ⟨target, serves, _⟩ := kick_serves env kicked
    exact ((sound.kick kicked).init (serves.uid_eq.trans ofRole)).login (serves.created ▸ allocated)
  | stop known event found idx gate kicked => exact (sound.kick kicked).deleteSession
  | update pending kind =>
    exact (logoutUpdated_serves env).sound sound.answered
      fun ofUpdate isLogin => absurd isLogin ofUpdate.not_isLogin
  | resume pending isLogin resumed =>
    obtain ⟨allocated, same⟩ := sound.asked pending isLogin
    exact (resume_serves isLogin same resumed).sound_login sound.answered allocated same

/-- The effects of a login of role `uid` on session `s`, its start apart. -/
def ZoneEffect.OfConnect (s : Nat) (uid : UInt64) (effect : ZoneEffect) : Prop :=
  effect.OfKick s s .relogin ∨ effect.OfLogin s uid False False

/-- A login of role `roleOf ggc` on session `s`: the one in the map, kicked and started again,
or a new one. -/
structure Connects (mgr : ZoneAgentMgr) (ggc : GateSSMsg) (s : Nat) (next : ZoneAgentMgr) : Prop where
  whose : mgr.mpSessions ggc.area (roleOf ggc) = some s ∨
    mgr.mpSessions ggc.area (roleOf ggc) = none ∧ s = mgr.created
  entered : next.mpSessions ggc.area (roleOf ggc) = some s
  maps : ∀ zone uid, (zone = ggc.area → uid ≠ roleOf ggc) → next.mpSessions zone uid = mgr.mpSessions zone uid
  created : next.created = max mgr.created (s + 1)
  others : ∀ t, t ≠ s → next.sessions t = mgr.sessions t
  log : ∃ started kicked, next.log = started ++ .loginBegin s (roleOf ggc) :: (kicked ++ mgr.log) ∧
    (∀ effect ∈ kicked, effect.OfKick s s .relogin) ∧
    ∀ effect ∈ started, effect.OfLogin s (roleOf ggc) False False
  asks : Asks (ZoneEffect.OfConnect s (roleOf ggc)) mgr next
  posts : ∀ dst, ∃ sent, next.posted dst = mgr.posted dst ++ sent ∧ ∀ post ∈ sent,
    mgr.mpSessions ggc.area (roleOf ggc) = some s ∧ (mgr.sessions s).state ≠ .kicking ∧
        post.1.idx = (mgr.sessions s).idx ∧ post.1.uid = (mgr.sessions s).accountid ∨
      post.1.idx = ggc.idx ∧ post.1.uid = ggc.uid
  bound : (next.sessions s).idx = ggc.idx ∧ (next.sessions s).accountid = ggc.uid

theorem Connects.effects (connects : Connects mgr ggc s next) :
    ∃ effects, next.log = effects ++ mgr.log ∧ ∀ effect ∈ effects, effect = .loginBegin s (roleOf ggc) ∨
      effect.OfConnect s (roleOf ggc) := by
  obtain ⟨started, kicked, grown, ofKick, ofLogin⟩ := connects.log
  refine ⟨started ++ .loginBegin s (roleOf ggc) :: kicked, by rw [grown]; simp, fun effect member => ?_⟩
  rcases List.mem_append.mp member with new | old
  · exact .inr (.inr (ofLogin effect new))
  · exact (List.mem_cons.mp old).imp_right fun early => .inl (ofKick effect early)

theorem Connects.emits (connects : Connects mgr ggc s next) (emits : mgr.Emits next effect) :
    effect = .loginBegin s (roleOf ggc) ∨ effect.OfConnect s (roleOf ggc) := by
  obtain ⟨added, grown, fine⟩ := connects.effects
  exact fine effect (emits.mem grown)

theorem Serves.others_eq (serves : Serves allowed s mgr next)
    (none : ∀ t, t ≠ s → ¬ allowed (.setState t .offline))
    (t : Nat) (other : t ≠ s) : next.sessions t = mgr.sessions t :=
  (serves.others t other).resolve_right fun dropped => none t other dropped.1

theorem create_connects (absent : mgr.mpSessions ggc.area (roleOf ggc) = none) :
    Connects mgr ggc mgr.created ((mgr.newSession ggc.area (roleOf ggc) src ggc).login env mgr.created) := by
  have role : ((mgr.newSession ggc.area (roleOf ggc) src ggc).sessions mgr.created).uid = roleOf ggc := by
    simp [newSession, Session.init]
  have serves := login_serves env role
  have asked : Asks (ZoneEffect.OfConnect mgr.created (roleOf ggc)) _ _ := serves.asks fun _ => .inr
  refine ⟨.inr ⟨absent, rfl⟩, ?_, ?_, ?_, ?_, ?_, ⟨asked.calls, asked.requests⟩, fun dst => ?_, ?_⟩
  · rw [serves.maps]
    simp [newSession]
  · intro zone uid other
    rw [serves.maps]
    by_cases sameZone : zone = ggc.area
    · subst sameZone
      simp [newSession, other rfl]
    · simp [newSession, sameZone]
  · rw [serves.created]
    simp [newSession]
  · intro t other
    have kept := serves.others_eq (by simp +contextual [ZoneEffect.OfLogin]) t other
    simpa [newSession, other] using kept
  · obtain ⟨started, grown, ofLogin⟩ := serves.log
    exact ⟨started, [], by rw [grown, role]; rfl, by simp, ofLogin⟩
  · obtain ⟨sent, posted, own⟩ := serves.posts dst
    refine ⟨sent, posted, fun post member => .inr ?_⟩
    simpa [newSession, Session.init] using (own post member).2
  · have idx := congrArg Binding.idx serves.binding
    have account := congrArg Binding.accountid serves.binding
    simpa [newSession, Session.init, Session.binding] using And.intro idx account

theorem relogin_connects (sound : mgr.Sound) (found : mgr.mpSessions ggc.area (roleOf ggc) = some s)
    (kicked : mgr.kick env s .relogin = some (after, ret)) :
    Connects mgr ggc s ((after.modify s fun sson => sson.init (roleOf ggc) ggc).login env s) := by
  obtain ⟨kick, _⟩ := kick_own sound found kicked
  have role : ((after.modify s fun sson => sson.init (roleOf ggc) ggc).sessions s).uid = roleOf ggc := by
    simp [ZoneAgentMgr.modify, Session.init]
  have serves := login_serves env role
  have allocated := (sound.mapped found).1
  have asked : Asks (ZoneEffect.OfConnect s (roleOf ggc)) _ _ := serves.asks fun _ => .inr
  have asks := (kick.asks fun _ => .inl).trans ⟨asked.calls, asked.requests⟩
  refine ⟨.inl found, ?_, ?_, ?_, ?_, ?_, asks, fun dst => ?_, ?_⟩
  · rw [serves.maps]
    exact kick.maps ▸ found
  · intro zone uid _
    rw [serves.maps]
    exact congrFun (congrFun kick.maps zone) uid
  · rw [serves.created, Nat.max_eq_left allocated]
    exact kick.created
  · intro t other
    have kept := serves.others_eq (by simp +contextual [ZoneEffect.OfLogin]) t other
    have before := kick.others_eq (by simp +contextual [ZoneEffect.OfKick]) t other
    simpa [ZoneAgentMgr.modify, other, before] using kept
  · obtain ⟨kicks, grown, ofKick⟩ := kick.log
    obtain ⟨started, logged, ofLogin⟩ := serves.log
    exact ⟨started, kicks, by rw [logged, role, ← grown]; rfl, ofKick, ofLogin⟩
  · obtain ⟨first, before, ofOld⟩ := kick.posts dst
    obtain ⟨second, posted, ofNew⟩ := serves.posts dst
    refine ⟨first ++ second, by rw [posted, ← List.append_assoc, ← before]; rfl, fun post member => ?_⟩
    rcases List.mem_append.mp member with old | new
    · refine .inl ⟨found, fun kicking => ?_, (ofOld post old).2⟩
      cases (kick_kicking kicking).symm.trans kicked
      simp [List.self_eq_append_right.mp before] at old
    · exact .inr (by simpa [ZoneAgentMgr.modify, Session.init] using (ofNew post new).2)
  · have idx := congrArg Binding.idx serves.binding
    have account := congrArg Binding.accountid serves.binding
    simpa [ZoneAgentMgr.modify, Session.init, Session.binding] using And.intro idx account

theorem Takes.connects (takes : Takes env mgr (.gateMessage src ggc data) next) (sound : mgr.Sound)
    (known : env.areas ggc.area) (event : ggc.event = .connected) : ∃ s, Connects mgr ggc s next := by
  cases takes with
  | ignore why =>
    rcases why with unknown | ⟨closed, _⟩ | ⟨isData, _⟩
    · simp [unknown] at known
    · cases event.symm.trans closed
    · cases event.symm.trans isData
  | dispatch _ isData => cases event.symm.trans isData
  | create _ _ absent => exact ⟨_, create_connects absent⟩
  | relogin _ _ found kicked => exact ⟨_, relogin_connects sound found kicked⟩
  | stop _ closed => cases event.symm.trans closed

theorem Takes.grows (takes : Takes env mgr event next) (sound : mgr.Sound) :
    ∃ effects, next.log = effects ++ mgr.log := by
  cases takes with
  | ignore why => exact ⟨[], rfl⟩
  | dispatch known event parsed found => exact (dispatched_serves mgr).log.imp fun _ => And.left
  | create known event absent => exact (create_connects absent).effects.imp fun _ => And.left
  | relogin known event found kicked =>
    exact (relogin_connects sound found kicked).effects.imp fun _ => And.left
  | stop known event found idx gate kicked =>
    obtain ⟨effects, grown, _⟩ := (kick_own sound found kicked).1.log
    exact ⟨.stop _ :: effects, by rw [List.cons_append, ← grown]; rfl⟩
  | update pending kind => exact (logoutUpdated_serves env).log.imp fun _ => And.left
  | resume pending isLogin resumed =>
    exact (resume_serves isLogin (sound.asked pending isLogin).2 resumed).log.imp fun _ => And.left

def ZoneAgentMgr.remaining (mgr : ZoneAgentMgr) : ZoneEvent → List Request
  | .response req _ => mgr.requests.erase req
  | .gateMessage _ _ _ => mgr.requests

/-- An InsertRole is sent for a role that the database has just reported missing. -/
def Inserts (mgr : ZoneAgentMgr) (event : ZoneEvent) (uid : UInt64) : Prop :=
  ∃ asked ∈ mgr.requests, event = .response asked dataNoExists ∧ asked.kind = .getRole ∧ asked.uid = uid

/-- The requests outstanding after an event, and those among them that it sent. -/
def Requesting (mgr : ZoneAgentMgr) (event : ZoneEvent) (next : ZoneAgentMgr) : Prop :=
  mgr.dbCalls ≤ next.dbCalls ∧ ∃ added, next.requests = mgr.remaining event ++ added ∧ ∀ req ∈ added,
    mgr.dbCalls ≤ req.id ∧ (req.kind = .insertRole → Inserts mgr event req.uid)

theorem Asks.sends (asks : Asks allowed middle next) (requests : middle.requests = mgr.remaining event)
    (calls : middle.dbCalls = mgr.dbCalls)
    (fine : ∀ t uid, allowed (.request .insertRole t uid) → Inserts mgr event uid) :
    Requesting mgr event next := by
  obtain ⟨added, grown, allowedAdded⟩ := asks.requests
  refine ⟨calls ▸ asks.calls, added, by rw [grown, requests], fun req member => ?_⟩
  obtain ⟨permitted, numbered⟩ := allowedAdded req member
  exact ⟨calls ▸ numbered, fun kind => fine _ _ (kind ▸ permitted)⟩

theorem Connects.sends (connects : Connects mgr ggc s next) :
    Requesting mgr (.gateMessage src ggc data) next := by
  refine connects.asks.sends rfl rfl fun t uid fine => ?_
  rcases fine with ofKick | ofLogin
  · exact absurd rfl ofKick.not_isLogin
  · exact ((ofLogin rfl).2.2 rfl).elim

theorem Takes.sends (takes : Takes env mgr event next) (sound : mgr.Sound) : Requesting mgr event next := by
  cases takes with
  | ignore why => exact ⟨Nat.le_refl _, [], by simp [remaining], by simp⟩
  | dispatch known event parsed found =>
    exact ((dispatched_serves mgr).asks fun _ => id).sends rfl rfl fun _ _ fine => fine.elim
  | create known event absent => exact (create_connects absent).sends
  | relogin known event found kicked => exact (relogin_connects sound found kicked).sends
  | stop known event found idx gate kicked =>
    have asks : Asks (ZoneEffect.OfKick _ _ .closeClient) mgr _ :=
      (kick_own sound found kicked).1.asks fun _ => id
    exact asks.sends rfl rfl fun _ _ ofKick => absurd rfl ofKick.not_isLogin
  | update pending kind =>
    exact ((logoutUpdated_serves env).asks fun _ => id).sends rfl rfl fun _ _ fine => fine.elim
  | @resume req ret _ pending isLogin resumed =>
    have serves := resume_serves isLogin (sound.asked pending isLogin).2 resumed
    refine (serves.asks fun _ => id).sends rfl rfl fun t uid ofLogin => ?_
    obtain ⟨_, sameRole, inserts⟩ := ofLogin rfl
    obtain ⟨kind, missing⟩ := inserts rfl
    exact ⟨req, pending, by rw [missing], kind, sameRole.symm⟩

def ZoneRun (env : ZoneEnv) (events : List ZoneEvent) (mgr : ZoneAgentMgr) : Prop :=
  Steps (fun mgr event next => zoneStep env mgr event = some next) {} events mgr

theorem sound_start : ({} : ZoneAgentMgr).Sound where
  mapped := by simp
  asked := by simp
  sorted := .nil
  called := by simp

theorem ZoneRun.sound (run : ZoneRun env events mgr) : mgr.Sound := by
  have keeps : ∀ {mgr next : ZoneAgentMgr} {event : ZoneEvent},
      zoneStep env mgr event = some next → mgr.Sound → next.Sound :=
    fun stepped sound => (zoneStep_takes stepped).sound sound
  exact run.invariant keeps sound_start

/-- One zone whose calls all succeed; a message of one byte is a command about the role. -/
def soleZone : ZoneEnv where
  areas area := area = 1
  dbAccepts _ := true
  parseCSMsg data := data.head?.map fun cmd => { cmd := csmsgCmdRole, role := some cmd.toUInt32 }
  packRoleRsp _ _ := some []
  byteSize _ := 0
  channelReady _ := true
  resumeRet := 0

end Playground.Zone
