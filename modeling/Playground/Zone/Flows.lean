import Playground.Zone.Step

/-! Login coroutines of a role, counted. -/

namespace Playground.Zone

open Framing Gate Transition ZoneAgentMgr

variable {env : ZoneEnv} {mgr middle next : ZoneAgentMgr} {role : UInt64}
variable {log later : List ZoneEffect} {requests added : List Request}
variable {effect : ZoneEffect}

def ZoneEffect.flow (uid : UInt64) : ZoneEffect → Int
  | .loginBegin _ role => if role = uid then 1 else 0
  | .loginEnd _ role => if role = uid then -1 else 0
  | _ => 0

/-- The Login coroutines of a role that have begun and not returned. -/
def activeFlows (uid : UInt64) (log : List ZoneEffect) : Int := (log.map (ZoneEffect.flow uid)).sum

/-- The Login coroutines of a role that are suspended on the database. -/
def suspendedFlows (uid : UInt64) (requests : List Request) : Nat :=
  requests.countP fun req => req.kind.isLogin && req.uid == uid

def ZoneAgentMgr.running (mgr : ZoneAgentMgr) (uid : UInt64) : Int :=
  activeFlows uid mgr.log - suspendedFlows uid mgr.requests

@[simp] theorem activeFlows_cons :
    activeFlows uid (effect :: log) = effect.flow uid + activeFlows uid log := by
  simp [activeFlows]

@[simp] theorem activeFlows_append :
    activeFlows uid (later ++ log) = activeFlows uid later + activeFlows uid log := by
  simp [activeFlows]

@[simp] theorem suspendedFlows_append :
    suspendedFlows uid (requests ++ added) = suspendedFlows uid requests + suspendedFlows uid added :=
  List.countP_append

def ZoneEffect.Aside (effect : ZoneEffect) : Prop :=
  (∀ uid, effect.flow uid = 0) ∧ ∀ kind t role, effect = .request kind t role → ¬ kind.isLogin

theorem activeFlows_eq_zero (aside : ∀ effect ∈ effects, effect.flow uid = 0) :
    activeFlows uid effects = 0 := by
  refine List.sum_eq_zero fun amount member => ?_
  obtain ⟨effect, inEffects, rfl⟩ := List.mem_map.mp member
  exact aside effect inEffects

theorem Serves.running_eq (serves : Serves allowed s mgr next)
    (aside : ∀ {effect}, allowed effect → effect.Aside)
    (uid : UInt64) : next.running uid = mgr.running uid := by
  obtain ⟨effects, grown, fine⟩ := serves.log
  obtain ⟨added, asked, _, fineAdded⟩ := serves.requests
  have still : activeFlows uid effects = 0 :=
    activeFlows_eq_zero fun effect member => (aside (fine effect member)).1 uid
  have none : suspendedFlows uid added = 0 := by
    refine List.countP_eq_zero.mpr fun req member => ?_
    have notLogin := (aside (fineAdded req member).1).2 _ _ _ rfl
    simp [notLogin]
  simp [running, grown, asked, still, none]

def Yields (role : UInt64) (mgr next : ZoneAgentMgr) : Prop :=
  ∀ uid, next.running uid = mgr.running uid - if uid = role then 1 else 0

theorem Yields.after (kept : ∀ uid, middle.running uid = mgr.running uid)
    (yields : Yields role middle next) : Yields role mgr next :=
  fun uid => by rw [yields uid, kept uid]

theorem setState_running (uid : UInt64) : (mgr.setState s state).running uid = mgr.running uid := by
  simp [running, setState, ZoneAgentMgr.modify, ZoneEffect.flow]

theorem attachPlayerAgent_running (uid : UInt64) :
    (mgr.attachPlayerAgent s player).running uid = mgr.running uid := by
  simp [running, attachPlayerAgent, ZoneAgentMgr.modify, ZoneEffect.flow]

theorem loginReturn_yields (same : (mgr.sessions s).uid = role) : Yields role mgr (mgr.loginReturn s) := by
  intro uid
  simp only [running, loginReturn, emit_log, emit_requests, activeFlows_cons, ZoneEffect.flow, same]
  by_cases own : uid = role
  · simp [own]
    omega
  · simp [own, Ne.symm own]

theorem request_yields (accepted : (mgr.request env kind s).2) (isLogin : kind.isLogin)
    (same : (mgr.sessions s).uid = role) : Yields role mgr (mgr.request env kind s).1 := by
  intro uid
  unfold request at accepted ⊢
  split at accepted
  next accepts =>
    rw [if_pos accepts]
    by_cases own : uid = role
    · simp [running, suspendedFlows, ZoneEffect.flow, isLogin, same, own]
      omega
    · simp [running, suspendedFlows, ZoneEffect.flow, same, own, Ne.symm own]
  next => cases accepted

theorem request_refused_running (refused : ¬ (mgr.request env kind s).2) (uid : UInt64) :
    (mgr.request env kind s).1.running uid = mgr.running uid := by
  unfold request at refused ⊢
  split at refused
  next => exact absurd rfl refused
  next rejects => rw [if_neg rejects]; rfl

theorem enterPlaying_yields (same : (mgr.sessions s).uid = role) :
    Yields role mgr (mgr.enterPlaying s) := by
  refine Yields.after (fun uid => ?_) (loginReturn_yields ?_)
  · rw [setState_running, attachPlayerAgent_running]
  · simpa [setState, attachPlayerAgent, ZoneAgentMgr.modify] using same

theorem ZoneEffect.OfKick.aside (ofKick : effect.OfKick s target reason) :
    effect.Aside := by
  cases effect with
  | loginBegin | loginEnd => exact ofKick.elim
  | request kind t uid =>
    refine ⟨fun _ => rfl, fun _ _ _ same => ?_⟩
    cases same
    exact ofKick.not_isLogin
  | _ => exact ⟨fun _ => rfl, nofun⟩

theorem ZoneEffect.OfDispatch.aside (ofDispatch : effect.OfDispatch s) :
    effect.Aside := by
  cases effect with
  | dispatch | respond => exact ⟨fun _ => rfl, nofun⟩
  | _ => exact ofDispatch.elim

theorem ZoneEffect.OfUpdate.aside (ofUpdate : effect.OfUpdate) : effect.Aside := by
  cases effect with
  | request kind t uid =>
    refine ⟨fun _ => rfl, fun _ _ _ same => ?_⟩
    cases same
    exact ofUpdate.not_isLogin
  | _ => exact ofUpdate.elim

section

variable (same : (mgr.sessions s).uid = role)

include same

theorem loginFailed_yields (ended : mgr.loginFailed env s = some next) : Yields role mgr next := by
  obtain ⟨⟨after, ret⟩, kicked, rfl⟩ := Option.map_eq_some_iff.mp ended
  obtain ⟨target, serves, _⟩ := kick_serves env kicked
  exact Yields.after (serves.running_eq ZoneEffect.OfKick.aside) (loginReturn_yields (serves.uid_eq.trans same))

theorem loginCoroutine_yields : Yields role mgr (mgr.loginCoroutine env s) := by
  have kept : ∀ uid, (mgr.setState s .loading).running uid = mgr.running uid := setState_running
  have here : ((mgr.setState s .loading).sessions s).uid = role := by
    simpa [setState, ZoneAgentMgr.modify] using same
  refine Yields.after kept ?_
  dsimp only [loginCoroutine]
  generalize mgr.setState s .loading = loaded at here
  split
  · exact enterPlaying_yields here
  · split
    next accepted => exact request_yields accepted rfl here
    next refused =>
      exact Yields.after (request_refused_running refused) (loginReturn_yields (by rwa [request_sessions]))

private theorem loginLoaded_yields (loaded : mgr.loginLoaded env s ret = some next) : Yields role mgr next := by
  dsimp only [loginLoaded] at loaded
  split at loaded
  · cases loaded
    exact loginReturn_yields same
  split at loaded
  · split at loaded
    · cases loaded
      exact enterPlaying_yields same
    · exact loginFailed_yields same loaded
  split at loaded
  · have kept : ∀ uid, ((mgr.setState s .creating).attachPlayerAgent s
        { rid := (mgr.sessions s).uid }).running uid = mgr.running uid :=
      fun uid => by rw [attachPlayerAgent_running, setState_running]
    have here : (((mgr.setState s .creating).attachPlayerAgent s
        { rid := (mgr.sessions s).uid }).sessions s).uid = role := by
      simpa [setState, attachPlayerAgent, ZoneAgentMgr.modify] using same
    refine Yields.after kept ?_
    split at loaded
    next accepted =>
      cases loaded
      exact request_yields accepted rfl here
    next refused =>
      exact Yields.after (request_refused_running refused)
        (loginFailed_yields (by rwa [request_sessions]) loaded)
  · exact loginFailed_yields same loaded

private theorem loginInserted_yields
    (inserted : mgr.loginInserted env s ret = some next) : Yields role mgr next := by
  unfold loginInserted at inserted
  split at inserted
  · cases inserted
    refine Yields.after setState_running (loginReturn_yields ?_)
    simpa [setState, ZoneAgentMgr.modify] using same
  · exact loginFailed_yields same inserted

end

theorem resume_yields (isLogin : req.kind.isLogin) (same : (mgr.sessions req.session).uid = role)
    (resumed : mgr.resume env req ret = some next) : Yields role mgr next := by
  unfold ZoneAgentMgr.resume at resumed
  split at resumed
  next => exact loginLoaded_yields same resumed
  next => exact loginInserted_yields same resumed
  next kind => simp [kind, RequestKind.isLogin] at isLogin

private theorem login_running (uid : UInt64) : (mgr.login env s).running uid = mgr.running uid := by
  have yields : Yields (mgr.sessions s).uid _ (mgr.login env s) := loginCoroutine_yields rfl
  rw [yields uid]
  by_cases own : uid = (mgr.sessions s).uid
  · simp [running, ZoneEffect.flow, own]
    omega
  · simp [running, ZoneEffect.flow, own, Ne.symm own]

theorem suspendedFlows_erase (pending : req ∈ requests) :
    suspendedFlows uid (requests.erase req) + (if req.kind.isLogin && req.uid == uid then 1 else 0) =
      suspendedFlows uid requests := by
  have counted := List.countP_erase (fun req => req.kind.isLogin && req.uid == uid) requests req
  unfold suspendedFlows
  by_cases waits : (req.kind.isLogin && req.uid == uid) = true
  · have positive : 0 < requests.countP fun req => req.kind.isLogin && req.uid == uid :=
      List.countP_pos_iff.mpr ⟨req, pending, waits⟩
    rw [if_pos ⟨pending, waits⟩] at counted
    rw [counted, if_pos waits]
    omega
  · rw [if_neg fun both => waits both.2] at counted
    rw [counted, if_neg waits]
    omega

private theorem answered_running (pending : req ∈ mgr.requests) (uid : UInt64) :
    (mgr.answered req ret).running uid =
      mgr.running uid + if req.kind.isLogin && req.uid == uid then 1 else 0 := by
  have suspended : _ = suspendedFlows uid mgr.requests := suspendedFlows_erase pending
  have waiting : (mgr.answered req ret).running uid =
      activeFlows uid mgr.log - suspendedFlows uid (mgr.requests.erase req) := rfl
  rw [waiting, running, ← suspended]
  split <;> push_cast <;> omega

theorem Takes.running_eq (takes : Takes env mgr event next) (sound : mgr.Sound) (uid : UInt64) :
    next.running uid = mgr.running uid := by
  cases takes with
  | ignore why => rfl
  | dispatch known event parsed found =>
    exact (dispatched_serves mgr).running_eq ZoneEffect.OfDispatch.aside uid
  | create known event absent => exact login_running uid
  | relogin known event found kicked =>
    rw [login_running]
    exact (kick_own sound found kicked).1.running_eq ZoneEffect.OfKick.aside uid
  | stop known event found idx gate kicked =>
    have kept := (kick_own sound found kicked).1.running_eq ZoneEffect.OfKick.aside uid
    simpa [running, deleteSession, ZoneEffect.flow] using kept
  | update pending kind =>
    rw [(logoutUpdated_serves env).running_eq ZoneEffect.OfUpdate.aside, answered_running pending]
    simp [kind, RequestKind.isLogin]
  | @resume req ret _ pending isLogin resumed =>
    have yields : Yields req.uid (mgr.answered req ret) next :=
      resume_yields isLogin (sound.asked pending isLogin).2 resumed
    rw [yields uid, answered_running pending]
    by_cases own : uid = req.uid
    · simp [own, isLogin]
    · simp [own, Ne.symm own]

/-- At every instant of a log at most one Login coroutine of a role is under way. -/
def OneFlow (log : List ZoneEffect) : Prop :=
  Justified (fun earlier effect => ∀ uid, activeFlows uid (effect :: earlier) ≤ 1) log

theorem OneFlow.active_le (one : OneFlow log) (uid : UInt64) : activeFlows uid log ≤ 1 := by
  cases log with
  | nil => simp [activeFlows]
  | cons effect log => exact one.1 uid

theorem OneFlow.append (one : OneFlow log)
    (none : ∀ effect ∈ effects, ∀ uid, effect.flow uid ≤ 0) : OneFlow (effects ++ log) := by
  have keeps : ∀ effect ∈ effects, ∀ log, (∀ uid, activeFlows uid log ≤ 1) →
      (∀ uid, activeFlows uid (effect :: log) ≤ 1) ∧ ∀ uid, activeFlows uid (effect :: log) ≤ 1 := by
    intro effect member log bounded
    have after : ∀ uid, activeFlows uid (effect :: log) ≤ 1 := by
      intro uid
      have ended := none effect member uid
      have before := bounded uid
      rw [activeFlows_cons]
      omega
    exact ⟨after, after⟩
  exact (Justified.append one keeps one.active_le).1

theorem ZoneEffect.OfLogin.flow_le (ofLogin : effect.OfLogin s uid failed inserts)
    (role : UInt64) : effect.flow role ≤ 0 := by
  cases effect with
  | loginBegin t other => exact ofLogin.elim
  | loginEnd t other =>
    simp only [ZoneEffect.flow]
    split <;> decide
  | _ => exact Int.le_refl 0

theorem ZoneEffect.Aside.flow_le (aside : effect.Aside) (uid : UInt64) :
    effect.flow uid ≤ 0 :=
  Int.le_of_eq (aside.1 uid)

/-- A client of a role connects while a Login coroutine of that role waits. -/
def Overlaps (env : ZoneEnv) (mgr : ZoneAgentMgr) : ZoneEvent → Prop
  | .gateMessage _ ggc _ =>
    env.areas ggc.area ∧ ggc.event = .connected ∧ ∃ req ∈ mgr.requests, req.kind.isLogin ∧ req.uid = roleOf ggc
  | .response _ _ => False

theorem suspendedFlows_pos_iff :
    0 < suspendedFlows uid requests ↔ ∃ req ∈ requests, req.kind.isLogin ∧ req.uid = uid := by
  simp [suspendedFlows, List.countP_pos_iff]

theorem activeFlows_eq_suspended (idle : mgr.running uid = 0) :
    activeFlows uid mgr.log = suspendedFlows uid mgr.requests := by
  unfold running at idle
  omega

theorem Connects.oneFlow_iff (connects : Connects mgr ggc s next) (idle : ∀ uid, mgr.running uid = 0)
    (one : OneFlow mgr.log) : OneFlow next.log ↔ suspendedFlows (roleOf ggc) mgr.requests = 0 := by
  obtain ⟨started, kicked, grown, ofKick, ofLogin⟩ := connects.log
  have quiet : ∀ uid, activeFlows uid kicked = 0 :=
    fun uid => activeFlows_eq_zero fun effect member => (ofKick effect member).aside.1 uid
  have active := activeFlows_eq_suspended (idle (roleOf ggc))
  rw [grown]
  constructor
  · intro two
    have begun := Justified.split two (roleOf ggc)
    simp only [activeFlows_cons, activeFlows_append, quiet, ZoneEffect.flow, if_true, active] at begun
    omega
  · intro alone
    refine OneFlow.append ⟨fun uid => ?_, one.append fun effect member => (ofKick effect member).aside.flow_le⟩
      fun effect member => (ofLogin effect member).flow_le
    have bounded := one.active_le uid
    simp only [activeFlows_cons, activeFlows_append, quiet, ZoneEffect.flow]
    split
    next same =>
      subst same
      omega
    next => omega

private theorem overlaps_iff (known : env.areas ggc.area) (event : ggc.event = .connected) :
    Overlaps env mgr (.gateMessage src ggc data) ↔ suspendedFlows (roleOf ggc) mgr.requests ≠ 0 := by
  rw [← Nat.pos_iff_ne_zero, suspendedFlows_pos_iff]
  simp [Overlaps, known, event]

private theorem not_overlaps (other : ggc.event ≠ .connected) : ¬ Overlaps env mgr (.gateMessage src ggc data) :=
  fun overlaps => other overlaps.2.1

theorem Serves.oneFlow (serves : Serves allowed s mgr next) (one : OneFlow mgr.log)
    (none : ∀ {effect}, allowed effect → ∀ uid, effect.flow uid ≤ 0) : OneFlow next.log := by
  obtain ⟨effects, grown, fine⟩ := serves.log
  rw [grown]
  exact one.append fun effect member => none (fine effect member)

/-- A step keeps the flows apart exactly when it is no connect that overlaps with a waiting coroutine. -/
theorem Takes.oneFlow_iff (takes : Takes env mgr event next) (sound : mgr.Sound)
    (idle : ∀ uid, mgr.running uid = 0) (one : OneFlow mgr.log) :
    OneFlow next.log ↔ ¬ Overlaps env mgr event := by
  cases takes with
  | ignore why =>
    refine iff_of_true one fun overlaps => ?_
    rcases why with unknown | ⟨closed, _⟩ | ⟨isData, _⟩
    · simp [Overlaps, unknown] at overlaps
    · exact not_overlaps (by simp [closed]) overlaps
    · exact not_overlaps (by simp [isData]) overlaps
  | dispatch known event parsed found =>
    exact iff_of_true ((dispatched_serves mgr).oneFlow one fun fine => fine.aside.flow_le)
      (not_overlaps (by simp [event]))
  | create known event absent =>
    rw [(create_connects absent).oneFlow_iff idle one, overlaps_iff known event, not_not]
  | relogin known event found kicked =>
    rw [(relogin_connects sound found kicked).oneFlow_iff idle one, overlaps_iff known event, not_not]
  | stop known event found idx gate kicked =>
    have kept := (kick_own sound found kicked).1.oneFlow one fun fine => fine.aside.flow_le
    exact iff_of_true ⟨fun uid => by simpa [ZoneEffect.flow] using kept.active_le uid, kept⟩
      (not_overlaps (by simp [event]))
  | update pending kind =>
    exact iff_of_true ((logoutUpdated_serves env).oneFlow one fun fine => fine.aside.flow_le) id
  | resume pending isLogin resumed =>
    exact iff_of_true ((resume_serves isLogin (sound.asked pending isLogin).2 resumed).oneFlow one
      fun fine => fine.flow_le) id

end Playground.Zone
