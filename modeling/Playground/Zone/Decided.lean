import Playground.Zone.Players
import Playground.Zone.Rebinding

/-! How logins end. -/

namespace Playground.Zone

open Framing Gate Transition ZoneAgentMgr

variable {env : ZoneEnv} {mgr middle next : ZoneAgentMgr} {event : ZoneEvent} {s : Nat} {uid : UInt64}

namespace ZoneAgentMgr

/-- The client of the session, under its present connection, has been told to close. -/
def Told (mgr : ZoneAgentMgr) (s : Nat) : Prop :=
  ((mgr.sessions s).gate, responseMessage (mgr.sessions s) .close connectionCloseByDefault) ∈
    responses mgr.log

/-- The session is PLAYING with a player, or KICKING with its client told. -/
def Decided (mgr : ZoneAgentMgr) (s : Nat) : Prop :=
  (mgr.sessions s).state = .playing ∧ (mgr.sessions s).player.isSome ∨
    (mgr.sessions s).state = .kicking ∧ mgr.Told s

def KicksTold (mgr : ZoneAgentMgr) : Prop := ∀ s, (mgr.sessions s).state = .kicking → mgr.Told s

theorem Told.grows (told : mgr.Told s) (bound : (next.sessions s).binding = (mgr.sessions s).binding)
    (grown : ∃ effects, next.log = effects ++ mgr.log) : next.Told s := by
  obtain ⟨effects, log⟩ := grown
  rw [Told, response_congr bound, log, responses, List.filterMap_append]
  exact List.mem_append_right _ told

theorem kick_told (kicked : mgr.kick env s reason = some (next, ret))
    (before : (mgr.sessions s).state = .kicking → mgr.Told s) : next.Told s := by
  by_cases kicking : (mgr.sessions s).state = .kicking
  · cases (kick_kicking kicking).symm.trans kicked
    exact before kicking
  · obtain ⟨effects, log, sent⟩ := kick_responds kicked
    obtain ⟨target, serves, -⟩ := kick_serves env kicked
    rw [Told, response_congr serves.binding, log, responses, List.filterMap_append]
    refine List.mem_append_left _ ?_
    rw [← responses, sent, Session.farewell, if_neg kicking]
    exact List.mem_singleton_self _

theorem KicksTold.serves (kicksTold : mgr.KicksTold) (serves : Serves allowed s mgr next)
    (own : (next.sessions s).state = .kicking → next.Told s) : next.KicksTold := by
  intro x kicking
  by_cases same : x = s
  · subst same
    exact own kicking
  · have grown := serves.log.imp fun _ => And.left
    have kept : next.sessions x = mgr.sessions x := by
      rcases serves.others x same with kept | ⟨-, kept | ⟨-, offline⟩⟩
      · exact kept
      · exact kept
      · rw [offline] at kicking
        cases kicking
    exact (kicksTold x (kept ▸ kicking)).grows (congrArg Session.binding kept) grown

theorem KicksTold.still (kicksTold : mgr.KicksTold) (serves : Serves allowed s mgr next)
    (still : ∀ state, ¬ allowed (.setState s state)) : next.KicksTold := by
  refine kicksTold.serves serves fun kicking => ?_
  have state := serves.state.resolve_left fun ⟨state, fine⟩ => still state fine
  exact (kicksTold s (state ▸ kicking)).grows serves.binding (serves.log.imp fun _ => And.left)

theorem KicksTold.connects (kicksTold : mgr.KicksTold) (connects : Connects mgr ggc s next)
    (running : (next.sessions s).state ≠ .kicking) : next.KicksTold := by
  intro x kicking
  have other : x ≠ s := fun same => running (same ▸ kicking)
  have kept := connects.others x other
  exact (kicksTold x (kept ▸ kicking)).grows (congrArg Session.binding kept)
    (connects.effects.imp fun _ => And.left)

theorem enterPlaying_decided (mgr : ZoneAgentMgr) (s : Nat) : (mgr.enterPlaying s).Decided s := by
  refine .inl ⟨setState_state, ?_⟩
  simp [enterPlaying, loginReturn, setState, modify, attachPlayerAgent, emit]

theorem loginFailed_decided (failed : mgr.loginFailed env s = some next)
    (before : (mgr.sessions s).state = .kicking → mgr.Told s) : next.Decided s := by
  obtain ⟨⟨after, ret⟩, kicked, rfl⟩ := Option.map_eq_some_iff.mp failed
  obtain ⟨target, -, kicking, -⟩ := kick_serves env kicked
  exact .inr ⟨kicking, (kick_told kicked before).grows rfl ⟨[_], rfl⟩⟩

theorem login_state (env : ZoneEnv) (mgr : ZoneAgentMgr) (s : Nat) :
    mgr.getObjects (mgr.sessions s).uid ∧ (mgr.login env s).Decided s ∧
        ((mgr.login env s).sessions s).state = .playing ∨
      ¬ mgr.getObjects (mgr.sessions s).uid ∧ ((mgr.login env s).sessions s).state = .loading := by
  unfold ZoneAgentMgr.login loginCoroutine
  dsimp only
  split
  · next cached => exact .inl ⟨cached, enterPlaying_decided _ s, setState_state⟩
  · next missing =>
    refine .inr ⟨missing, ?_⟩
    split
    · rw [request_sessions]
      exact setState_state
    · rw [loginReturn, emit_sessions, request_sessions]
      exact setState_state

theorem login_decided_iff (env : ZoneEnv) (mgr : ZoneAgentMgr) (s : Nat) :
    (mgr.login env s).Decided s ↔ mgr.getObjects (mgr.sessions s).uid := by
  rcases login_state env mgr s with ⟨cached, decided, -⟩ | ⟨missing, loading⟩
  · exact iff_of_true decided cached
  · refine iff_of_false ?_ missing
    simp [Decided, loading]

theorem login_not_kicking (env : ZoneEnv) (mgr : ZoneAgentMgr) (s : Nat) :
    ((mgr.login env s).sessions s).state ≠ .kicking := by
  rcases login_state env mgr s with ⟨-, -, playing⟩ | ⟨-, loading⟩
  · simp [playing]
  · simp [loading]

private theorem inserting_waits (env : ZoneEnv) (mgr : ZoneAgentMgr) (s : Nat) (player : PlayerAgent) :
    ((((mgr.setState s .creating).attachPlayerAgent s player).request env .insertRole s).1.sessions s).state =
        .creating ∧
      ∀ t role, ¬ mgr.Emits
        (((mgr.setState s .creating).attachPlayerAgent s player).request env .insertRole s).1
        (.loginEnd t role) := by
  constructor
  · rw [request_sessions]
    simp [attachPlayerAgent, setState, modify, emit]
  · intro t role ends
    have creating : Serves (· ≠ .loginEnd t role) s mgr (mgr.setState s .creating) :=
      setState_serves mgr s _ (by simp)
    have attached := creating.trans (attachPlayerAgent_serves _ s player (by simp))
    have asked := attached.trans (request_serves (t := s) _ s env .insertRole (by simp))
    exact asked.emits_allowed ends rfl

/-- Behind `GetRole` the coroutine is decided or waits for `InsertRole`, unless the result was negative. -/
theorem loginLoaded_decided (loaded : mgr.loginLoaded env s ret = some next)
    (cached : ret = dataOk → mgr.getObjects (mgr.sessions s).uid)
    (before : (mgr.sessions s).state = .kicking → mgr.Told s) :
    ret < 0 ∧ next = mgr.loginReturn s ∨ 0 ≤ ret ∧ (next.Decided s ∨
      (next.sessions s).state = .creating ∧ ∀ t role, ¬ mgr.Emits next (.loginEnd t role)) := by
  unfold ZoneAgentMgr.loginLoaded at loaded
  dsimp only at loaded
  split at loaded
  · next negative =>
    cases loaded
    exact .inl ⟨negative, rfl⟩
  · next nonnegative =>
    refine .inr ⟨Int.not_lt.mp nonnegative, ?_⟩
    split at loaded
    · next ok =>
      rw [if_pos (cached ok)] at loaded
      cases loaded
      exact .inl (enterPlaying_decided mgr s)
    · split at loaded
      · split at loaded
        · cases loaded
          exact .inr (inserting_waits env mgr s _)
        · refine .inl (loginFailed_decided loaded fun kicking => ?_)
          cases kicking.symm.trans (inserting_waits env mgr s _).1
      · exact .inl (loginFailed_decided loaded before)

private theorem loginInserted_decided (inserted : mgr.loginInserted env s ret = some next)
    (player : (mgr.sessions s).player.isSome) (before : (mgr.sessions s).state = .kicking → mgr.Told s) :
    next.Decided s := by
  unfold ZoneAgentMgr.loginInserted at inserted
  split at inserted
  · cases inserted
    refine .inl ⟨setState_state, ?_⟩
    simpa [loginReturn, setState, modify] using player
  · exact loginFailed_decided inserted before

end ZoneAgentMgr

theorem resume_decided (sound : mgr.Sound) (staffed : mgr.Staffed) (kicksTold : mgr.KicksTold)
    (pending : req ∈ mgr.requests) (isLogin : req.kind.isLogin)
    (resumed : (mgr.answered req ret).resume env req ret = some next) :
    (req.kind = .getRole ∧ ret < 0) ∧ next = (mgr.answered req ret).loginReturn req.session ∨
      ¬ (req.kind = .getRole ∧ ret < 0) ∧ (next.Decided req.session ∨
        (next.sessions req.session).state = .creating ∧
          ∀ t role, ¬ (mgr.answered req ret).Emits next (.loginEnd t role)) := by
  unfold ZoneAgentMgr.resume at resumed
  split at resumed
  · next kind =>
    have cached : ret = dataOk →
        (mgr.answered req ret).getObjects ((mgr.answered req ret).sessions req.session).uid := by
      rintro rfl
      have role : ((mgr.answered req dataOk).sessions req.session).uid = req.uid :=
        (sound.asked pending isLogin).2
      exact role ▸ answered_getObjects kind
    rcases loginLoaded_decided resumed cached (kicksTold req.session) with ⟨negative, ended⟩ | ⟨fine, outcome⟩
    · exact .inl ⟨⟨kind, negative⟩, ended⟩
    · exact .inr ⟨fun failed => Int.not_lt.mpr fine failed.2, outcome⟩
  · next kind =>
    have inserts : req.kind ≠ .getRole := by simp [kind]
    have decided :=
      loginInserted_decided resumed (staffed.writes req pending inserts) (kicksTold req.session)
    exact .inr ⟨fun failed => inserts failed.1, .inl decided⟩
  · next kind => simp [kind, RequestKind.isLogin] at isLogin

theorem Takes.kicksTold (takes : Takes env mgr event next) (sound : mgr.Sound) (staffed : mgr.Staffed)
    (kicksTold : mgr.KicksTold) : next.KicksTold := by
  cases takes with
  | ignore => exact kicksTold
  | dispatch => exact kicksTold.still (dispatched_serves mgr) fun _ ofDispatch => ofDispatch.elim
  | create known event absent =>
    exact kicksTold.connects (create_connects absent) (login_not_kicking env _ _)
  | relogin known event found kicked =>
    exact kicksTold.connects (relogin_connects sound found kicked) (login_not_kicking env _ _)
  | @stop ggc s src after ret data known event found idx gate kicked =>
    have kept := kicksTold.serves (kick_own sound found kicked).1 fun _ => kick_told kicked (kicksTold s)
    exact fun x kicking => (kept x kicking).grows rfl ⟨[.stop s], rfl⟩
  | @update req retry ret pending kind =>
    have before : (mgr.answered req ret).KicksTold := kicksTold
    exact before.still (logoutUpdated_serves env) fun _ ofUpdate => ofUpdate.elim
  | @resume req ret _ pending isLogin resumed =>
    have before : (mgr.answered req ret).KicksTold := kicksTold
    refine before.serves (resume_serves isLogin (sound.asked pending isLogin).2 resumed) fun kicking => ?_
    rcases resume_decided sound staffed kicksTold pending isLogin resumed with
      ⟨-, rfl⟩ | ⟨-, (⟨playing, -⟩ | ⟨-, told⟩) | ⟨creating, -⟩⟩
    · exact (before req.session kicking).grows rfl ⟨[_], rfl⟩
    · cases playing.symm.trans kicking
    · exact told
    · cases creating.symm.trans kicking

theorem ZoneRun.kicksTold (run : ZoneRun env events mgr) : mgr.KicksTold := by
  have keeps {mgr next : ZoneAgentMgr} {event : ZoneEvent} (stepped : zoneStep env mgr event = some next)
      (holds : mgr.Sound ∧ mgr.Staffed ∧ mgr.KicksTold) : next.Sound ∧ next.Staffed ∧ next.KicksTold := by
    obtain ⟨sound, staffed, kicksTold⟩ := holds
    have takes := zoneStep_takes stepped
    exact ⟨takes.sound sound, takes.staffed staffed, takes.kicksTold sound staffed kicksTold⟩
  have start : ({} : ZoneAgentMgr).KicksTold := by simp [KicksTold]
  exact (run.invariant keeps ⟨sound_start, ⟨by simp, by simp, by simp, by simp⟩, start⟩).2.2

/-- The role is in the cache when the client connects; later on, `GetRole` returns no negative result, or
something else has decided the session already. -/
def LoginDecides (mgr : ZoneAgentMgr) (s : Nat) : ZoneEvent → Prop
  | .gateMessage _ ggc _ => mgr.getObjects (roleOf ggc)
  | .response req ret => req.kind = .getRole → ret < 0 → mgr.Decided s

theorem Connects.loginEnd_own (connects : Connects mgr ggc t next)
    (ends : mgr.Emits next (.loginEnd s uid)) :
    s = t := by
  rcases connects.emits ends with begun | ofKick | ofLogin
  · cases begun
  · exact ofKick.elim
  · exact ofLogin.1

theorem Takes.decided_iff (takes : Takes env mgr event next) (sound : mgr.Sound) (staffed : mgr.Staffed)
    (kicksTold : mgr.KicksTold) (ends : mgr.Emits next (.loginEnd s uid)) :
    next.Decided s ↔ LoginDecides mgr s event := by
  cases takes with
  | ignore => exact (not_emits_self ends).elim
  | dispatch => exact ((dispatched_serves mgr).emits_allowed ends).elim
  | create known event absent =>
    obtain rfl := (create_connects absent).loginEnd_own ends
    rw [login_decided_iff]
    simp [LoginDecides, newSession, Session.init]
  | relogin known event found kicked =>
    obtain rfl := (relogin_connects sound found kicked).loginEnd_own ends
    obtain ⟨target, serves, -⟩ := kick_serves env kicked
    rw [login_decided_iff]
    simp [LoginDecides, ZoneAgentMgr.modify, Session.init, serves.objects]
  | @stop ggc t src after ret data known event found idx gate kicked =>
    obtain ⟨effects, grown, ofKick⟩ := (kick_own sound found kicked).1.log
    have stopped : (after.deleteSession ggc.area (roleOf ggc) t).log = (.stop t :: effects) ++ mgr.log := by
      rw [List.cons_append, ← grown]
      rfl
    rcases List.mem_cons.mp (ends.mem stopped) with stop | kick
    · cases stop
    · exact (ofKick _ kick).elim
  | update pending kind => exact ((logoutUpdated_serves env).emits_allowed ends).elim
  | @resume req ret _ pending isLogin resumed =>
    have serves := resume_serves isLogin (sound.asked pending isLogin).2 resumed
    obtain ⟨rfl, -⟩ := serves.emits_allowed ends
    rcases resume_decided sound staffed kicksTold pending isLogin resumed with
      ⟨failed, rfl⟩ | ⟨fine, decided | ⟨-, waits⟩⟩
    · exact ⟨fun decided _ _ => decided, fun decided => decided failed.1 failed.2⟩
    · exact iff_of_true decided fun kind negative => (fine ⟨kind, negative⟩).elim
    · exact (waits _ uid ends).elim

/-- A Login coroutine ends decided unless its role is not in the cache and `GetRole` returns a
negative result: at once when the request queue is full, later when the request times out. -/
theorem login_ends_decided_iff {events : List ZoneEvent} (run : ZoneRun env events mgr)
    (stepped : zoneStep env mgr event = some next) (ends : mgr.Emits next (.loginEnd s uid)) :
    next.Decided s ↔ LoginDecides mgr s event :=
  (zoneStep_takes stepped).decided_iff run.sound run.staffed run.kicksTold ends

def creatingAgent : ZoneAgentMgr :=
  (runAll (zoneStep soleZone) {} (newcomerEvents.take 2)).get (by decide +kernel)

def creatingInsert : Request := { id := 1, kind := .insertRole, session := 0, uid := getRoleID 7 1 }

theorem login_ends_decided_newcomer :
    ∃ next, zoneStep soleZone creatingAgent (.response creatingInsert dataOk) = some next ∧
      next.Decided 0 := by
  have run : ZoneRun soleZone (newcomerEvents.take 2) creatingAgent :=
    steps_of_runAll (Option.some_get _).symm
  have outstanding : creatingInsert ∈ creatingAgent.requests := by decide +kernel
  let next := ((creatingAgent.answered creatingInsert dataOk).setState 0 .playing).loginReturn 0
  have stepped : zoneStep soleZone creatingAgent (.response creatingInsert dataOk) = some next := by
    rw [zoneStep, if_pos outstanding]
    rfl
  have ends : creatingAgent.Emits next (.loginEnd 0 _) :=
    ⟨[_, .setState 0 .playing], rfl, List.mem_cons_self⟩
  exact ⟨next, stepped, (login_ends_decided_iff run stepped ends).mpr nofun⟩

def connectedLoad : Request := { id := 0, kind := .getRole, session := 0, uid := getRoleID 7 1 }

/-- `GetRole` times out, and the session is left in LOADING with nothing outstanding. -/
theorem login_left_loading :
    ∃ next, ZoneRun soleZone [connects 1] connected ∧
      zoneStep soleZone connected (.response connectedLoad (-1)) = some next ∧
      connected.Emits next (.loginEnd 0 (getRoleID 7 1)) ∧
      (next.sessions 0).state = .loading ∧ next.requests = [] ∧ ¬ next.Decided 0 := by
  have outstanding : connectedLoad ∈ connected.requests := by decide
  have stepped : zoneStep soleZone connected (.response connectedLoad (-1)) =
      some ((connected.answered connectedLoad (-1)).loginReturn 0) := by
    rw [zoneStep, if_pos outstanding]
    rfl
  have loading : (((connected.answered connectedLoad (-1)).loginReturn 0).sessions 0).state = .loading := by
    decide
  refine ⟨_, steps_of_runAll (Option.some_get _).symm, stepped, ⟨[_], rfl, ?_⟩, loading, by decide, ?_⟩
  · decide
  · simp [Decided, loading]

end Playground.Zone
