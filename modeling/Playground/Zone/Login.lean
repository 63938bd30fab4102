import Playground.Zone.Step

/-! Login coroutines that outlive their session. -/

namespace Playground.Zone

open Framing Gate Transition ZoneAgentMgr

variable {env : ZoneEnv} {mgr next : ZoneAgentMgr}
variable {effect : ZoneEffect}

def ZoneEffect.Revives (s : Nat) : ZoneEffect → Prop
  | .setState t state => t = s ∧ (state = .creating ∨ state = .playing)
  | .attach t _ => t = s
  | .request kind t _ => t = s ∧ kind = .insertRole
  | _ => False

/-- No session comes back after `StopSession` has removed it. -/
def Buried (log : List ZoneEffect) : Prop :=
  Justified (fun earlier effect => ∀ s, .stop s ∈ earlier → ¬ effect.Revives s) log

/-- The database has found or created the role, or reports that it is to be created. -/
def Found (req : Request) (ret : Int) : Prop :=
  req.kind = .getRole ∧ (ret = dataOk ∨ ret = dataNoExists) ∨ req.kind = .insertRole ∧ ret = dataOk

def Resurrects (mgr : ZoneAgentMgr) : ZoneEvent → Prop
  | .response req ret => .stop req.session ∈ mgr.log ∧ Found req ret
  | .gateMessage _ _ _ => False

def ZoneEffect.Still (effect : ZoneEffect) : Prop := ∀ s, effect ≠ .stop s ∧ ¬ effect.Revives s

theorem ZoneEffect.OfKick.still (ofKick : effect.OfKick s target reason) :
    effect.Still := by
  intro t
  cases effect with
  | setState x state =>
    refine ⟨nofun, fun ⟨_, played⟩ => ?_⟩
    rcases ofKick with ⟨_, rfl⟩ | ⟨_, rfl⟩ <;> simp at played
  | request kind x uid =>
    cases kind with
    | updateRole retry => exact ⟨nofun, fun revives => nomatch revives.2⟩
    | _ => exact ofKick.elim
  | attach | stop => exact ofKick.elim
  | _ => exact ⟨nofun, id⟩

theorem ZoneEffect.OfDispatch.still (ofDispatch : effect.OfDispatch s) :
    effect.Still := by
  intro t
  cases effect with
  | dispatch | respond => exact ⟨nofun, id⟩
  | _ => exact ofDispatch.elim

theorem ZoneEffect.OfUpdate.still (ofUpdate : effect.OfUpdate) : effect.Still := by
  intro t
  cases effect with
  | request kind x uid =>
    cases kind with
    | updateRole retry => exact ⟨nofun, fun revives => nomatch revives.2⟩
    | _ => exact ofUpdate.elim
  | _ => exact ofUpdate.elim

theorem ZoneEffect.OfLogin.not_stop
    (ofLogin : effect.OfLogin s uid failed inserts) (t : Nat) : effect ≠ .stop t := by
  rintro rfl
  exact ofLogin

theorem ZoneEffect.OfLogin.revives (ofLogin : effect.OfLogin s uid failed inserts)
    (revives : effect.Revives t) : t = s := by
  cases effect with
  | setState x state =>
    obtain ⟨rfl, played⟩ := revives
    rcases ofLogin with own | ⟨rfl, _⟩
    · exact own
    · simp at played
  | attach x player => exact revives.symm.trans ofLogin.1
  | request kind x role =>
    obtain ⟨rfl, rfl⟩ := revives
    exact (ofLogin rfl).1
  | _ => exact revives.elim

structure Rests (mgr : ZoneAgentMgr) : Prop where
  buried : Buried mgr.log
  gone : ∀ {s}, .stop s ∈ mgr.log → s < mgr.created ∧ ∀ zone uid, mgr.mpSessions zone uid ≠ some s

theorem Buried.append {log effects : List ZoneEffect} (buried : Buried log)
    (fine : ∀ effect ∈ effects, ∀ s, effect ≠ .stop s ∧ (.stop s ∈ log → ¬ effect.Revives s)) :
    Buried (effects ++ log) ∧ ∀ s, .stop s ∈ effects ++ log → .stop s ∈ log := by
  have keeps : ∀ effect ∈ effects, ∀ earlier, (∀ s, .stop s ∈ earlier → .stop s ∈ log) →
      (∀ s, .stop s ∈ earlier → ¬ effect.Revives s) ∧ ∀ s, .stop s ∈ effect :: earlier → .stop s ∈ log := by
    intro effect member earlier stops
    refine ⟨fun s stopped => (fine effect member s).2 (stops s stopped), fun s stopped => ?_⟩
    rcases List.mem_cons.mp stopped with same | old
    · exact absurd same.symm (fine effect member s).1
    · exact stops s old
  exact Justified.append buried keeps fun _ => id

namespace Rests

theorem serves (rests : Rests mgr) (serves : Serves allowed s mgr next)
    (fine : ∀ {effect}, allowed effect → ∀ t, effect ≠ .stop t ∧ (.stop t ∈ mgr.log → ¬ effect.Revives t)) :
    Rests next := by
  obtain ⟨effects, grown, fineEffects⟩ := serves.log
  obtain ⟨buried, stops⟩ := rests.buried.append fun effect member => fine (fineEffects effect member)
  rw [← grown] at buried stops
  refine ⟨buried, fun stopped => ?_⟩
  rw [serves.created, serves.maps]
  exact rests.gone (stops _ stopped)

theorem still (rests : Rests mgr) (serves : Serves allowed s mgr next)
    (still : ∀ {effect}, allowed effect → effect.Still) : Rests next :=
  rests.serves serves fun fine t => ⟨(still fine t).1, fun _ => (still fine t).2⟩

theorem connects (rests : Rests mgr) (connects : Connects mgr ggc s next) : Rests next := by
  obtain ⟨effects, grown, fine⟩ := connects.effects
  have alive : .stop s ∉ mgr.log := by
    intro stopped
    obtain ⟨allocated, unmapped⟩ := rests.gone stopped
    rcases connects.whose with found | ⟨_, rfl⟩
    · exact unmapped _ _ found
    · exact Nat.lt_irrefl _ allocated
  obtain ⟨buried, stops⟩ := rests.buried.append fun effect member t => by
    rcases fine effect member with rfl | ofKick | ofLogin
    · exact ⟨nofun, fun _ => id⟩
    · exact ⟨(ofKick.still t).1, fun _ => (ofKick.still t).2⟩
    · exact ⟨ofLogin.not_stop t, fun stopped revives => alive (ofLogin.revives revives ▸ stopped)⟩
  rw [← grown] at buried stops
  refine ⟨buried, fun stopped => ?_⟩
  obtain ⟨allocated, unmapped⟩ := rests.gone (stops _ stopped)
  refine ⟨by rw [connects.created]; omega, fun zone uid found => ?_⟩
  by_cases own : zone = ggc.area ∧ uid = roleOf ggc
  · obtain ⟨rfl, rfl⟩ := own
    cases connects.entered.symm.trans found
    exact alive (stops _ stopped)
  · rw [connects.maps zone uid fun same other => own ⟨same, other⟩] at found
    exact unmapped zone uid found

theorem deleteSession (rests : Rests mgr) (sound : mgr.Sound) (found : mgr.mpSessions zone uid = some s) :
    Rests (mgr.deleteSession zone uid s) := by
  obtain ⟨allocated, inZone, ofRole⟩ := sound.mapped found
  refine ⟨⟨fun _ _ => id, rests.buried⟩, fun {t} stopped => ?_⟩
  rcases List.mem_cons.mp stopped with same | old
  · cases same
    refine ⟨allocated, fun z r still => ?_⟩
    obtain ⟨other, same⟩ := deleteSession_mpSessions still
    obtain ⟨_, inOther, ofOther⟩ := sound.mapped same
    exact other (inOther.symm.trans inZone) (ofOther.symm.trans ofRole)
  · obtain ⟨allocated, unmapped⟩ := rests.gone old
    exact ⟨allocated, fun z r still => unmapped z r (deleteSession_mpSessions still).2⟩

private theorem answered (rests : Rests mgr) : Rests (mgr.answered req ret) := ⟨rests.buried, rests.gone⟩

end Rests

theorem loginReturn_still : Serves ZoneEffect.Still s mgr (mgr.loginReturn s) :=
  emit_serves mgr s fun _ => ⟨nofun, id⟩

theorem loginFailed_still (ended : mgr.loginFailed env s = some next) :
    Serves ZoneEffect.Still s mgr next := by
  obtain ⟨⟨after, ret⟩, kicked, rfl⟩ := Option.map_eq_some_iff.mp ended
  obtain ⟨target, serves, _⟩ := kick_serves env kicked
  exact (serves.weaken fun _ ofKick => ofKick.still).trans loginReturn_still

/-- Without the role the coroutine returns or fails. -/
theorem resume_failed (isLogin : req.kind.isLogin) (failed : ¬ Found req ret) :
    mgr.resume env req ret = some (mgr.loginReturn req.session) ∨
      mgr.resume env req ret = mgr.loginFailed env req.session := by
  cases kind : req.kind with
  | updateRole retry => simp [kind, RequestKind.isLogin] at isLogin
  | getRole =>
    simp only [Found, kind, true_and, reduceCtorEq, false_and, or_false, not_or] at failed
    simp only [ZoneAgentMgr.resume, kind, loginLoaded, if_neg failed.1, if_neg failed.2]
    split
    · exact .inl rfl
    · exact .inr rfl
  | insertRole =>
    simp only [Found, kind, reduceCtorEq, false_and, true_and, false_or] at failed
    exact .inr (by simp only [ZoneAgentMgr.resume, kind, loginInserted, if_neg failed])

private theorem resume_still (isLogin : req.kind.isLogin) (failed : ¬ Found req ret)
    (resumed : mgr.resume env req ret = some next) : Serves ZoneEffect.Still req.session mgr next := by
  rcases @resume_failed env mgr _ _ isLogin failed with same | same
  · cases same.symm.trans resumed
    exact loginReturn_still
  · exact loginFailed_still (same.symm.trans resumed)

/-- Only an answer that resurrects brings a stopped session back. -/
theorem Takes.rests (takes : Takes env mgr event next) (sound : mgr.Sound) (rests : Rests mgr)
    (silent : ¬ Resurrects mgr event) : Rests next := by
  cases takes with
  | ignore why => exact rests
  | dispatch known event parsed found =>
    exact rests.still (dispatched_serves mgr) ZoneEffect.OfDispatch.still
  | create known event absent => exact rests.connects (create_connects absent)
  | relogin known event found kicked => exact rests.connects (relogin_connects sound found kicked)
  | stop known event found idx gate kicked =>
    obtain ⟨serves, _⟩ := kick_own sound found kicked
    exact (rests.still serves ZoneEffect.OfKick.still).deleteSession (sound.kick kicked) (serves.maps ▸ found)
  | update pending kind => exact rests.answered.still (logoutUpdated_serves env) ZoneEffect.OfUpdate.still
  | @resume req _ _ pending isLogin resumed =>
    by_cases stopped : .stop req.session ∈ mgr.log
    · exact rests.answered.still (resume_still isLogin (fun woken => silent ⟨stopped, woken⟩) resumed) id
    · refine rests.answered.serves (resume_serves isLogin (sound.asked pending isLogin).2 resumed) ?_
      exact fun ofLogin t => ⟨ofLogin.not_stop t, fun dead revives => stopped (ofLogin.revives revives ▸ dead)⟩

private theorem enterPlaying_emits :
    mgr.Emits (mgr.enterPlaying s) (.attach s { rid := (mgr.sessions s).uid }) :=
  ⟨_ :: _ :: [_], rfl, by simp⟩

private theorem resume_revives (sound : mgr.Sound) (pending : req ∈ mgr.requests)
    (found : Found req ret) (resumed : (mgr.answered req ret).resume env req ret = some next) :
    ∃ effect, mgr.Emits next effect ∧ effect.Revives req.session := by
  rcases found with ⟨kind, rfl | rfl⟩ | ⟨kind, rfl⟩
  · have same := (sound.asked pending (by simp [kind, RequestKind.isLogin])).2
    have cached : (mgr.answered req dataOk).getObjects ((mgr.answered req dataOk).sessions req.session).uid :=
      same ▸ answered_getObjects kind
    simp only [ZoneAgentMgr.resume, kind, loginLoaded, if_pos cached] at resumed
    cases resumed
    exact ⟨_, enterPlaying_emits, rfl⟩
  · have creating : mgr.Emits ((mgr.answered req dataNoExists).setState req.session .creating)
        (.setState req.session .creating) := ⟨[_], rfl, by simp⟩
    have attached : Serves (fun _ => True) req.session _ (((mgr.answered req dataNoExists).setState req.session
        .creating).attachPlayerAgent req.session { rid := (mgr.sessions req.session).uid }) :=
      attachPlayerAgent_serves _ req.session _ trivial
    have requested := attached.trans (request_serves _ _ env (t := req.session) .insertRole trivial)
    have asked := requested.emits_before creating
    refine ⟨.setState req.session .creating, ?_, rfl, .inl rfl⟩
    simp only [ZoneAgentMgr.resume, kind, loginLoaded] at resumed
    rw [if_neg (by decide), if_neg (by decide), if_pos trivial] at resumed
    split at resumed
    · cases resumed
      exact asked
    · exact (loginFailed_still resumed).emits_before asked
  · simp only [ZoneAgentMgr.resume, kind, loginInserted, if_true, Option.some.injEq] at resumed
    subst resumed
    exact ⟨.setState req.session .playing, ⟨[_, _], rfl, by simp⟩, rfl, .inr rfl⟩

theorem Resurrects.not_buried (resurrects : Resurrects mgr event) (sound : mgr.Sound)
    (takes : Takes env mgr event next) : ¬ Buried next.log := by
  cases takes with
  | @resume req _ _ pending _ resumed =>
    obtain ⟨stopped, found⟩ := resurrects
    obtain ⟨effect, ⟨effects, grown, member⟩, revives⟩ := resume_revives sound pending found resumed
    obtain ⟨later, earlier, rfl⟩ := List.append_of_mem member
    intro buried
    rw [grown, List.append_assoc, List.cons_append] at buried
    exact Justified.split buried req.session (List.mem_append_right _ stopped) revives
  | update pending kind => simp [Resurrects, Found, kind] at resurrects
  | _ => exact resurrects.elim

private theorem steps_of_buried
    (run : Steps (fun mgr event next => zoneStep env mgr event = some next) mgr events next)
    (sound : mgr.Sound) (buried : Buried next.log) :
    Steps (fun mgr event next => zoneStep env mgr event = some next ∧ ¬ Resurrects mgr event) mgr events next := by
  have keeps : ∀ {mgr next : ZoneAgentMgr} {event : ZoneEvent},
      zoneStep env mgr event = some next → mgr.Sound → next.Sound :=
    fun stepped sound => (zoneStep_takes stepped).sound sound
  have back : ∀ {mgr next : ZoneAgentMgr} {event : ZoneEvent},
      zoneStep env mgr event = some next → mgr.Sound → Buried next.log → Buried mgr.log := by
    intro mgr next event stepped sound buried
    obtain ⟨effects, grown⟩ := (zoneStep_takes stepped).grows sound
    exact Justified.suffix (grown ▸ buried)
  have silent : ∀ {mgr next : ZoneAgentMgr} {event : ZoneEvent}, zoneStep env mgr event = some next →
      mgr.Sound → Buried mgr.log → Buried next.log → ¬ Resurrects mgr event :=
    fun stepped sound _ buried resurrects => resurrects.not_buried sound (zoneStep_takes stepped) buried
  exact (run.guarded keeps back silent sound buried).2

/-- A run keeps stopped sessions buried exactly when no step of it answers the coroutine of
a stopped session with a role found or created. -/
theorem buried_iff_never_resurrects (run : ZoneRun env events mgr) :
    Buried mgr.log ↔
      Steps (fun mgr event next => zoneStep env mgr event = some next ∧ ¬ Resurrects mgr event) {} events mgr := by
  refine ⟨steps_of_buried run sound_start, fun silent => ?_⟩
  have keeps : ∀ {mgr next : ZoneAgentMgr} {event : ZoneEvent},
      zoneStep env mgr event = some next ∧ ¬ Resurrects mgr event →
        mgr.Sound ∧ Rests mgr → next.Sound ∧ Rests next := by
    intro mgr next event ⟨stepped, silent⟩ ⟨sound, rests⟩
    have takes := zoneStep_takes stepped
    exact ⟨takes.sound sound, takes.rests sound rests silent⟩
  exact (silent.invariant keeps ⟨sound_start, trivial, by simp⟩).2.buried

/-- Account 7 connects, its client goes away, and then the database answers the Login
coroutine. -/
def lateAnswer (ret : Int) : List ZoneEvent :=
  [.gateMessage 3 { event := .connected, idx := 1, uid := 7, area := 1 } [],
    .gateMessage 3 { event := .close, idx := 1, uid := 7, area := 1 } [],
    .response { id := 0, kind := .getRole, session := 0, uid := getRoleID 7 1 } ret]

def answeredLate (ret : Int) (runs : (runAll (zoneStep soleZone) {} (lateAnswer ret)).isSome) :
    ZoneAgentMgr :=
  (runAll (zoneStep soleZone) {} (lateAnswer ret)).get runs

theorem answeredLate_run (runs) : ZoneRun soleZone (lateAnswer ret) (answeredLate ret runs) :=
  steps_of_runAll (Option.some_get _).symm

theorem buried_iff_never_resurrects_lateError : Buried (answeredLate 3 (by decide)).log := by
  refine (buried_iff_never_resurrects (answeredLate_run _)).mpr ?_
  have silent : ∀ event ∈ lateAnswer 3, ∀ mgr, ¬ Resurrects mgr event := by
    simp [lateAnswer, Resurrects, Found, dataOk, dataNoExists]
  exact ((answeredLate_run _).restrict silent).mono fun ⟨stepped, never⟩ => ⟨stepped, never _⟩

/-- When the role does not exist yet, the coroutine creates it for the stopped session. -/
theorem stopped_session_creates_role :
    ZoneRun soleZone (lateAnswer 1) (answeredLate 1 (by decide)) ∧
      (answeredLate 1 (by decide)).requests =
        [{ id := 1, kind := .insertRole, session := 0, uid := getRoleID 7 1 }] ∧
      ¬ Buried (answeredLate 1 (by decide)).log := by
  refine ⟨answeredLate_run _, by decide, fun buried => ?_⟩
  have created : (answeredLate 1 (by decide)).log = (answeredLate 1 (by decide)).log.take 2 ++
      .setState 0 .creating :: (answeredLate 1 (by decide)).log.drop 3 := by
    decide
  rw [created] at buried
  exact Justified.split buried 0 (by decide) ⟨rfl, .inl rfl⟩

end Playground.Zone
