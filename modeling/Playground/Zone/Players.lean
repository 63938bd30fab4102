import Playground.Zone.Step

/-! The players of sessions. -/

namespace Playground.Zone

open Framing Gate Transition ZoneAgentMgr

namespace ZoneAgentMgr

def logoutPointers (mgr : ZoneAgentMgr) (s : Nat) : List (Option PlayerAgent) :=
  if (mgr.sessions s).state = .playing then [(mgr.sessions s).player] else []

/-- In `Session::Kick`, which logs out the session `GetSession` finds. -/
def kickPointers (mgr : ZoneAgentMgr) (s : Nat) : List (Option PlayerAgent) :=
  if (mgr.sessions s).state = .kicking then []
  else ((mgr.getSession (mgr.sessions s).zone (mgr.sessions s).uid).map mgr.logoutPointers).getD []

/-- Behind `GetRole`: `CreateRole` initialises the player, and `InsertRole` takes its data. -/
def loginLoadedPointers (env : ZoneEnv) (mgr : ZoneAgentMgr) (s : Nat) (ret : Int) :
    List (Option PlayerAgent) :=
  let uid := (mgr.sessions s).uid
  if ret < 0 then []
  else if ret = dataOk then
    if mgr.getObjects uid then [] else mgr.kickPointers s
  else if ret = dataNoExists then
    let mgr := (mgr.setState s .creating).attachPlayerAgent s { rid := uid }
    let asked := mgr.request env .insertRole s
    [(mgr.sessions s).player, (mgr.sessions s).player] ++ if asked.2 then [] else asked.1.kickPointers s
  else mgr.kickPointers s

def loginInsertedPointers (mgr : ZoneAgentMgr) (s : Nat) (ret : Int) : List (Option PlayerAgent) :=
  if ret = dataOk then [] else mgr.kickPointers s

/-- In the Logout coroutine behind `UpdateRole`, when it tries again. -/
def logoutUpdatedPointers (mgr : ZoneAgentMgr) (s : Nat) (retry : Nat) (ret : Int) :
    List (Option PlayerAgent) :=
  if ret < 0 ∨ ret = dataOk then []
  else if retry - 1 > 0 then [(mgr.sessions s).player]
  else []

/-- In `CSRoleHandler::OnPlayingMsg`: three times for all information, once for a part. -/
def onRoleMsgPointers (mgr : ZoneAgentMgr) (s : Nat) (csmsg : CSMsg) : List (Option PlayerAgent) :=
  match csmsg.role with
  | none => []
  | some cmd =>
    if cmd = 1 then List.replicate 3 (mgr.sessions s).player
    else if 2 ≤ cmd ∧ cmd ≤ 4 then [(mgr.sessions s).player]
    else []

def dispatchPointers (mgr : ZoneAgentMgr) (s : Nat) (csmsg : CSMsg) : List (Option PlayerAgent) :=
  if csmsg.cmd = csmsgCmdRole ∧ (mgr.sessions s).state = .playing then mgr.onRoleMsgPointers s csmsg else []

def gateMessagePointers (env : ZoneEnv) (mgr : ZoneAgentMgr) (src : Int) (ggc : GateSSMsg) (data : Bytes) :
    List (Option PlayerAgent) :=
  if !env.areas ggc.area then []
  else
    match mgr.findSession ggc.area (getRoleID ggc.uid ggc.area) with
    | none => []
    | some s =>
      match ggc.event with
      | .connected => mgr.kickPointers s
      | .close =>
        if (mgr.sessions s).idx ≠ ggc.idx ∨ (mgr.sessions s).gate ≠ src then [] else mgr.kickPointers s
      | .data => ((env.parseCSMsg data).map (mgr.dispatchPointers s)).getD []

def responsePointers (env : ZoneEnv) (mgr : ZoneAgentMgr) (req : Request) (ret : Int) :
    List (Option PlayerAgent) :=
  let mgr := mgr.answered req ret
  match req.kind with
  | .getRole => mgr.loginLoadedPointers env req.session ret
  | .insertRole => mgr.loginInsertedPointers req.session ret
  | .updateRole retry => mgr.logoutUpdatedPointers req.session retry ret

end ZoneAgentMgr

/-- The pointers that `GetPlayerAgent()` returns and the code dereferences while it handles an event. -/
def dereferenced (env : ZoneEnv) (mgr : ZoneAgentMgr) : ZoneEvent → List (Option PlayerAgent)
  | .gateMessage src ggc data => mgr.gateMessagePointers env src ggc data
  | .response req ret => if req ∈ mgr.requests then mgr.responsePointers env req ret else []

/-- A session that plays, went offline or is being created or saved has a player. -/
structure ZoneAgentMgr.Staffed (mgr : ZoneAgentMgr) : Prop where
  sessions : ∀ s, (mgr.sessions s).state = .playing ∨ (mgr.sessions s).state = .offline →
    (mgr.sessions s).player.isSome
  writes : ∀ req ∈ mgr.requests, req.kind ≠ .getRole → (mgr.sessions req.session).player.isSome
  mapped : ∀ {zone uid s}, mgr.mpSessions zone uid = some s → s < mgr.created
  asked : ∀ req ∈ mgr.requests, req.session < mgr.created

namespace ZoneAgentMgr.Staffed

variable {env : ZoneEnv} {mgr next : ZoneAgentMgr} {s : Nat}

section

variable (staffed : mgr.Staffed)

include staffed

theorem emit (effect : ZoneEffect) : (mgr.emit effect).Staffed :=
  { staffed with }

theorem modify (change : Session → Session)
    (kept : (mgr.sessions s).player.isSome → (change (mgr.sessions s)).player.isSome)
    (fine : (change (mgr.sessions s)).state = .playing ∨ (change (mgr.sessions s)).state = .offline →
      (change (mgr.sessions s)).player.isSome) : (mgr.modify s change).Staffed where
  sessions x active := by
    by_cases same : x = s
    · subst same
      simpa [ZoneAgentMgr.modify] using fine (by simpa [ZoneAgentMgr.modify] using active)
    · simpa [ZoneAgentMgr.modify, same] using
        staffed.sessions x (by simpa [ZoneAgentMgr.modify, same] using active)
  writes req member kind := by
    have before := staffed.writes req member kind
    by_cases same : req.session = s
    · rw [same] at before
      simpa [ZoneAgentMgr.modify, same] using kept before
    · simpa [ZoneAgentMgr.modify, same] using before
  mapped := staffed.mapped
  asked := staffed.asked

theorem setState (fine : state = .playing ∨ state = .offline → (mgr.sessions s).player.isSome) :
    (mgr.setState s state).Staffed :=
  (staffed.modify (fun sson => { sson with state }) id fine).emit _

theorem attachPlayerAgent (player : PlayerAgent) : (mgr.attachPlayerAgent s player).Staffed :=
  (staffed.modify (fun sson => { sson with player := some player }) (fun _ => rfl) fun _ => rfl).emit _

theorem request (allocated : s < mgr.created)
    (fine : kind ≠ .getRole → (mgr.sessions s).player.isSome) : (mgr.request env kind s).1.Staffed := by
  unfold ZoneAgentMgr.request
  split
  · refine ⟨staffed.sessions, ?_, staffed.mapped, ?_⟩
    · intro req member other
      rcases List.mem_append.mp member with old | new
      · exact staffed.writes req old other
      · rw [List.mem_singleton.mp new] at other ⊢
        exact fine other
    · intro req member
      rcases List.mem_append.mp member with old | new
      · exact staffed.asked req old
      · rw [List.mem_singleton.mp new]
        exact allocated
  · exact { staffed with }

theorem responseClient (event : EventType) (param : Int) (data : Option Bytes) :
    (mgr.responseClient env s event param data).1.Staffed := by
  unfold ZoneAgentMgr.responseClient ZoneAgentMgr.sendToAgent
  dsimp only
  split
  · exact staffed.emit _
  · split
    · exact { staffed with }
    · exact staffed.emit _

private theorem logout (allocated : s < mgr.created) : (mgr.logout env s).Staffed := by
  unfold ZoneAgentMgr.logout
  split
  · next playing =>
    have player := staffed.sessions s (.inl playing)
    refine (staffed.setState fun _ => player).request allocated fun _ => ?_
    simpa [ZoneAgentMgr.setState, ZoneAgentMgr.modify] using player
  · exact staffed

private theorem getSession_allocated (found : mgr.getSession zone uid = some s) : s < mgr.created := by
  rcases Option.or_eq_some_iff.mp found with own | ⟨-, zero⟩
  · exact staffed.mapped own
  · exact staffed.mapped zero

theorem kick (kicked : mgr.kick env s reason = some (next, ret)) : next.Staffed := by
  unfold ZoneAgentMgr.kick at kicked
  split at kicked
  · cases kicked
    exact staffed
  · obtain ⟨target, found, same⟩ := Option.map_eq_some_iff.mp kicked
    cases same
    have allocated := staffed.getSession_allocated found
    have detached : ((mgr.emit (.kick s reason)).detachPlayer s).Staffed ∧
        target < ((mgr.emit (.kick s reason)).detachPlayer s).created := by
      unfold detachPlayer
      split
      · exact ⟨(staffed.emit _).emit _, allocated⟩
      · exact ⟨staffed.emit _, allocated⟩
    exact ((detached.1.logout detached.2).responseClient _ _ _).setState (by simp)

theorem loginReturn : (mgr.loginReturn s).Staffed := staffed.emit _

theorem enterPlaying : (mgr.enterPlaying s).Staffed := by
  refine ((staffed.attachPlayerAgent _).setState ?_).loginReturn
  simp [ZoneAgentMgr.attachPlayerAgent, ZoneAgentMgr.modify]

theorem loginFailed (failed : mgr.loginFailed env s = some next) : next.Staffed := by
  obtain ⟨⟨after, ret⟩, kicked, rfl⟩ := Option.map_eq_some_iff.mp failed
  exact (staffed.kick kicked).loginReturn

theorem login (allocated : s < mgr.created) : (mgr.login env s).Staffed := by
  have loading : ((mgr.emit (.loginBegin s (mgr.sessions s).uid)).setState s .loading).Staffed :=
    (staffed.emit _).setState (by simp)
  unfold ZoneAgentMgr.login loginCoroutine
  dsimp only
  split
  · exact loading.enterPlaying
  · split
    · exact loading.request allocated (by simp)
    · exact (loading.request allocated (by simp)).loginReturn

end

theorem created_player (mgr : ZoneAgentMgr) (s : Nat) (player : PlayerAgent) :
    (((mgr.setState s .creating).attachPlayerAgent s player).sessions s).player.isSome := by
  simp [ZoneAgentMgr.attachPlayerAgent, ZoneAgentMgr.modify]

section

variable (staffed : mgr.Staffed)

include staffed

theorem inserting (allocated : s < mgr.created) (player : PlayerAgent) :
    (((mgr.setState s .creating).attachPlayerAgent s player).request env .insertRole s).1.Staffed := by
  have creating : (mgr.setState s .creating).Staffed := staffed.setState (by simp)
  exact (creating.attachPlayerAgent player).request allocated fun _ => created_player mgr s player

theorem loginLoaded (allocated : s < mgr.created)
    (loaded : mgr.loginLoaded env s ret = some next) : next.Staffed := by
  unfold ZoneAgentMgr.loginLoaded at loaded
  dsimp only at loaded
  split at loaded
  · cases loaded
    exact staffed.loginReturn
  · split at loaded
    · split at loaded
      · cases loaded
        exact staffed.enterPlaying
      · exact staffed.loginFailed loaded
    · split at loaded
      · split at loaded
        · cases loaded
          exact staffed.inserting allocated _
        · exact (staffed.inserting allocated _).loginFailed loaded
      · exact staffed.loginFailed loaded

theorem loginInserted (player : (mgr.sessions s).player.isSome)
    (inserted : mgr.loginInserted env s ret = some next) : next.Staffed := by
  unfold ZoneAgentMgr.loginInserted at inserted
  split at inserted
  · cases inserted
    exact (staffed.setState fun _ => player).loginReturn
  · exact staffed.loginFailed inserted

theorem logoutUpdated (allocated : s < mgr.created)
    (player : (mgr.sessions s).player.isSome) (retry : Nat) (ret : Int) :
    (mgr.logoutUpdated env s retry ret).Staffed := by
  unfold ZoneAgentMgr.logoutUpdated
  split
  · exact staffed
  · split
    · exact staffed.request allocated fun _ => player
    · exact staffed

theorem answered (req : Request) (ret : Int) : (mgr.answered req ret).Staffed where
  sessions := staffed.sessions
  writes other member := staffed.writes other (List.mem_of_mem_erase member)
  mapped := staffed.mapped
  asked other member := staffed.asked other (List.mem_of_mem_erase member)

theorem newSession (zone : UInt32) (uid : UInt64) (gateid : Int) (cnnx : GateSSMsg) :
    (mgr.newSession zone uid gateid cnnx).Staffed where
  sessions s active := by
    by_cases new : s = mgr.created
    · simp [ZoneAgentMgr.newSession, new, Session.init] at active
    · simpa [ZoneAgentMgr.newSession, new] using
        staffed.sessions s (by simpa [ZoneAgentMgr.newSession, new] using active)
  writes req member kind := by
    have old : req.session ≠ mgr.created := Nat.ne_of_lt (staffed.asked req member)
    simpa [ZoneAgentMgr.newSession, old] using staffed.writes req member kind
  mapped found := by
    rcases newSession_mpSessions found with ⟨-, -, rfl⟩ | old
    · exact Nat.lt_succ_self _
    · exact Nat.lt_succ_of_lt (staffed.mapped old)
  asked req member := Nat.lt_succ_of_lt (staffed.asked req member)

theorem deleteSession (zone : UInt32) (uid : UInt64) :
    (mgr.deleteSession zone uid s).Staffed where
  sessions := staffed.sessions
  writes := staffed.writes
  mapped found := staffed.mapped (deleteSession_mpSessions found).2
  asked := staffed.asked

theorem dispatch (csmsg : CSMsg) : (mgr.dispatch env s csmsg).1.Staffed := by
  have sent (packed : Option Bytes) : (mgr.send env s packed).1.Staffed := by
    unfold send
    split <;> try exact staffed
    all_goals
      split
      · exact staffed
      · exact staffed.responseClient _ _ _
  have answers : (mgr.onRoleMsg env s csmsg).1.Staffed := by
    unfold onRoleMsg
    split
    · exact staffed
    · split
      · exact sent _
      · exact staffed
  have handled (result : ZoneAgentMgr × Int) (fine : result.1.Staffed) : (mgr.handle s result).1.Staffed := by
    unfold handle
    split
    · exact staffed
    · exact fine
    · exact staffed
  unfold ZoneAgentMgr.dispatch
  split
  · exact handled _ answers
  · split
    · exact handled _ staffed
    · exact staffed

end

private theorem logoutPointers (staffed : mgr.Staffed) : ∀ pointer ∈ mgr.logoutPointers s, pointer.isSome := by
  unfold ZoneAgentMgr.logoutPointers
  split
  · next playing => simpa using staffed.sessions s (.inl playing)
  · exact nofun

theorem kickPointers (staffed : mgr.Staffed) : ∀ pointer ∈ mgr.kickPointers s, pointer.isSome := by
  unfold ZoneAgentMgr.kickPointers
  split
  · exact nofun
  · cases mgr.getSession (mgr.sessions s).zone (mgr.sessions s).uid with
    | none => exact nofun
    | some target => exact staffed.logoutPointers

theorem loginLoadedPointers (staffed : mgr.Staffed) (allocated : s < mgr.created) (ret : Int) :
    ∀ pointer ∈ mgr.loginLoadedPointers env s ret, pointer.isSome := by
  unfold ZoneAgentMgr.loginLoadedPointers
  dsimp only
  split
  · exact nofun
  · split
    · split
      · exact nofun
      · exact staffed.kickPointers
    · split
      · intro pointer member
        rcases List.mem_append.mp member with own | failed
        · have same := own
          simp only [List.mem_cons, List.not_mem_nil, or_false, or_self] at same
          exact same ▸ created_player mgr s _
        · split at failed
          · cases failed
          · exact (staffed.inserting allocated _).kickPointers pointer failed
      · exact staffed.kickPointers

private theorem onRoleMsgPointers (player : (mgr.sessions s).player.isSome) (csmsg : CSMsg) :
    ∀ pointer ∈ mgr.onRoleMsgPointers s csmsg, pointer.isSome := by
  unfold ZoneAgentMgr.onRoleMsgPointers
  split
  · exact nofun
  · split
    · intro pointer member
      exact List.eq_of_mem_replicate member ▸ player
    · split
      · simpa using player
      · exact nofun

theorem gateMessagePointers (staffed : mgr.Staffed) (src : Int) (ggc : GateSSMsg) (data : Bytes) :
    ∀ pointer ∈ mgr.gateMessagePointers env src ggc data, pointer.isSome := by
  unfold ZoneAgentMgr.gateMessagePointers
  split
  · exact nofun
  · split
    · exact nofun
    · split
      · exact staffed.kickPointers
      · split
        · exact nofun
        · exact staffed.kickPointers
      · cases env.parseCSMsg data with
        | none => exact nofun
        | some csmsg =>
          simp only [Option.map_some, Option.getD_some, dispatchPointers]
          split
          · next playing => exact onRoleMsgPointers (staffed.sessions _ (.inl playing.2)) csmsg
          · exact nofun

theorem responsePointers (staffed : mgr.Staffed) (pending : req ∈ mgr.requests) (ret : Int) :
    ∀ pointer ∈ mgr.responsePointers env req ret, pointer.isSome := by
  have after := staffed.answered req ret
  unfold ZoneAgentMgr.responsePointers
  dsimp only
  split
  · exact after.loginLoadedPointers (staffed.asked req pending) ret
  · unfold loginInsertedPointers
    split
    · exact nofun
    · exact after.kickPointers
  · next kind =>
    have player := staffed.writes req pending (by simp [kind])
    unfold logoutUpdatedPointers
    split
    · exact nofun
    · split
      · intro pointer member
        exact List.mem_singleton.mp member ▸ player
      · exact nofun

end ZoneAgentMgr.Staffed

variable {env : ZoneEnv} {mgr next : ZoneAgentMgr} {event : ZoneEvent}

theorem Takes.staffed (takes : Takes env mgr event next) (staffed : mgr.Staffed) : next.Staffed := by
  cases takes with
  | ignore => exact staffed
  | dispatch => exact (staffed.emit _).dispatch _
  | create => exact (staffed.newSession _ _ _ _).login (Nat.lt_succ_self _)
  | @relogin ggc s after ret src data known event found kicked =>
    have again := staffed.kick kicked
    obtain ⟨target, serves, -⟩ := kick_serves env kicked
    have initialised : (after.modify s fun sson => sson.init (roleOf ggc) ggc).Staffed :=
      again.modify _ id (again.sessions s)
    have allocated : s < after.created := serves.created ▸ staffed.mapped found
    exact initialised.login allocated
  | stop known event found idx gate kicked => exact (staffed.kick kicked).deleteSession _ _
  | @update req retry ret pending kind =>
    exact (staffed.answered req ret).logoutUpdated (staffed.asked req pending)
      (staffed.writes req pending (by simp [kind])) retry ret
  | @resume req ret _ pending isLogin resumed =>
    have after := staffed.answered req ret
    unfold ZoneAgentMgr.resume at resumed
    split at resumed
    · exact after.loginLoaded (staffed.asked req pending) resumed
    · next kind => exact after.loginInserted (staffed.writes req pending (by simp [kind])) resumed
    · next kind => simp [kind, RequestKind.isLogin] at isLogin

theorem ZoneRun.staffed (run : ZoneRun env events mgr) : mgr.Staffed :=
  run.invariant (fun stepped staffed => (zoneStep_takes stepped).staffed staffed)
    ⟨by simp, by simp, by simp, by simp⟩

/-- A session that plays or went offline has its player, so has one whose role is being created
or saved, and no null `GetPlayerAgent()` is dereferenced whatever comes next. -/
theorem players_present {events : List ZoneEvent} (run : ZoneRun env events mgr) :
    (∀ s, (mgr.sessions s).state = .playing ∨ (mgr.sessions s).state = .offline →
      (mgr.sessions s).player.isSome) ∧
    (∀ req ∈ mgr.requests, req.kind ≠ .getRole → (mgr.sessions req.session).player.isSome) ∧
    ∀ event, ∀ pointer ∈ dereferenced env mgr event, pointer.isSome := by
  have staffed := run.staffed
  refine ⟨staffed.sessions, staffed.writes, ?_⟩
  intro event
  cases event with
  | gateMessage src ggc data => exact staffed.gateMessagePointers src ggc data
  | response req ret =>
    rw [dereferenced]
    split
    · next pending => exact staffed.responsePointers pending ret
    · exact nofun

def newcomerEvents : List ZoneEvent :=
  [.gateMessage 3 { event := .connected, idx := 1, uid := 7, area := 1 } [],
    .response { id := 0, kind := .getRole, session := 0, uid := getRoleID 7 1 } dataNoExists,
    .response { id := 1, kind := .insertRole, session := 0, uid := getRoleID 7 1 } dataOk]

def newcomerAgent : ZoneAgentMgr :=
  (runAll (zoneStep soleZone) {} newcomerEvents).get (by decide +kernel)

theorem newcomer_run : ZoneRun soleZone newcomerEvents newcomerAgent := steps_of_runAll (Option.some_get _).symm

theorem players_present_newcomer :
    (dereferenced soleZone newcomerAgent
        (.gateMessage 3 { event := .data, idx := 1, uid := 7, area := 1 } [1])).length = 3 ∧
      ∀ pointer ∈ dereferenced soleZone newcomerAgent
        (.gateMessage 3 { event := .data, idx := 1, uid := 7, area := 1 } [1]), pointer.isSome :=
  ⟨by decide +kernel, (players_present newcomer_run).2.2 _⟩

end Playground.Zone
