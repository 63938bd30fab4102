import Playground.Zone.Login

/-! The connections the agent counts on. -/

namespace Playground.Zone

open Framing Gate Transition ZoneAgentMgr

variable {env : ZoneEnv} {mgr next : ZoneAgentMgr}

def ZoneAgentMgr.Seated (mgr : ZoneAgentMgr) (s : Nat) : Prop :=
  (∃ zone uid, mgr.mpSessions zone uid = some s) ∧ (mgr.sessions s).state ≠ .kicking

def ZoneAgentMgr.Waits (mgr : ZoneAgentMgr) (s : Nat) : Prop :=
  ∃ req ∈ mgr.requests, req.kind.isLogin ∧ req.session = s

def ZoneAgentMgr.Targets (mgr : ZoneAgentMgr) (i : Nat) (uid : UInt64) : Prop :=
  ∃ s, (mgr.Seated s ∨ mgr.Waits s) ∧ (mgr.sessions s).idx = i ∧ (mgr.sessions s).accountid = uid

def ZoneEvent.Connecting (i : Nat) (uid : UInt64) : ZoneEvent → Prop
  | .gateMessage _ ggc _ => ggc.event = .connected ∧ ggc.idx = i ∧ ggc.uid = uid
  | .response _ _ => False

/-- An answer that puts a session back into play which was kicked and is still in a map. -/
def Awakens (mgr : ZoneAgentMgr) : ZoneEvent → Prop
  | .response req ret =>
    (∃ zone uid, mgr.mpSessions zone uid = some req.session) ∧ (mgr.sessions req.session).state = .kicking ∧
      Found req ret
  | .gateMessage _ _ _ => False

private theorem loginFailed_kicking (kicking : (mgr.sessions s).state = .kicking) :
    mgr.loginFailed env s = some (mgr.loginReturn s) := by
  simp [loginFailed, kick_kicking kicking]

theorem resume_kicking (isLogin : req.kind.isLogin) (failed : ¬ Found req ret)
    (kicking : (mgr.sessions req.session).state = .kicking) (resumed : mgr.resume env req ret = some next) :
    next.sessions = mgr.sessions := by
  have same : mgr.resume env req ret = some (mgr.loginReturn req.session) := by
    rcases @resume_failed env mgr _ _ isLogin failed with same | same
    · exact same
    · exact same.trans (loginFailed_kicking kicking)
  cases same.symm.trans resumed
  rfl

theorem Connects.seated (connects : Connects mgr ggc s next) (event : ggc.event = .connected)
    (seated : next.Seated t) :
    mgr.Seated t ∧ (next.sessions t).binding = (mgr.sessions t).binding ∨
      (ZoneEvent.gateMessage src ggc data).Connecting (next.sessions t).idx (next.sessions t).accountid := by
  by_cases own : t = s
  · subst own
    exact .inr ⟨event, connects.bound.1.symm, connects.bound.2.symm⟩
  · obtain ⟨⟨zone, uid, found⟩, live⟩ := seated
    have same := connects.others t own
    rw [same] at live ⊢
    refine .inl ⟨⟨⟨zone, uid, ?_⟩, live⟩, rfl⟩
    rwa [connects.maps zone uid fun sameZone sameUid => ?_] at found
    subst sameZone sameUid
    exact own (Option.some.inj (found.symm.trans connects.entered))

theorem Serves.seated (serves : Serves allowed t mgr next) (seated : next.Seated s)
    (own : s = t → (mgr.sessions t).state = .kicking → (next.sessions t).state = .kicking) :
    mgr.Seated s ∧ (next.sessions s).binding = (mgr.sessions s).binding := by
  obtain ⟨⟨zone, uid, found⟩, live⟩ := seated
  refine ⟨⟨⟨zone, uid, serves.maps ▸ found⟩, fun kicking => live ?_⟩, serves.bindings s⟩
  by_cases same : s = t
  · subst same
    exact own rfl kicking
  · rcases serves.others s same with unchanged | ⟨_, drops | ⟨playing, _⟩⟩
    · rw [unchanged, kicking]
    · rw [drops, kicking]
    · cases kicking.symm.trans playing

theorem Serves.seated_of_steady (serves : Serves allowed t mgr next)
    (steady : ∀ state, ¬ allowed (.setState t state)) (seated : next.Seated s) :
    mgr.Seated s ∧ (next.sessions s).binding = (mgr.sessions s).binding :=
  serves.seated seated fun _ kicking =>
    (serves.state.resolve_left fun ⟨state, fine⟩ => steady state fine).trans kicking

/-- A seated session was seated before, has just connected, or is brought back by an answer. -/
theorem Takes.seated (takes : Takes env mgr event next) (sound : mgr.Sound) (seated : next.Seated s) :
    mgr.Seated s ∧ (next.sessions s).binding = (mgr.sessions s).binding ∨
      event.Connecting (next.sessions s).idx (next.sessions s).accountid ∨
      Awakens mgr event ∧ mgr.Waits s ∧ (next.sessions s).binding = (mgr.sessions s).binding := by
  cases takes with
  | ignore why => exact .inl ⟨seated, rfl⟩
  | dispatch known event parsed found =>
    exact .inl ((dispatched_serves mgr).seated_of_steady (fun _ => id) seated)
  | create known event absent => exact ((create_connects absent).seated event seated).imp_right .inl
  | relogin known event found kicked =>
    exact ((relogin_connects sound found kicked).seated event seated).imp_right .inl
  | @stop _ t _ after _ _ known event found idx gate kicked =>
    obtain ⟨serves, kicking⟩ := kick_own sound found kicked
    obtain ⟨⟨zone, uid, still⟩, live⟩ := seated
    have before : after.Seated s := ⟨⟨zone, uid, (deleteSession_mpSessions still).2⟩, live⟩
    exact .inl (serves.seated before fun _ _ => kicking)
  | update pending kind =>
    exact .inl ((logoutUpdated_serves env).seated_of_steady (fun _ => id) seated)
  | @resume req ret _ pending isLogin resumed =>
    have serves := resume_serves isLogin (sound.asked pending isLogin).2 resumed
    by_cases woken : s = req.session ∧ (mgr.sessions req.session).state = .kicking ∧ Found req ret
    · obtain ⟨rfl, kicking, found⟩ := woken
      obtain ⟨⟨zone, uid, mapped⟩, _⟩ := seated
      have before : mgr.mpSessions zone uid = some req.session := serves.maps ▸ mapped
      have waits : mgr.Waits req.session := ⟨req, pending, isLogin, rfl⟩
      exact .inr (.inr ⟨⟨⟨zone, uid, before⟩, kicking, found⟩, waits, serves.bindings _⟩)
    · refine .inl (serves.seated seated fun own kicking => ?_)
      have failed : ¬ Found req ret := fun found => woken ⟨own, kicking, found⟩
      rw [resume_kicking isLogin failed kicking resumed]
      exact kicking

theorem Asks.waits (asks : Asks allowed mgr next) (waits : next.Waits s) :
    mgr.Waits s ∨ ∃ kind uid, allowed (.request kind s uid) ∧ kind.isLogin := by
  obtain ⟨req, member, isLogin, rfl⟩ := waits
  obtain ⟨added, grown, fine⟩ := asks.requests
  rw [grown] at member
  rcases List.mem_append.mp member with old | new
  · exact .inl ⟨req, old, isLogin, rfl⟩
  · exact .inr ⟨req.kind, req.uid, (fine req new).1, isLogin⟩

theorem Connects.waits (connects : Connects mgr ggc s next) (event : ggc.event = .connected)
    (waits : next.Waits t) :
    mgr.Waits t ∧ (next.sessions t).binding = (mgr.sessions t).binding ∨
      (ZoneEvent.gateMessage src ggc data).Connecting (next.sessions t).idx (next.sessions t).accountid := by
  by_cases own : t = s
  · subst own
    exact .inr ⟨event, connects.bound.1.symm, connects.bound.2.symm⟩
  · rcases connects.asks.waits waits with before | ⟨kind, uid, ofKick | ofLogin, isLogin⟩
    · exact .inl ⟨before, by rw [connects.others t own]⟩
    · exact absurd isLogin ofKick.not_isLogin
    · exact absurd (ofLogin isLogin).1 own

theorem ZoneAgentMgr.Waits.of_answered (waits : (mgr.answered req ret).Waits s) : mgr.Waits s := by
  obtain ⟨other, member, isLogin, same⟩ := waits
  exact ⟨other, List.mem_of_mem_erase member, isLogin, same⟩

theorem Serves.waits (serves : Serves allowed t mgr next)
    (update : ∀ kind r uid, allowed (.request kind r uid) → ¬ kind.isLogin) (waits : next.Waits s) :
    mgr.Waits s ∧ (next.sessions s).binding = (mgr.sessions s).binding := by
  refine ⟨((serves.asks fun _ => id).waits waits).resolve_right ?_, serves.bindings s⟩
  rintro ⟨kind, uid, fine, isLogin⟩
  exact update kind s uid fine isLogin

theorem Takes.waits (takes : Takes env mgr event next) (sound : mgr.Sound) (waits : next.Waits s) :
    mgr.Waits s ∧ (next.sessions s).binding = (mgr.sessions s).binding ∨
      event.Connecting (next.sessions s).idx (next.sessions s).accountid := by
  cases takes with
  | ignore why => exact .inl ⟨waits, rfl⟩
  | dispatch known event parsed found =>
    exact .inl ((dispatched_serves mgr).waits (fun _ _ _ => False.elim) waits)
  | create known event absent => exact (create_connects absent).waits event waits
  | relogin known event found kicked => exact (relogin_connects sound found kicked).waits event waits
  | @stop _ _ _ after _ _ known event found idx gate kicked =>
    have before : after.Waits s := waits
    exact .inl ((kick_own sound found kicked).1.waits (fun _ _ _ => ZoneEffect.OfKick.not_isLogin) before)
  | update pending kind =>
    have before := (logoutUpdated_serves env).waits (fun _ _ _ => ZoneEffect.OfUpdate.not_isLogin) waits
    exact .inl ⟨before.1.of_answered, before.2⟩
  | @resume req ret _ pending isLogin resumed =>
    have serves := resume_serves isLogin (sound.asked pending isLogin).2 resumed
    refine .inl ⟨?_, serves.bindings s⟩
    rcases (serves.asks fun _ => id).waits waits with before | ⟨kind, uid, ofLogin, asked⟩
    · exact before.of_answered
    · exact ⟨req, pending, isLogin, (ofLogin asked).1.symm⟩

theorem Takes.targets (takes : Takes env mgr event next) (sound : mgr.Sound)
    (targets : next.Targets i uid) : mgr.Targets i uid ∨ event.Connecting i uid := by
  obtain ⟨s, present, rfl, rfl⟩ := targets
  have kept : (mgr.Seated s ∨ mgr.Waits s) → (next.sessions s).binding = (mgr.sessions s).binding →
      mgr.Targets (next.sessions s).idx (next.sessions s).accountid := fun before same =>
    ⟨s, before, (congrArg Binding.idx same).symm, (congrArg Binding.accountid same).symm⟩
  rcases present with seated | waits
  · rcases takes.seated sound seated with ⟨before, same⟩ | connecting | ⟨_, waits, same⟩
    · exact .inl (kept (.inl before) same)
    · exact .inr connecting
    · exact .inl (kept (.inr waits) same)
  · rcases takes.waits sound waits with ⟨before, same⟩ | connecting
    · exact .inl (kept (.inr before) same)
    · exact .inr connecting

theorem Serves.posted (serves : Serves allowed s mgr next) (member : post ∈ next.posted dst) :
    post ∈ mgr.posted dst ∨ post.1.idx = (mgr.sessions s).idx ∧ post.1.uid = (mgr.sessions s).accountid := by
  obtain ⟨sent, grown, own⟩ := serves.posts dst
  rw [grown] at member
  exact (List.mem_append.mp member).imp_right fun new => (own post new).2

theorem Connects.posted (connects : Connects mgr ggc s next) (event : ggc.event = .connected)
    (member : post ∈ next.posted dst) :
    post ∈ mgr.posted dst ∨ mgr.Targets post.1.idx post.1.uid ∨
      (ZoneEvent.gateMessage src ggc data).Connecting post.1.idx post.1.uid := by
  obtain ⟨sent, grown, own⟩ := connects.posts dst
  rw [grown] at member
  refine (List.mem_append.mp member).imp_right fun new => ?_
  rcases own post new with ⟨found, live, idx, account⟩ | ⟨idx, account⟩
  · exact .inl ⟨s, .inl ⟨⟨_, _, found⟩, live⟩, idx.symm, account.symm⟩
  · exact .inr ⟨event, idx.symm, account.symm⟩

private theorem dispatch_kicking (kicking : (mgr.sessions s).state = .kicking) :
    (mgr.dispatch env s csmsg).1 = mgr := by
  simp [dispatch, handle, kicking, apply_ite Prod.fst]

private theorem logoutUpdated_posted : (mgr.logoutUpdated env s retry ret).posted = mgr.posted := by
  unfold logoutUpdated request
  split_ifs <;> rfl

theorem Takes.posted (takes : Takes env mgr event next) (sound : mgr.Sound)
    (member : post ∈ next.posted dst) :
    post ∈ mgr.posted dst ∨ mgr.Targets post.1.idx post.1.uid ∨ event.Connecting post.1.idx post.1.uid := by
  cases takes with
  | ignore why => exact .inl member
  | @dispatch _ _ _ s _ known event parsed found =>
    by_cases kicking : (mgr.sessions s).state = .kicking
    · rw [dispatch_kicking (by exact kicking)] at member
      exact .inl member
    · refine ((dispatched_serves mgr).posted member).imp_right fun own => .inl ?_
      exact ⟨s, .inl ⟨⟨_, _, found⟩, kicking⟩, own.1.symm, own.2.symm⟩
  | create known event absent => exact (create_connects absent).posted event member
  | relogin known event found kicked => exact (relogin_connects sound found kicked).posted event member
  | @stop _ s _ after _ _ known event found idx gate kicked =>
    have before : post ∈ after.posted dst := member
    by_cases kicking : (mgr.sessions s).state = .kicking
    · cases (kick_kicking kicking).symm.trans kicked
      exact .inl before
    · refine ((kick_own sound found kicked).1.posted before).imp_right fun own => .inl ?_
      exact ⟨s, .inl ⟨⟨_, _, found⟩, kicking⟩, own.1.symm, own.2.symm⟩
  | update pending kind =>
    rw [logoutUpdated_posted] at member
    exact .inl member
  | @resume req ret _ pending isLogin resumed =>
    have serves := resume_serves isLogin (sound.asked pending isLogin).2 resumed
    refine (serves.posted member).imp_right fun own => .inl ?_
    exact ⟨req.session, .inr ⟨req, pending, isLogin, rfl⟩, own.1.symm, own.2.symm⟩

end Playground.Zone
