import Playground.Zone.Handler

/-! What the functions of the agent can do when they run for one session. -/

namespace Playground.Zone

open Framing Gate

/-- Who a session is and which connection it belongs to. -/
structure Binding where
  zone : UInt32
  gate : Int
  uid : UInt64
  accountid : UInt64
  area : UInt32
  idx : Nat
deriving DecidableEq

def Session.binding (sson : Session) : Binding where
  zone := sson.zone
  gate := sson.gate
  uid := sson.uid
  accountid := sson.accountid
  area := sson.area
  idx := sson.idx

def Session.Drops (before after : Session) : Prop :=
  after = before ∨ before.state = .playing ∧ after = { before with state := .offline }

theorem Session.Drops.trans {before middle : Session} (first : before.Drops middle)
    (second : middle.Drops after) : before.Drops after := by
  rcases first with rfl | ⟨playing, rfl⟩
  · exact second
  · rcases second with rfl | ⟨absurd, _⟩
    · exact .inr ⟨playing, rfl⟩
    · cases absurd

theorem Session.Drops.binding {before after : Session} (drops : before.Drops after) :
    after.binding = before.binding := by
  rcases drops with rfl | ⟨_, rfl⟩ <;> rfl

/-- The agent changes the state and the player of session `s` only, and does nothing but what is allowed. -/
structure Serves (allowed : ZoneEffect → Prop) (s : Nat) (mgr next : ZoneAgentMgr) : Prop where
  others : ∀ x, x ≠ s → next.sessions x = mgr.sessions x ∨
    allowed (.setState x .offline) ∧ (mgr.sessions x).Drops (next.sessions x)
  binding : (next.sessions s).binding = (mgr.sessions s).binding
  state : (∃ state, allowed (.setState s state)) ∨ (next.sessions s).state = (mgr.sessions s).state
  maps : next.mpSessions = mgr.mpSessions
  created : next.created = mgr.created
  objects : next.getObjects = mgr.getObjects
  calls : mgr.dbCalls ≤ next.dbCalls
  requests : ∃ added, next.requests = mgr.requests ++ added ∧
    added.Pairwise (fun early late => early.id < late.id) ∧ ∀ req ∈ added,
      allowed (.request req.kind req.session req.uid) ∧ mgr.dbCalls ≤ req.id ∧ req.id < next.dbCalls
  posts : ∀ dst, ∃ sent, next.posted dst = mgr.posted dst ++ sent ∧ ∀ post ∈ sent,
    dst = (mgr.sessions s).gate ∧ post.1.idx = (mgr.sessions s).idx ∧ post.1.uid = (mgr.sessions s).accountid
  log : ∃ effects, next.log = effects ++ mgr.log ∧ ∀ effect ∈ effects, allowed effect

namespace Serves

variable {allowed wider : ZoneEffect → Prop} {s : Nat} {mgr middle next : ZoneAgentMgr}

theorem refl (allowed : ZoneEffect → Prop) (s : Nat) (mgr : ZoneAgentMgr) : Serves allowed s mgr mgr where
  others x _ := .inl rfl
  binding := rfl
  state := .inr rfl
  maps := rfl
  created := rfl
  objects := rfl
  calls := Nat.le_refl _
  requests := ⟨[], by simp, .nil, by simp⟩
  posts dst := ⟨[], by simp, by simp⟩
  log := ⟨[], by simp, by simp⟩

theorem trans (first : Serves allowed s mgr middle) (second : Serves allowed s middle next) :
    Serves allowed s mgr next where
  others x other := by
    rcases first.others x other with same | ⟨fine, drops⟩
    · rw [← same]
      exact second.others x other
    · refine .inr ⟨fine, drops.trans ?_⟩
      exact (second.others x other).elim .inl (·.2)
  binding := second.binding.trans first.binding
  state := first.state.elim .inl fun same => second.state.imp_right (·.trans same)
  maps := second.maps.trans first.maps
  created := second.created.trans first.created
  objects := second.objects.trans first.objects
  calls := Nat.le_trans first.calls second.calls
  requests := by
    obtain ⟨early, firstAdded, earlySorted, earlyAllowed⟩ := first.requests
    obtain ⟨late, secondAdded, lateSorted, lateAllowed⟩ := second.requests
    refine ⟨early ++ late, by rw [secondAdded, firstAdded, List.append_assoc], ?_, ?_⟩
    · refine List.pairwise_append.mpr ⟨earlySorted, lateSorted, fun before old after new => ?_⟩
      exact Nat.lt_of_lt_of_le (earlyAllowed before old).2.2 (lateAllowed after new).2.1
    · intro req member
      rcases List.mem_append.mp member with old | new
      · obtain ⟨fine, lower, upper⟩ := earlyAllowed req old
        exact ⟨fine, lower, Nat.lt_of_lt_of_le upper second.calls⟩
      · obtain ⟨fine, lower, upper⟩ := lateAllowed req new
        exact ⟨fine, Nat.le_trans first.calls lower, upper⟩
  posts dst := by
    obtain ⟨early, firstSent, earlyOwn⟩ := first.posts dst
    obtain ⟨late, secondSent, lateOwn⟩ := second.posts dst
    have gate : (middle.sessions s).gate = (mgr.sessions s).gate := congrArg Binding.gate first.binding
    have idx : (middle.sessions s).idx = (mgr.sessions s).idx := congrArg Binding.idx first.binding
    have account : (middle.sessions s).accountid = (mgr.sessions s).accountid :=
      congrArg Binding.accountid first.binding
    refine ⟨early ++ late, by rw [secondSent, firstSent, List.append_assoc], ?_⟩
    intro post member
    rcases List.mem_append.mp member with old | new
    · exact earlyOwn post old
    · have own := lateOwn post new
      rwa [gate, idx, account] at own
  log := by
    obtain ⟨early, firstLog, earlyAllowed⟩ := first.log
    obtain ⟨late, secondLog, lateAllowed⟩ := second.log
    refine ⟨late ++ early, by rw [secondLog, firstLog, List.append_assoc], ?_⟩
    intro effect member
    rcases List.mem_append.mp member with new | old
    · exact lateAllowed effect new
    · exact earlyAllowed effect old

theorem weaken (serves : Serves allowed s mgr next) (subset : ∀ effect, allowed effect → wider effect) :
    Serves wider s mgr next where
  others x other := (serves.others x other).imp_right fun ⟨fine, drops⟩ => ⟨subset _ fine, drops⟩
  binding := serves.binding
  state := serves.state.imp_left fun ⟨state, fine⟩ => ⟨state, subset _ fine⟩
  maps := serves.maps
  created := serves.created
  objects := serves.objects
  calls := serves.calls
  requests := by
    obtain ⟨added, same, sorted, fine⟩ := serves.requests
    exact ⟨added, same, sorted, fun req member => ⟨subset _ (fine req member).1, (fine req member).2⟩⟩
  posts := serves.posts
  log := by
    obtain ⟨effects, same, fine⟩ := serves.log
    exact ⟨effects, same, fun effect member => subset _ (fine effect member)⟩

theorem uid_eq (serves : Serves allowed s mgr next) : (next.sessions s).uid = (mgr.sessions s).uid :=
  congrArg Binding.uid serves.binding

end Serves

structure Asks (allowed : ZoneEffect → Prop) (mgr next : ZoneAgentMgr) : Prop where
  calls : mgr.dbCalls ≤ next.dbCalls
  requests : ∃ added, next.requests = mgr.requests ++ added ∧ ∀ req ∈ added,
    allowed (.request req.kind req.session req.uid) ∧ mgr.dbCalls ≤ req.id

theorem Serves.asks (serves : Serves allowed s mgr next)
    (subset : ∀ effect, allowed effect → wider effect) : Asks wider mgr next := by
  obtain ⟨added, grown, _, fine⟩ := serves.requests
  exact ⟨serves.calls, added, grown, fun req member => ⟨subset _ (fine req member).1, (fine req member).2.1⟩⟩

theorem Asks.trans (first : Asks allowed mgr middle) (second : Asks allowed middle next) :
    Asks allowed mgr next := by
  obtain ⟨early, firstAdded, earlyAllowed⟩ := first.requests
  obtain ⟨late, secondAdded, lateAllowed⟩ := second.requests
  refine ⟨Nat.le_trans first.calls second.calls, early ++ late, ?_, ?_⟩
  · rw [secondAdded, firstAdded, List.append_assoc]
  · intro req member
    rcases List.mem_append.mp member with old | new
    · exact earlyAllowed req old
    · exact ⟨(lateAllowed req new).1, Nat.le_trans first.calls (lateAllowed req new).2⟩

section Emits

variable {mgr middle next : ZoneAgentMgr}

def ZoneAgentMgr.Emits (mgr next : ZoneAgentMgr) (effect : ZoneEffect) : Prop :=
  ∃ effects, next.log = effects ++ mgr.log ∧ effect ∈ effects

theorem ZoneAgentMgr.Emits.mem (emits : mgr.Emits next effect) (grown : next.log = added ++ mgr.log) :
    effect ∈ added := by
  obtain ⟨effects, log, member⟩ := emits
  have same : effects = added := List.append_cancel_right (log.symm.trans grown)
  exact same ▸ member

theorem Serves.emits_allowed (serves : Serves allowed s mgr next) (emits : mgr.Emits next effect) :
    allowed effect := by
  obtain ⟨added, grown, fine⟩ := serves.log
  exact fine effect (emits.mem grown)

theorem emit_emits : mgr.Emits (mgr.emit effect) effect := ⟨[effect], rfl, by simp⟩

theorem Serves.emits_before (serves : Serves allowed s middle next) (emits : mgr.Emits middle effect) :
    mgr.Emits next effect := by
  obtain ⟨added, grown, _⟩ := serves.log
  obtain ⟨effects, log, member⟩ := emits
  exact ⟨added ++ effects, by rw [grown, log, List.append_assoc], List.mem_append_right added member⟩

theorem not_emits_self : ¬ mgr.Emits mgr effect := fun emits => List.not_mem_nil (emits.mem rfl)

end Emits

namespace ZoneAgentMgr

variable {allowed : ZoneEffect → Prop} (mgr : ZoneAgentMgr) (s : Nat)

theorem emit_serves (fine : allowed effect) : Serves allowed s mgr (mgr.emit effect) :=
  { Serves.refl allowed s mgr with log := ⟨[effect], rfl, by simpa using fine⟩ }

theorem modify_serves (change : Session → Session) (kept : ∀ sson, (change sson).binding = sson.binding)
    (state : (∃ state, allowed (.setState s state)) ∨ ∀ sson, (change sson).state = sson.state) :
    Serves allowed s mgr (mgr.modify s change) :=
  { Serves.refl allowed s mgr with
    others := fun x other => .inl (by simp [modify, other])
    binding := by simp [modify, kept]
    state := state.imp_right fun same => by simp [modify, same] }

theorem setState_serves (state : SessionState) (fine : allowed (.setState s state)) :
    Serves allowed s mgr (mgr.setState s state) := by
  have changed : Serves allowed s mgr (mgr.modify s fun sson => { sson with state }) :=
    modify_serves mgr s _ (fun _ => rfl) (.inl ⟨state, fine⟩)
  exact changed.trans (emit_serves _ s fine)

theorem attachPlayerAgent_serves (player : PlayerAgent) (fine : allowed (.attach s player)) :
    Serves allowed s mgr (mgr.attachPlayerAgent s player) := by
  have changed : Serves allowed s mgr (mgr.modify s fun sson => { sson with player := some player }) :=
    modify_serves mgr s _ (fun _ => rfl) (.inr fun _ => rfl)
  exact changed.trans (emit_serves _ s fine)

theorem request_serves (env : ZoneEnv) (kind : RequestKind)
    (fine : allowed (.request kind t (mgr.sessions t).uid)) :
    Serves allowed s mgr (mgr.request env kind t).1 := by
  unfold request
  split
  · exact { Serves.refl allowed s mgr with
      calls := Nat.le_succ _
      requests := ⟨_, rfl, by simp, by simpa [emit] using fine⟩
      log := ⟨[.request kind t (mgr.sessions t).uid], rfl, by simpa using fine⟩ }
  · exact { Serves.refl allowed s mgr with
      calls := Nat.le_succ _
      requests := ⟨[], by simp, .nil, by simp⟩ }

private theorem sendToAgent_serves (env : ZoneEnv) (own : dst = (mgr.sessions s).gate)
    (idx : msg.idx = (mgr.sessions s).idx) (account : msg.uid = (mgr.sessions s).accountid) :
    Serves allowed s mgr (mgr.sendToAgent env dst msg data).1 := by
  unfold sendToAgent
  split
  · exact Serves.refl allowed s mgr
  · split
    · exact { Serves.refl allowed s mgr with
        posts := fun channel => by
          by_cases same : channel = dst
          · subst same
            exact ⟨[(msg, data.getD [])], by simp, by simp [own, idx, account]⟩
          · exact ⟨[], by simp [same], by simp⟩ }
    · exact Serves.refl allowed s mgr

theorem responseClient_serves (env : ZoneEnv) (fine : ∀ gate msg, allowed (.respond s gate msg data)) :
    Serves allowed s mgr (mgr.responseClient env s event param data).1 :=
  (emit_serves mgr s (fine _ _)).trans (sendToAgent_serves _ s env rfl rfl rfl)

theorem logout_serves (env : ZoneEnv) (t : Nat) (offline : allowed (.setState t .offline))
    (update : allowed (.request (.updateRole 3) t (mgr.sessions t).uid)) :
    Serves allowed s mgr (mgr.logout env t) := by
  unfold logout
  split
  next playing =>
    have dropped : Serves allowed s mgr (mgr.setState t .offline) :=
      { Serves.refl allowed s mgr with
        others := fun x _ => by
          by_cases same : x = t
          · subst same
            exact .inr ⟨offline, .inr ⟨playing, by simp [setState, modify, emit]⟩⟩
          · exact .inl (by simp [setState, modify, emit, same])
        binding := by
          by_cases same : s = t
          · subst same
            simp [setState, modify, emit, Session.binding]
          · simp [setState, modify, emit, same]
        state := by
          by_cases same : s = t
          · exact .inl ⟨.offline, same ▸ offline⟩
          · exact .inr (by simp [setState, modify, emit, same])
        log := ⟨[.setState t .offline], rfl, by simpa using offline⟩ }
    refine dropped.trans (request_serves _ s env _ ?_)
    simpa [setState, modify, emit] using update
  next => exact Serves.refl allowed s mgr

theorem detachPlayer_serves (fine : allowed (.detach s)) : Serves allowed s mgr (mgr.detachPlayer s) := by
  unfold detachPlayer
  split
  · exact emit_serves mgr s fine
  · exact Serves.refl allowed s mgr

end ZoneAgentMgr

/-- The effects of kicking session `s`, which logs `target` out. -/
def ZoneEffect.OfKick (s target : Nat) (reason : KickReason) : ZoneEffect → Prop
  | .setState t state => t = target ∧ state = .offline ∨ t = s ∧ state = .kicking
  | .kick t why => t = s ∧ why = reason
  | .detach t => t = s
  | .respond t _ _ _ => t = s
  | .request (.updateRole _) _ _ => True
  | _ => False

/-- The effects of the Login coroutine, which kicks only when it `failed`, and creates when it `inserts`. -/
def ZoneEffect.OfLogin (s : Nat) (uid : UInt64) (failed inserts : Prop) : ZoneEffect → Prop
  | .setState t state => t = s ∨ state = .offline ∧ failed
  | .attach t player => t = s ∧ player.rid = uid
  | .request kind t role => kind.isLogin → t = s ∧ role = uid ∧ (kind = .insertRole → inserts)
  | .loginEnd t role => t = s ∧ role = uid
  | .kick t reason => t = s ∧ (reason = .dbErr → failed)
  | .detach t => t = s
  | .respond t _ _ _ => t = s
  | _ => False

def ZoneEffect.OfUpdate : ZoneEffect → Prop
  | .request (.updateRole _) _ _ => True
  | _ => False

theorem ZoneEffect.OfKick.ofLogin {effect : ZoneEffect} (ofKick : effect.OfKick s target reason)
    (failure : failed) : effect.OfLogin s uid failed inserts := by
  cases effect with
  | setState t state => exact ofKick.elim (fun dropped => .inr ⟨dropped.2, failure⟩) fun own => .inl own.1
  | attach | loginBegin | loginEnd => exact ofKick.elim
  | kick t cause => exact ⟨ofKick.1, fun _ => failure⟩
  | request kind t role =>
    cases kind with
    | updateRole retry => exact fun isLogin => nomatch isLogin
    | _ => exact ofKick.elim
  | _ => exact ofKick

namespace ZoneAgentMgr

variable (env : ZoneEnv) {mgr next : ZoneAgentMgr} {s : Nat}

@[simp] theorem setState_state : ((mgr.setState s state).sessions s).state = state := by
  simp [setState, modify, emit]

theorem kick_serves (kicked : mgr.kick env s reason = some (next, ret)) :
    ∃ target, Serves (ZoneEffect.OfKick s target reason) s mgr next ∧ (next.sessions s).state = .kicking ∧
      (target = s ∨ mgr.getSession (mgr.sessions s).zone (mgr.sessions s).uid = some target) := by
  unfold kick at kicked
  split at kicked
  next already =>
    cases kicked
    exact ⟨s, Serves.refl _ s mgr, already, .inl rfl⟩
  next =>
    obtain ⟨target, found, made⟩ := Option.map_eq_some_iff.mp kicked
    cases made
    have begun : Serves (ZoneEffect.OfKick s target reason) s mgr ((mgr.emit (.kick s reason)).detachPlayer s) :=
      (emit_serves mgr s ⟨rfl, rfl⟩).trans (detachPlayer_serves _ s rfl)
    have loggedOut := begun.trans (logout_serves _ s env target (.inl ⟨rfl, rfl⟩) trivial)
    refine ⟨target, loggedOut.trans ?_, setState_state, .inr found⟩
    exact (responseClient_serves _ s env fun _ _ => rfl).trans (setState_serves _ s .kicking (.inr ⟨rfl, rfl⟩))

theorem loginReturn_serves (same : (mgr.sessions s).uid = uid) :
    Serves (ZoneEffect.OfLogin s uid failed inserts) s mgr (mgr.loginReturn s) :=
  emit_serves mgr s ⟨rfl, same⟩

theorem enterPlaying_serves (same : (mgr.sessions s).uid = uid) :
    Serves (ZoneEffect.OfLogin s uid failed inserts) s mgr (mgr.enterPlaying s) := by
  have attached : Serves (ZoneEffect.OfLogin s uid failed inserts) s mgr
      (mgr.attachPlayerAgent s { rid := (mgr.sessions s).uid }) :=
    attachPlayerAgent_serves mgr s _ ⟨rfl, same⟩
  have playing := attached.trans (setState_serves _ s .playing (.inl rfl))
  exact playing.trans (loginReturn_serves (playing.uid_eq.trans same))

theorem loginFailed_serves (failure : failed) (same : (mgr.sessions s).uid = uid)
    (ended : mgr.loginFailed env s = some next) :
    Serves (ZoneEffect.OfLogin s uid failed inserts) s mgr next := by
  obtain ⟨⟨after, ret⟩, kicked, rfl⟩ := Option.map_eq_some_iff.mp ended
  obtain ⟨target, serves, _⟩ := kick_serves env kicked
  have quiet : Serves (ZoneEffect.OfLogin s uid failed inserts) s mgr after :=
    serves.weaken fun _ ofKick => ofKick.ofLogin failure
  exact quiet.trans (loginReturn_serves (quiet.uid_eq.trans same))

theorem loginCoroutine_serves (same : (mgr.sessions s).uid = uid) :
    Serves (ZoneEffect.OfLogin s uid failed inserts) s mgr (mgr.loginCoroutine env s) := by
  have loading : Serves (ZoneEffect.OfLogin s uid failed inserts) s mgr (mgr.setState s .loading) :=
    setState_serves mgr s .loading (.inl rfl)
  refine loading.trans ?_
  have here := loading.uid_eq.trans same
  dsimp only [loginCoroutine]
  generalize mgr.setState s .loading = loaded at here
  split
  · exact enterPlaying_serves here
  · have asked : Serves (ZoneEffect.OfLogin s uid failed inserts) s loaded (loaded.request env .getRole s).1 :=
      request_serves loaded s env _ fun _ => ⟨rfl, here, nofun⟩
    split
    · exact asked
    · exact asked.trans (loginReturn_serves (asked.uid_eq.trans here))

theorem request_sessions : (mgr.request env kind s).1.sessions = mgr.sessions := by
  unfold request
  split <;> rfl

private theorem request_refused (refused : (mgr.request env kind s).2 = false) :
    env.dbAccepts mgr.dbCalls = false := by
  unfold request at refused
  split at refused
  · cases refused
  · exact Bool.eq_false_of_not_eq_true ‹_›

theorem loginLoaded_serves (same : (mgr.sessions s).uid = uid) (cached : ret = dataOk → mgr.getObjects uid)
    (failure : 0 < ret → (ret = dataNoExists → env.dbAccepts mgr.dbCalls = false) → failed)
    (creates : ret = dataNoExists → inserts) (loaded : mgr.loginLoaded env s ret = some next) :
    Serves (ZoneEffect.OfLogin s uid failed inserts) s mgr next := by
  dsimp only [loginLoaded] at loaded
  split at loaded
  next =>
    cases loaded
    exact loginReturn_serves same
  next nonneg =>
  split at loaded
  next found =>
    rw [same, if_pos (cached found)] at loaded
    cases loaded
    exact enterPlaying_serves same
  next notOk =>
  have positive : 0 < ret := by unfold dataOk at notOk; omega
  split at loaded
  next missing =>
    have creating : Serves (ZoneEffect.OfLogin s uid failed inserts) s mgr (mgr.setState s .creating) :=
      setState_serves mgr s _ (.inl rfl)
    have attached := creating.trans
      (attachPlayerAgent_serves _ s { rid := (mgr.sessions s).uid } ⟨rfl, same⟩)
    have asked := attached.trans
      (request_serves _ s env .insertRole fun _ => ⟨rfl, attached.uid_eq.trans same, fun _ => creates missing⟩)
    split at loaded
    next =>
      cases loaded
      exact asked
    next refused =>
      have full := request_refused env (Bool.eq_false_of_not_eq_true refused)
      have failure := failure positive fun _ => full
      exact asked.trans (loginFailed_serves env failure (asked.uid_eq.trans same) loaded)
  next present =>
    exact loginFailed_serves env (failure positive fun missing => absurd missing present) same loaded

theorem loginInserted_serves (same : (mgr.sessions s).uid = uid) (failure : ret ≠ dataOk → failed)
    (inserted : mgr.loginInserted env s ret = some next) :
    Serves (ZoneEffect.OfLogin s uid failed inserts) s mgr next := by
  unfold loginInserted at inserted
  split at inserted
  next =>
    cases inserted
    have playing : Serves (ZoneEffect.OfLogin s uid failed inserts) s mgr (mgr.setState s .playing) :=
      setState_serves mgr s _ (.inl rfl)
    exact playing.trans (loginReturn_serves (playing.uid_eq.trans same))
  next notOk => exact loginFailed_serves env (failure notOk) same inserted

theorem logoutUpdated_serves : Serves ZoneEffect.OfUpdate s mgr (mgr.logoutUpdated env s retry ret) := by
  unfold logoutUpdated
  split
  · exact Serves.refl _ s mgr
  · split
    · exact request_serves mgr s env _ trivial
    · exact Serves.refl _ s mgr

end ZoneAgentMgr

end Playground.Zone
