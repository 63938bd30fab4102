import Playground.Zone.Step

/-! Which connection a session stands for, and which account a login touches. -/

namespace Playground.Zone

open Framing Gate Transition ZoneAgentMgr

variable {env : ZoneEnv} {mgr next : ZoneAgentMgr}

structure Peer where
  gate : Int
  idx : Nat
  accountid : UInt64
deriving DecidableEq

def Binding.peer (binding : Binding) : Peer where
  gate := binding.gate
  idx := binding.idx
  accountid := binding.accountid

abbrev Peers := UInt32 → UInt64 → Option Peer

def Peers.set (peers : Peers) (zone : UInt32) (uid : UInt64) (peer : Option Peer) : Peers :=
  fun z r => if z = zone ∧ r = uid then peer else peers z r

/-- A session keeps the gate of the message that opened it, and takes index and account from the latest. -/
def rebind (env : ZoneEnv) (peers : Peers) : ZoneEvent → Peers
  | .response _ _ => peers
  | .gateMessage src ggc _ =>
    let old := peers ggc.area (roleOf ggc)
    if env.areas ggc.area then
      match ggc.event with
      | .connected =>
        peers.set ggc.area (roleOf ggc)
          (some { gate := (old.map Peer.gate).getD src, idx := ggc.idx, accountid := ggc.uid })
      | .close =>
        if old.any fun peer => peer.idx = ggc.idx ∧ peer.gate = src then peers.set ggc.area (roleOf ggc) none
        else peers
      | .data => peers
    else peers

def peersOf (env : ZoneEnv) (events : List ZoneEvent) : Peers := events.foldl (rebind env) fun _ _ => none

def ZoneAgentMgr.peers (mgr : ZoneAgentMgr) : Peers :=
  fun zone uid => (mgr.mpSessions zone uid).map fun s => (mgr.sessions s).binding.peer

theorem ZoneAgentMgr.peers_of_found (found : mgr.mpSessions zone uid = some s) :
    mgr.peers zone uid = some (mgr.sessions s).binding.peer := by
  simp [peers, found]

theorem Serves.peers_eq (serves : Serves allowed s mgr next) : next.peers = mgr.peers := by
  funext zone uid
  simp [peers, serves.maps, serves.bindings]

theorem login_peers : (mgr.login env s).peers = mgr.peers := (login_serves env rfl).peers_eq

theorem newSession_peers (sound : mgr.Sound) :
    (mgr.newSession zone uid src ggc).peers =
      mgr.peers.set zone uid (some { gate := src, idx := ggc.idx, accountid := ggc.uid }) := by
  funext z r
  by_cases own : z = zone ∧ r = uid
  · obtain ⟨rfl, rfl⟩ := own
    simp [peers, Peers.set, newSession, Session.init, Session.binding, Binding.peer]
  · have same : (mgr.newSession zone uid src ggc).mpSessions z r = mgr.mpSessions z r := by
      by_cases sameZone : z = zone
      · subst sameZone
        simp [newSession, show r ≠ uid from fun sameUid => own ⟨rfl, sameUid⟩]
      · simp [newSession, sameZone]
    simp only [peers, Peers.set, own, if_false, same]
    refine Option.map_congr fun s found => ?_
    simp [newSession, Nat.ne_of_lt (sound.mapped found).1]

theorem init_peers (sound : mgr.Sound) (found : mgr.mpSessions zone uid = some s) :
    (mgr.modify s fun sson => sson.init uid ggc).peers =
      mgr.peers.set zone uid (some { gate := (mgr.sessions s).gate, idx := ggc.idx, accountid := ggc.uid }) := by
  funext z r
  by_cases own : z = zone ∧ r = uid
  · obtain ⟨rfl, rfl⟩ := own
    simp [peers, Peers.set, ZoneAgentMgr.modify, found, Session.init, Session.binding, Binding.peer]
  · simp only [peers, Peers.set, own, if_false]
    refine Option.map_congr fun t other => ?_
    have distinct : t ≠ s := by
      intro same
      obtain ⟨_, inZone, ofRole⟩ := sound.mapped found
      obtain ⟨_, inOther, ofOther⟩ := sound.mapped (same ▸ other)
      exact own ⟨inOther.symm.trans inZone, ofOther.symm.trans ofRole⟩
    simp [ZoneAgentMgr.modify, distinct]

private theorem deleteSession_peers : (mgr.deleteSession zone uid s).peers = mgr.peers.set zone uid none := by
  funext z r
  by_cases sameZone : z = zone
  · subst sameZone
    by_cases sameUid : r = uid
    · simp [peers, Peers.set, deleteSession, emit, sameUid]
    · simp [peers, Peers.set, deleteSession, emit, sameUid]
  · simp [peers, Peers.set, deleteSession, emit, sameZone]

private theorem not_any_of_differs
    (differs : ∀ s, mgr.mpSessions zone uid = some s → (mgr.sessions s).idx = idx →
      (mgr.sessions s).gate ≠ src) :
    ¬ (mgr.peers zone uid).any fun peer => peer.idx = idx ∧ peer.gate = src := by
  cases found : mgr.mpSessions zone uid with
  | none => simp [peers, found]
  | some s =>
    have other := differs s found
    simpa [peers, found, Session.binding, Binding.peer] using other

theorem Takes.peers_eq (takes : Takes env mgr event next) (sound : mgr.Sound) :
    next.peers = rebind env mgr.peers event := by
  cases takes with
  | ignore why =>
    rcases why with unknown | ⟨event, differs⟩ | ⟨event, _⟩
    · simp [rebind, unknown]
    · simp only [rebind, event, if_neg (not_any_of_differs differs), ite_self]
    · simp [rebind, event]
  | dispatch known event parsed found =>
    rw [(dispatched_serves mgr).peers_eq]
    simp [rebind, event]
  | create known event absent =>
    rw [login_peers, newSession_peers sound]
    simp [rebind, known, event, peers, absent]
  | @relogin ggc s after _ _ _ known event found kicked =>
    obtain ⟨serves, _⟩ := kick_own sound found kicked
    rw [login_peers, init_peers (sound.kick kicked) (serves.maps ▸ found), serves.peers_eq]
    have gate : (after.sessions s).gate = (mgr.sessions s).gate := congrArg Binding.gate serves.binding
    simp [rebind, known, event, peers, found, Session.binding, Binding.peer, gate]
  | stop known event found idx gate kicked =>
    obtain ⟨serves, _⟩ := kick_own sound found kicked
    rw [deleteSession_peers, serves.peers_eq]
    simp [rebind, known, event, peers, found, Session.binding, Binding.peer, idx, gate]
  | update pending kind => exact (logoutUpdated_serves env).peers_eq
  | resume pending isLogin resumed =>
    exact (resume_serves isLogin (sound.asked pending isLogin).2 resumed).peers_eq

theorem ZoneRun.peers_eq (run : ZoneRun env events mgr) : mgr.peers = peersOf env events := by
  have follows : ∀ {first last : ZoneAgentMgr} {events : List ZoneEvent},
      Steps (fun mgr event next => zoneStep env mgr event = some next) first events last →
      first.Sound → last.peers = events.foldl (rebind env) first.peers := by
    intro first last events run
    induction run with
    | nil => exact fun _ => rfl
    | cons step rest ih =>
      intro sound
      have takes := zoneStep_takes step
      rw [ih (takes.sound sound), takes.peers_eq sound, List.foldl_cons]
  exact follows run sound_start

theorem dispatched_iff (stepped : zoneStep env mgr (.gateMessage src ggc data) = some next)
    (event : ggc.event = .data) :
    mgr.Emits next (.dispatch s src ggc) ↔
      env.areas ggc.area ∧ (env.parseCSMsg data).isSome ∧ mgr.mpSessions ggc.area (roleOf ggc) = some s := by
  have takes := zoneStep_takes stepped
  cases takes with
  | ignore why =>
    refine ⟨fun emits => absurd emits not_emits_self, fun ⟨known, parsed, found⟩ => ?_⟩
    rcases why with unknown | ⟨closed, _⟩ | ⟨_, unparsed | absent⟩
    · simp [unknown] at known
    · cases event.symm.trans closed
    · simp [unparsed] at parsed
    · simp [absent] at found
  | dispatch known _ parsed found =>
    constructor
    · intro emits
      obtain rfl : s = _ := (dispatched_serves mgr).emits_allowed emits
      exact ⟨known, by simp [parsed], found⟩
    · intro ⟨_, _, same⟩
      cases found.symm.trans same
      exact dispatch_serves.emits_before emit_emits
  | create known connected absent => cases event.symm.trans connected
  | relogin known connected found kicked => cases event.symm.trans connected
  | stop known closed found idx gate kicked => cases event.symm.trans closed

/-- In every state the agent reaches, data is dispatched to the owner of the connection it
came from exactly when the messages so far bind its role, if at all, to that connection. -/
theorem dispatch_reaches_owner_iff (run : ZoneRun env events mgr)
    (stepped : zoneStep env mgr (.gateMessage src ggc data) = some next) (event : ggc.event = .data) :
    (∀ s, mgr.Emits next (.dispatch s src ggc) →
      (mgr.sessions s).gate = src ∧ (mgr.sessions s).idx = ggc.idx ∧ (mgr.sessions s).accountid = ggc.uid) ↔
    (env.areas ggc.area → (env.parseCSMsg data).isSome →
      ∀ peer, peersOf env events ggc.area (roleOf ggc) = some peer →
        peer = { gate := src, idx := ggc.idx, accountid := ggc.uid }) := by
  rw [← run.peers_eq]
  constructor
  · intro owner known parsed peer bound
    obtain ⟨s, found, rfl⟩ := Option.map_eq_some_iff.mp bound
    obtain ⟨gate, idx, account⟩ := owner s ((dispatched_iff stepped event).mpr ⟨known, parsed, found⟩)
    simp [Session.binding, Binding.peer, gate, idx, account]
  · intro bound s emits
    obtain ⟨known, parsed, found⟩ := (dispatched_iff stepped event).mp emits
    have same := bound known parsed _ (peers_of_found found)
    simpa [Session.binding, Binding.peer] using same

def connects (idx : Nat) : ZoneEvent := .gateMessage 3 { event := .connected, idx, uid := 7, area := 1 } []

def fromSlot (idx : Nat) : GateSSMsg := { event := .data, idx, uid := 7, area := 1 }

/-- The account has connected in slot 1, and again in slot 2. -/
def reconnected : ZoneAgentMgr := (runAll (zoneStep soleZone) {} [connects 1, connects 2]).get (by decide)

theorem reconnected_run : ZoneRun soleZone [connects 1, connects 2] reconnected :=
  steps_of_runAll (Option.some_get _).symm

def commanded (idx : Nat) : Option ZoneAgentMgr :=
  zoneStep soleZone reconnected (.gateMessage 3 (fromSlot idx) [1])

theorem dispatch_reaches_owner_reconnected :
    peersOf soleZone [connects 1, connects 2] 1 (roleOf (fromSlot 2)) =
        some { gate := 3, idx := 2, accountid := 7 } ∧
      ∀ s, reconnected.Emits ((commanded 2).get (by decide)) (.dispatch s 3 (fromSlot 2)) →
        (reconnected.sessions s).gate = 3 ∧ (reconnected.sessions s).idx = 2 ∧
          (reconnected.sessions s).accountid = 7 := by
  have bound : peersOf soleZone [connects 1, connects 2] 1 (roleOf (fromSlot 2)) =
      some { gate := 3, idx := 2, accountid := 7 } := by decide
  refine ⟨bound, (dispatch_reaches_owner_iff reconnected_run (Option.some_get _).symm rfl).mpr ?_⟩
  intro _ _ peer same
  exact Option.some.inj (same.symm.trans bound)

/-- A command that was still under way from slot 1 is dispatched to the session, which is
bound to slot 2 by then. -/
theorem stale_data_dispatched :
    ZoneRun soleZone [connects 1, connects 2] reconnected ∧
      reconnected.Emits ((commanded 1).get (by decide)) (.dispatch 0 3 (fromSlot 1)) ∧
      (reconnected.sessions 0).idx = 2 := by
  refine ⟨reconnected_run, ?_, by decide⟩
  have found : reconnected.mpSessions 1 (roleOf (fromSlot 1)) = some 0 := by decide
  exact (dispatched_iff (Option.some_get _).symm rfl).mpr ⟨by decide, by decide, found⟩

/-- The role keeps its session, is not kicked, and is neither read nor created. -/
structure Spares (mgr : ZoneAgentMgr) (zone : UInt32) (rid : UInt64) (next : ZoneAgentMgr) : Prop where
  entry : next.mpSessions zone rid = mgr.mpSessions zone rid
  session : ∀ t, mgr.mpSessions zone rid = some t → next.sessions t = mgr.sessions t
  kick : ∀ t reason, mgr.mpSessions zone rid = some t → ¬ mgr.Emits next (.kick t reason)
  request : ∀ kind t, mgr.Emits next (.request kind t rid) → ¬ kind.isLogin
  attach : ∀ t player, mgr.Emits next (.attach t player) → player.rid ≠ rid

theorem Connects.spares (connects : Connects mgr ggc s next) (sound : mgr.Sound)
    (other : rid ≠ roleOf ggc) : Spares mgr zone rid next := by
  have distinct : ∀ t, mgr.mpSessions zone rid = some t → t ≠ s := by
    intro t found same
    obtain ⟨allocated, _, ofRole⟩ := sound.mapped found
    rcases connects.whose with own | ⟨_, fresh⟩
    · obtain ⟨_, _, ofOwn⟩ := sound.mapped own
      exact other (ofRole.symm.trans (same ▸ ofOwn))
    · omega
  refine ⟨connects.maps zone rid fun _ => other, fun t found => connects.others t (distinct t found),
    ?_, ?_, ?_⟩
  · intro t reason found emits
    exact distinct t found ((connects.emits emits).elim nofun fun rest => rest.elim (·.1) (·.1))
  · intro kind t emits isLogin
    rcases connects.emits emits with begins | ofKick | ofLogin
    · cases begins
    · exact ofKick.not_isLogin isLogin
    · exact other (ofLogin isLogin).2.1
  · intro t player emits
    rcases connects.emits emits with begins | ofKick | ofLogin
    · cases begins
    · exact ofKick.elim
    · exact fun same => other (same.symm.trans ofLogin.2)

/-- Role ids keep accounts apart as far as 32 bits of the account and 16 bits of the area
do: the login of one leaves every account with another role id alone, and the role id leads
back to the zone of the session exactly when the area fits. -/
theorem login_isolated (run : ZoneRun env events mgr) (known : env.areas ggc.area)
    (event : ggc.event = .connected)
    (stepped : zoneStep env mgr (.gateMessage src ggc data) = some next) (uid : UInt64) (area : UInt32) :
    (getRoleID uid area ≠ roleOf ggc ↔
      uid.toNat % 2 ^ 32 ≠ ggc.uid.toNat % 2 ^ 32 ∨ area.toNat % 2 ^ 16 ≠ ggc.area.toNat % 2 ^ 16) ∧
    (getRoleID uid area ≠ roleOf ggc → Spares mgr area (getRoleID uid area) next) ∧
    (zoneOfRoleID (roleOf ggc) = ggc.area ↔ ggc.area.toNat < 2 ^ 16) ∧
    (ggc.area.toNat < 2 ^ 16 → ∃ s, next.mpSessions ggc.area (roleOf ggc) = some s ∧
      next.getZonePlayerAgentPtr env (roleOf ggc) = (next.sessions s).player) := by
  obtain ⟨s, connects⟩ := (zoneStep_takes stepped).connects run.sound known event
  have decodes := zoneOfRoleID_eq_iff ggc.uid ggc.area
  refine ⟨?_, connects.spares run.sound, decodes, fun fits => ⟨s, connects.entered, ?_⟩⟩
  · rw [roleOf, Ne, getRoleID_eq_iff]
    tauto
  · have zone : zoneOfRoleID (roleOf ggc) = ggc.area := decodes.mpr fits
    simp [getZonePlayerAgentPtr, zone, known, findSession, connects.entered]

def connected : ZoneAgentMgr := (runAll (zoneStep soleZone) {} [connects 1]).get (by decide)

def joining (uid : UInt64) : GateSSMsg := { event := .connected, idx := 2, uid, area := 1 }

theorem login_isolated_from_connected :
    getRoleID 7 1 ≠ roleOf (joining 8) ∧
      Spares connected 1 (getRoleID 7 1)
        ((zoneStep soleZone connected (.gateMessage 3 (joining 8) [])).get (by decide)) := by
  have run : ZoneRun soleZone [connects 1] connected := steps_of_runAll (Option.some_get _).symm
  have distinct : getRoleID 7 1 ≠ roleOf (joining 8) := by decide
  refine ⟨distinct, ?_⟩
  have stepped :=
    Option.some_get (x := zoneStep soleZone connected (.gateMessage 3 (joining 8) [])) (by decide)
  exact (login_isolated run (by decide) rfl stepped.symm 7 1).2.1 distinct

/-- Account 2 ^ 32 + 7 has the role id of account 7 and kicks its session; an area of 17
bits is decoded to another one. -/
theorem role_ids_collide :
    getRoleID 7 1 = roleOf (joining 4294967303) ∧
      connected.Emits ((zoneStep soleZone connected (.gateMessage 3 (joining 4294967303) [])).get (by decide))
        (.kick 0 .relogin) ∧
      zoneOfRoleID (getRoleID 7 65537) ≠ 65537 := by
  refine ⟨by decide, ⟨_, (List.take_append_drop 6 _).symm, ?_⟩, by decide⟩
  decide

end Playground.Zone
