import Playground.Zone.Flows

/-! The agent together with the rows of its database, whose worker threads carry out requests in any
order. -/

namespace Playground.Zone

open Framing Gate Transition ZoneAgentMgr

/-- Who has written a row: this agent since its start, or somebody else. -/
inductive Origin where
  | own
  | external
deriving DecidableEq

/-- A request carried out on the row of its role. An insert that returns an error may have taken effect. -/
def executes (kind : RequestKind) (row : Option Origin) (ret : Int) (after : Option Origin) : Bool :=
  match kind with
  | .getRole => after = row ∧ (ret = dataOk → row ≠ none) ∧ (ret = dataNoExists → row = none)
  | .insertRole =>
    if ret = dataOk then row = none ∧ after = some .own
    else if ret = dataAlreadyExists then row ≠ none ∧ after = row
    else after = row ∨ row = none ∧ after = some .own
  | .updateRole _ => after = row

theorem own_cases (executed : executes kind row ret (some .own)) :
    row = some .own ∨ kind = .insertRole := by
  cases kind with
  | insertRole => exact .inr rfl
  | getRole => exact .inl (of_decide_eq_true executed).1.symm
  | updateRole retry => exact .inl (of_decide_eq_true executed).symm

structure DBWorld where
  agent : ZoneAgentMgr := {}
  rows : UInt64 → Option Origin
  /-- The results of the requests carried out so far, with the row each one met. -/
  results : Nat → Option (Int × Option Origin) := fun _ => none

def DBWorld.start (present : UInt64 → Bool) : DBWorld where
  rows uid := if present uid then some .external else none

inductive DBEvent where
  | gateMessage (src : Int) (ggc : GateSSMsg) (data : Bytes)
  | execute (req : Request) (ret : Int) (row : Option Origin)
  | write (uid : UInt64) (row : Option Origin)
  | answer (req : Request) (ret : Int)

@[simps] def DBWorld.setRow (world : DBWorld) (uid : UInt64) (row : Option Origin) : DBWorld :=
  { world with rows := Function.update world.rows uid row }

@[simps] def DBWorld.carryOut (world : DBWorld) (req : Request) (ret : Int) (row : Option Origin) :
    DBWorld where
  agent := world.agent
  rows := Function.update world.rows req.uid row
  results := Function.update world.results req.id (some (ret, world.rows req.uid))

/-- One event of the agent, the workers or another process. An answer carries the result of
its request. -/
def dbStep (env : ZoneEnv) (world : DBWorld) : DBEvent → Option DBWorld
  | .gateMessage src ggc data =>
    (zoneStep env world.agent (.gateMessage src ggc data)).map fun agent => { world with agent }
  | .execute req ret row =>
    if req ∈ world.agent.requests ∧ world.results req.id = none ∧
        executes req.kind (world.rows req.uid) ret row then
      some (world.carryOut req ret row)
    else none
  | .write uid row => if row ≠ some .own then some (world.setRow uid row) else none
  | .answer req ret =>
    if (world.results req.id).map Prod.fst = some ret then
      (zoneStep env world.agent (.response req ret)).map fun agent => { world with agent }
    else none

def DBWorld.Overlaps (env : ZoneEnv) (world : DBWorld) : DBEvent → Prop
  | .gateMessage src ggc data => Zone.Overlaps env world.agent (.gateMessage src ggc data)
  | _ => False

structure DBWorld.Sound (world : DBWorld) : Prop where
  agent : world.agent.Sound
  idle : ∀ uid, world.agent.running uid = 0
  one : OneFlow world.agent.log
  fresh : ∀ id, world.agent.dbCalls ≤ id → world.results id = none
  /-- A role about to be inserted, and a role just read as missing, has no row of the agent. -/
  missing : ∀ {req}, req ∈ world.agent.requests →
    (req.kind = .insertRole ∧ world.results req.id = none ∨
      req.kind = .getRole ∧ ∃ row, world.results req.id = some (dataNoExists, row)) →
    world.rows req.uid ≠ some .own
  met : ∀ {req ret row}, req ∈ world.agent.requests → req.kind = .insertRole →
    world.results req.id = some (ret, row) → row ≠ some .own

variable {env : ZoneEnv} {world next : DBWorld}

theorem ZoneAgentMgr.Sound.eq_of_id {mgr : ZoneAgentMgr} (sound : mgr.Sound) (member : req ∈ mgr.requests)
    (other : req' ∈ mgr.requests) (same : req.id = req'.id) : req = req' := by
  have nodup : (mgr.requests.map Request.id).Nodup := List.pairwise_map.mpr (sound.sorted.imp Nat.ne_of_lt)
  exact List.inj_on_of_nodup_map nodup member other same

theorem suspended_unique {requests : List Request} (single : suspendedFlows uid requests ≤ 1)
    (member : req ∈ requests) (isLogin : req.kind.isLogin) (ofRole : req.uid = uid)
    (other : req' ∈ requests) (isLogin' : req'.kind.isLogin) (ofRole' : req'.uid = uid) : req = req' := by
  by_contra distinct
  have erased : suspendedFlows uid (requests.erase req) + _ = _ := suspendedFlows_erase member
  have kept : 0 < suspendedFlows uid (requests.erase req) :=
    suspendedFlows_pos_iff.mpr ⟨req', (List.mem_erase_of_ne (Ne.symm distinct)).mpr other, isLogin', ofRole'⟩
  simp [isLogin, ofRole] at erased
  omega

namespace DBWorld.Sound

theorem single (sound : world.Sound) (uid : UInt64) : suspendedFlows uid world.agent.requests ≤ 1 := by
  have active := activeFlows_eq_suspended (sound.idle uid)
  have bounded := sound.one.active_le uid
  omega

theorem agent_step {agent : ZoneAgentMgr} (sound : world.Sound)
    (stepped : zoneStep env world.agent event = some agent)
    (apart : ¬ Zone.Overlaps env world.agent event)
    (known : ∀ {req ret}, event = .response req ret → ∃ row, world.results req.id = some (ret, row)) :
    Sound { world with agent } := by
  have takes := zoneStep_takes stepped
  obtain ⟨calls, added, grown, fine⟩ := takes.sends sound.agent
  have subset : ∀ {req}, req ∈ world.agent.remaining event → req ∈ world.agent.requests := by
    intro req member
    cases event with
    | gateMessage src ggc data => exact member
    | response asked ret => exact List.mem_of_mem_erase member
  have unread : ∀ {req}, req ∈ added → world.results req.id = none :=
    fun {req} member => sound.fresh req.id (fine req member).1
  refine ⟨takes.sound sound.agent, fun uid => (takes.running_eq sound.agent uid).trans (sound.idle uid),
    (takes.oneFlow_iff sound.agent sound.idle sound.one).mpr apart,
    fun id new => sound.fresh id (Nat.le_trans calls new), ?_, ?_⟩
  · intro req member state
    rw [grown] at member
    rcases List.mem_append.mp member with old | new
    · exact sound.missing (subset old) state
    · rcases state with ⟨kind, _⟩ | ⟨_, row, result⟩
      · obtain ⟨asked, pending, rfl, isRead, sameRole⟩ := (fine req new).2 kind
        obtain ⟨row, result⟩ := known rfl
        rw [← sameRole]
        exact sound.missing pending (.inr ⟨isRead, row, result⟩)
      · cases (unread new).symm.trans result
  · intro req ret row member kind result
    rw [grown] at member
    rcases List.mem_append.mp member with old | new
    · exact sound.met (subset old) kind result
    · cases (unread new).symm.trans result

theorem write (sound : world.Sound) (others : row ≠ some .own) : (world.setRow uid row).Sound where
  agent := sound.agent
  idle := sound.idle
  one := sound.one
  fresh := sound.fresh
  met := sound.met
  missing := by
    intro req member state
    by_cases same : req.uid = uid
    · simpa [same] using others
    · simpa [same] using sound.missing member state

theorem execute (sound : world.Sound) (pending : req ∈ world.agent.requests)
    (unread : world.results req.id = none)
    (executed : executes req.kind (world.rows req.uid) ret row) : (world.carryOut req ret row).Sound where
  agent := sound.agent
  idle := sound.idle
  one := sound.one
  fresh id new := by
    have other : id ≠ req.id := Nat.ne_of_gt (Nat.lt_of_lt_of_le (sound.agent.called pending) new)
    simpa [other] using sound.fresh id new
  missing := by
    intro other member state
    by_cases same : other.id = req.id
    · -- the request itself: it was read, and an insert is no longer to be carried out
      obtain rfl := sound.agent.eq_of_id member pending same
      rcases state with ⟨_, absurd⟩ | ⟨kind, seen, result⟩
      · simp at absurd
      · have code : ret = dataNoExists := by simpa using congrArg (Option.map Prod.fst) result
        have read : executes .getRole (world.rows other.uid) ret row := kind ▸ executed
        simp only [executes, code, decide_eq_true_eq, true_implies] at read
        simp [read.1, read.2.2]
    · have before : world.rows other.uid ≠ some .own := sound.missing member (by simpa [same] using state)
      by_cases sameRole : other.uid = req.uid
      · intro own
        have own : row = some .own := by simpa [sameRole] using own
        rcases own_cases (own ▸ executed) with had | kind
        · exact before (sameRole ▸ had)
        · -- an insert of the same role would be a second waiting coroutine
          have isLogin : other.kind.isLogin := by rcases state with ⟨kind, _⟩ | ⟨kind, _⟩ <;> rw [kind] <;> rfl
          have unique := suspended_unique (sound.single req.uid) member isLogin sameRole pending
            (by rw [kind]; rfl) rfl
          exact same (congrArg Request.id unique)
      · simpa [sameRole] using before
  met := by
    intro other code seen member kind result
    by_cases same : other.id = req.id
    · obtain rfl := sound.agent.eq_of_id member pending same
      have met : world.rows other.uid = seen := by simpa using congrArg (Option.map Prod.snd) result
      exact met ▸ sound.missing member (.inl ⟨kind, unread⟩)
    · exact sound.met member kind (by simpa [same] using result)

end DBWorld.Sound

/-- What every run keeps, overlapping logins or not. -/
def DBWorld.Settled (world : DBWorld) : Prop := world.agent.Sound ∧ ∀ uid, world.agent.running uid = 0

inductive DBTakes (env : ZoneEnv) (world : DBWorld) : DBEvent → DBWorld → Prop where
  | carryOut (pending : req ∈ world.agent.requests) (unread : world.results req.id = none)
      (executed : executes req.kind (world.rows req.uid) ret row) :
      DBTakes env world (.execute req ret row) (world.carryOut req ret row)
  | setRow (others : row ≠ some .own) : DBTakes env world (.write uid row) (world.setRow uid row)
  | agent (taken : zoneStep env world.agent seen = some agent)
      (overlaps : world.Overlaps env event ↔ Overlaps env world.agent seen)
      (known : ∀ {req ret}, seen = .response req ret →
        event = .answer req ret ∧ ∃ row, world.results req.id = some (ret, row)) :
      DBTakes env world event { world with agent }

theorem dbStep_takes (stepped : dbStep env world event = some next) : DBTakes env world event next := by
  cases event with
  | gateMessage src ggc data =>
    obtain ⟨agent, taken, rfl⟩ := Option.map_eq_some_iff.mp stepped
    exact .agent taken Iff.rfl nofun
  | execute req ret row =>
    obtain ⟨⟨pending, unread, executed⟩, same⟩ := Option.ite_none_right_eq_some.mp stepped
    cases same
    exact .carryOut pending unread executed
  | write uid row =>
    obtain ⟨others, same⟩ := Option.ite_none_right_eq_some.mp stepped
    cases same
    exact .setRow others
  | answer req ret =>
    obtain ⟨result, mapped⟩ := Option.ite_none_right_eq_some.mp stepped
    obtain ⟨agent, taken, rfl⟩ := Option.map_eq_some_iff.mp mapped
    refine .agent taken Iff.rfl fun same => ?_
    cases same
    obtain ⟨⟨_, row⟩, found, rfl⟩ := Option.map_eq_some_iff.mp result
    exact ⟨rfl, row, found⟩

section

variable (takes : DBTakes env world event next)

include takes

theorem DBTakes.settled (settled : world.Settled) : next.Settled := by
  cases takes with
  | carryOut | setRow => exact settled
  | agent taken overlaps known =>
    obtain ⟨sound, idle⟩ := settled
    have takes := zoneStep_takes taken
    exact ⟨takes.sound sound, fun uid => (takes.running_eq sound uid).trans (idle uid)⟩

theorem DBTakes.sound (apart : ¬ world.Overlaps env event) (sound : world.Sound) : next.Sound := by
  cases takes with
  | carryOut pending unread executed => exact sound.execute pending unread executed
  | setRow others => exact sound.write others
  | agent taken overlaps known =>
    exact sound.agent_step taken (fun both => apart (overlaps.mpr both)) fun same => (known same).2

theorem DBTakes.oneFlow_iff (settled : world.Settled)
    (one : OneFlow world.agent.log) : OneFlow next.agent.log ↔ ¬ world.Overlaps env event := by
  cases takes with
  | carryOut | setRow => exact iff_of_true one id
  | agent taken overlaps known =>
    rw [overlaps]
    exact (zoneStep_takes taken).oneFlow_iff settled.1 settled.2 one

theorem DBTakes.grows (settled : world.Settled) :
    ∃ effects, next.agent.log = effects ++ world.agent.log := by
  cases takes with
  | carryOut | setRow => exact ⟨[], rfl⟩
  | agent taken overlaps known => exact (zoneStep_takes taken).grows settled.1

end

/-- The agent kicks for an error of the database only if one was reported, or its insert not accepted. -/
theorem Takes.dbErr {mgr next : ZoneAgentMgr} (takes : Takes env mgr event next) (sound : mgr.Sound)
    (kicks : mgr.Emits next (.kick s .dbErr)) :
    ∃ req ret, event = .response req ret ∧ req ∈ mgr.requests ∧ LoginFails env mgr req ret := by
  have connect : ∀ {ggc t}, Connects mgr ggc t next → False := by
    intro ggc t connects
    rcases connects.emits kicks with begins | ofKick | ofLogin
    · cases begins
    · cases ofKick.2
    · exact ofLogin.2 rfl
  cases takes with
  | ignore why => exact absurd kicks not_emits_self
  | dispatch known event parsed found => exact ((dispatched_serves mgr).emits_allowed kicks).elim
  | create known event absent => exact (connect (create_connects absent)).elim
  | relogin known event found kicked => exact (connect (relogin_connects sound found kicked)).elim
  | @stop _ t _ _ _ _ known event found idx gate kicked =>
    obtain ⟨effects, grown, ofKick⟩ := (kick_own sound found kicked).1.log
    have added : ZoneEffect.kick s .dbErr ∈ .stop t :: effects :=
      kicks.mem (congrArg (ZoneEffect.stop t :: ·) grown)
    rcases List.mem_cons.mp added with stops | old
    · cases stops
    · cases (ofKick _ old).2
  | update pending kind => exact ((logoutUpdated_serves env).emits_allowed kicks).elim
  | @resume req ret _ pending isLogin resumed =>
    have failed := (resume_serves isLogin (sound.asked pending isLogin).2 resumed).emits_allowed kicks
    exact ⟨req, ret, rfl, pending, failed.2 rfl⟩

theorem settled_start : (DBWorld.start present).Settled := ⟨sound_start, fun _ => rfl⟩

theorem DBWorld.start_sound : (DBWorld.start present).Sound where
  agent := sound_start
  idle _ := rfl
  one := trivial
  fresh _ _ := rfl
  missing member := nomatch member
  met member := nomatch member

abbrev DBSteps (env : ZoneEnv) : DBWorld → List DBEvent → DBWorld → Prop :=
  Steps fun world event next => dbStep env world event = some next

abbrev SerialSteps (env : ZoneEnv) : DBWorld → List DBEvent → DBWorld → Prop :=
  Steps fun world event next => dbStep env world event = some next ∧ ¬ world.Overlaps env event

private theorem serial_of_oneFlow (run : DBSteps env world events next) (settled : world.Settled)
    (one : OneFlow next.agent.log) : SerialSteps env world events next := by
  have back : ∀ {world next : DBWorld} {event : DBEvent},
      dbStep env world event = some next → world.Settled → OneFlow next.agent.log →
        OneFlow world.agent.log := by
    intro world next event stepped settled one
    obtain ⟨effects, grown⟩ := (dbStep_takes stepped).grows settled
    exact Justified.suffix (grown ▸ one)
  have apart : ∀ {world next : DBWorld} {event : DBEvent},
      dbStep env world event = some next → world.Settled → OneFlow world.agent.log → OneFlow next.agent.log →
        ¬ world.Overlaps env event :=
    fun stepped settled before after => ((dbStep_takes stepped).oneFlow_iff settled before).mp after
  exact (run.guarded (fun stepped => (dbStep_takes stepped).settled) back apart settled one).2

private theorem serial_sound (run : SerialSteps env (.start present) events world) : world.Sound := by
  have keeps : ∀ {world next : DBWorld} {event : DBEvent},
      dbStep env world event = some next ∧ ¬ world.Overlaps env event → world.Sound → next.Sound :=
    fun ⟨step, apart⟩ sound => (dbStep_takes step).sound apart sound
  exact run.invariant keeps DBWorld.start_sound

/-- No two Login coroutines of one role wait, and no insert is sent for a role that the agent
has inserted. -/
structure SingleInsert (world : DBWorld) : Prop where
  alone : ∀ req ∈ world.agent.requests, ∀ req' ∈ world.agent.requests, req.kind.isLogin → req'.kind.isLogin →
    req.uid = req'.uid → req = req'
  absent : ∀ req ∈ world.agent.requests, req.kind = .insertRole → world.results req.id = none →
    world.rows req.uid ≠ some .own

/-- The database has answered with a failure of its own, or the agent could not send its insert. -/
def DBFailed (env : ZoneEnv) (world : DBWorld) (event : DBEvent) : Prop :=
  ∃ req ret row, event = .answer req ret ∧ world.results req.id = some (ret, row) ∧
    LoginFails env world.agent req ret ∧ (req.kind = .insertRole → row ≠ some .own)

/-- In a run of the agent on its database, the logins of each role are one after the other
exactly when no client of a role connects while a Login coroutine of it waits; and then each
role is inserted once and a session is kicked only for a failure of the database. -/
theorem one_flow_iff_serial (run : DBSteps env (.start present) events world) :
    (OneFlow world.agent.log ↔ SerialSteps env (.start present) events world) ∧
      (OneFlow world.agent.log → SingleInsert world ∧
        ∀ event next s, dbStep env world event = some next →
          world.agent.Emits next.agent (.kick s .dbErr) → DBFailed env world event) := by
  have serial : OneFlow world.agent.log → SerialSteps env (.start present) events world :=
    serial_of_oneFlow run settled_start
  refine ⟨⟨serial, fun steps => (serial_sound steps).one⟩, fun one => ?_⟩
  have sound := serial_sound (serial one)
  refine ⟨⟨?_, fun req member kind unread => sound.missing member (.inl ⟨kind, unread⟩)⟩, ?_⟩
  · intro req member req' member' isLogin isLogin' same
    exact suspended_unique (sound.single req'.uid) member isLogin same member' isLogin' rfl
  · intro event next s stepped kicks
    cases dbStep_takes stepped with
    | carryOut | setRow => exact absurd kicks not_emits_self
    | agent taken overlaps known =>
      obtain ⟨req, ret, answer, pending, failed⟩ := (zoneStep_takes taken).dbErr sound.agent kicks
      obtain ⟨rfl, row, result⟩ := known answer
      exact ⟨req, ret, row, rfl, result, failed, fun kind => sound.met pending kind result⟩

def connecting (idx : Nat) : DBEvent := .gateMessage 3 { event := .connected, idx, uid := 7, area := 1 } []

def asking (id : Nat) (kind : RequestKind) : Request := { id, kind, session := 0, uid := getRoleID 7 1 }

def loginOnce : List DBEvent :=
  [connecting 1, .execute (asking 0 .getRole) dataNoExists none, .answer (asking 0 .getRole) dataNoExists]

def loggedIn : DBWorld := (runAll (dbStep soleZone) (.start fun _ => false) loginOnce).get (by decide)

theorem one_flow_loginOnce : OneFlow loggedIn.agent.log ∧ SingleInsert loggedIn := by
  have run : DBSteps soleZone (.start fun _ => false) loginOnce loggedIn :=
    steps_of_runAll (Option.some_get _).symm
  have one : OneFlow loggedIn.agent.log := by
    refine (one_flow_iff_serial run).1.mpr ?_
    cases run with
    | cons first rest =>
      have apart : ∀ event ∈ loginOnce.tail, ∀ world : DBWorld, ¬ world.Overlaps soleZone event := by
        simp [loginOnce, DBWorld.Overlaps]
      refine .cons ⟨first, ?_⟩ ((rest.restrict apart).mono fun ⟨step, never⟩ => ⟨step, never _⟩)
      rintro ⟨_, _, req, member, _⟩
      cases member
  exact ⟨one, ((one_flow_iff_serial run).2 one).1⟩

/-- The client connects again before the database has answered, and both coroutines send an insert. -/
def loginTwice : List DBEvent :=
  [connecting 1, connecting 2,
    .execute (asking 0 .getRole) dataNoExists none, .execute (asking 1 .getRole) dataNoExists none,
    .answer (asking 0 .getRole) dataNoExists, .answer (asking 1 .getRole) dataNoExists,
    .execute (asking 2 .insertRole) dataOk (some .own),
    .execute (asking 3 .insertRole) dataAlreadyExists (some .own), .answer (asking 2 .insertRole) dataOk]

def raced : DBWorld := (runAll (dbStep soleZone) (.start fun _ => false) loginTwice).get (by decide)

/-- The second insert meets the row of the first, and its answer kicks the session, which
plays by then. -/
theorem own_insert_kicks_session :
    DBSteps soleZone (.start fun _ => false) loginTwice raced ∧
      ¬ OneFlow raced.agent.log ∧
      raced.results 3 = some (dataAlreadyExists, some .own) ∧
      (raced.agent.sessions 0).state = .playing ∧
      raced.agent.Emits
        ((dbStep soleZone raced (.answer (asking 3 .insertRole) dataAlreadyExists)).get (by decide)).agent
        (.kick 0 .dbErr) := by
  refine ⟨steps_of_runAll (Option.some_get _).symm, fun one => ?_, by decide, by decide, ?_⟩
  · have instant : activeFlows (getRoleID 7 1) (raced.agent.log.drop 4) = 2 := by decide
    rw [← List.take_append_drop 4 raced.agent.log] at one
    have early : OneFlow (raced.agent.log.drop 4) := Justified.suffix one
    have bounded := early.active_le (getRoleID 7 1)
    omega
  · exact ⟨_, (List.take_append_drop 7 _).symm, by decide⟩

end Playground.Zone
