import Playground.Player.Cascade
import Playground.Player.DelayedEvents

/-! `PlayerAutoSyncDBLogic` with `m_iDirty` of `PlayerAgent` and the requests of `DBProxy`. -/

namespace Playground.Player

open Transition

variable {Role : Type}

/-- An `UpdateRole` request that was accepted, and whether `OnUpdateRole` has reported it as
failed. -/
structure RoleUpdate (Role : Type) where
  contents : Role
  failed : Bool := false
deriving DecidableEq

/-- A player that is attached, with its requests and whether the next `EVENT_PLAYER_SYNC_DB` is pending. -/
structure AttachedPlayer (Role : Type) where
  roleData : Role
  iDirty : Int32 := 0
  updates : List (RoleUpdate Role) := []
  pending : Bool := false
  synced : Bool := false
deriving DecidableEq

namespace AttachedPlayer

/-- `MutableRoleData`, with what is written through it. -/
def mutableRoleData (player : AttachedPlayer Role) (write : Role → Role) : AttachedPlayer Role :=
  { player with roleData := write player.roleData, iDirty := player.iDirty + 1 }

def isDirty (player : AttachedPlayer Role) : Bool := decide (0 < player.iDirty)

def cleanDirty (player : AttachedPlayer Role) : AttachedPlayer Role := { player with iDirty := 0 }

/-- `FireEvent(EVENT_PLAYER_SYNC_DB, name, 300, GetUID())`; a player that is attached is online. -/
def fireSync (player : AttachedPlayer Role) : AttachedPlayer Role := { player with pending := true }

/-- `DBProxy::UpdateRole` without a coroutine, where `DBAgent::Update` returns the value. -/
def updateRole (player : AttachedPlayer Role) (agentRet : Int) : AttachedPlayer Role × Int :=
  if agentRet ≠ 0 then (player, -1)
  else ({ player with updates := player.updates ++ [{ contents := player.roleData }] }, 0)

/-- `PlayerAutoSyncDBLogic::OnEvent` for the event of the synchronisation. -/
def onEvent (player : AttachedPlayer Role) (agentRet : Int) : AttachedPlayer Role :=
  if player.isDirty then
    let updated := player.updateRole agentRet
    if updated.2 ≠ 0 then updated.1 else updated.1.cleanDirty.fireSync
  else player.fireSync

/-- `DBProxy::OnUpdateRole` without a coroutine, which only writes to the log. -/
def onUpdateRole (player : AttachedPlayer Role) (request : Nat) (ret : Int) : AttachedPlayer Role :=
  if ret ≠ 0 then
    { player with updates := player.updates.modify request fun update => { update with failed := true } }
  else player

def attach (roleData : Role) : AttachedPlayer Role := fireSync { roleData }

end AttachedPlayer

/-- A logic writes to the role data, the pending event is delivered, or a request is answered. -/
inductive SavingEvent (Role : Type) where
  | modify (write : Role → Role)
  | sync (agentRet : Int)
  | updated (request : Nat) (ret : Int)

open AttachedPlayer

def savingStep (player : AttachedPlayer Role) : SavingEvent Role → Option (AttachedPlayer Role)
  | .modify write => some (player.mutableRoleData write)
  | .sync agentRet =>
    if player.pending then some ({ player with pending := false, synced := true }.onEvent agentRet) else none
  | .updated request ret =>
    if request < player.updates.length then some (player.onUpdateRole request ret) else none

def SavingStep (player : AttachedPlayer Role) (event : SavingEvent Role) (next : AttachedPlayer Role) :
    Prop :=
  savingStep player event = some next

/-- The contents of the role are those of a request that was accepted and not reported as failed. -/
def Saved (player : AttachedPlayer Role) : Prop :=
  ∃ update ∈ player.updates, update.contents = player.roleData ∧ update.failed = false

/-- Behind a synchronisation the next one is pending, and the flag is clear only for saved data. -/
def Scheduled (player : AttachedPlayer Role) : Prop :=
  player.synced → player.pending ∧ (player.isDirty = false → Saved player)

/-- The counter of changes does not overflow, the request of a synchronisation is accepted, and one is
reported as failed only when the data has been changed again. -/
def Undisturbing (player : AttachedPlayer Role) : SavingEvent Role → Prop
  | .modify _ => 0 < player.iDirty + 1
  | .sync agentRet => if player.isDirty then agentRet = 0 else player.synced
  | .updated _ ret => ret = 0 ∨ player.isDirty

instance (player : AttachedPlayer Role) : DecidablePred (Undisturbing player)
  | .modify _ => inferInstanceAs (Decidable (_ < _))
  | .sync agentRet => inferInstanceAs (Decidable (if player.isDirty then agentRet = 0 else player.synced))
  | .updated _ _ => inferInstanceAs (Decidable (_ ∨ _))

/-- The invariant: an event is pending from `OnAttach` on. -/
structure KeptSaved (player : AttachedPlayer Role) : Prop where
  pending : player.pending
  saved : player.synced → player.isDirty = false → Saved player

section Runs

variable {player next : AttachedPlayer Role} {event : SavingEvent Role}

theorem KeptSaved.scheduled (kept : KeptSaved player) : Scheduled player :=
  fun synced => ⟨kept.pending, kept.saved synced⟩

private theorem isDirty_mutableRoleData (player : AttachedPlayer Role) (write : Role → Role)
    (counts : 0 < player.iDirty + 1) : (player.mutableRoleData write).isDirty :=
  decide_eq_true counts

theorem KeptSaved.sync (kept : KeptSaved player) (agentRet : Int)
    (accepted : if player.isDirty then agentRet = 0 else player.synced) :
    KeptSaved ({ player with pending := false, synced := true }.onEvent agentRet) := by
  unfold AttachedPlayer.onEvent
  split
  · next dirty =>
    obtain rfl : agentRet = 0 := by
      have same : player.isDirty = true := dirty
      rwa [if_pos same] at accepted
    refine ⟨rfl, fun _ _ => ⟨{ contents := player.roleData }, ?_, rfl, rfl⟩⟩
    exact List.mem_append_right player.updates (List.mem_singleton_self _)
  · next clean =>
    have same : ¬ player.isDirty = true := clean
    rw [if_neg same] at accepted
    exact ⟨rfl, fun _ _ => kept.saved accepted (by simpa using same)⟩

theorem KeptSaved.updated (kept : KeptSaved player) (request : Nat) (ret : Int)
    (harmless : ret = 0 ∨ player.isDirty) : KeptSaved (player.onUpdateRole request ret) := by
  unfold onUpdateRole
  split
  · next failed =>
    have dirty : player.isDirty = true := harmless.resolve_left failed
    refine ⟨kept.pending, fun _ clean => ?_⟩
    have same : player.isDirty = false := clean
    rw [dirty] at same
    cases same
  · exact kept

theorem KeptSaved.step (stepped : SavingStep player event next) (undisturbing : Undisturbing player event)
    (kept : KeptSaved player) : KeptSaved next := by
  cases event with
  | modify write =>
    cases stepped
    refine ⟨kept.pending, fun _ clean => ?_⟩
    rw [isDirty_mutableRoleData player write undisturbing] at clean
    cases clean
  | sync agentRet =>
    rw [SavingStep, savingStep, if_pos kept.pending] at stepped
    cases stepped
    exact kept.sync agentRet undisturbing
  | updated request ret =>
    rw [SavingStep, savingStep] at stepped
    split at stepped
    · cases stepped
      exact kept.updated request ret undisturbing
    · cases stepped

/-- In every run from `OnAttach` in which no request is refused or fails unnoticed, behind each
synchronisation the next one is pending and a clear flag means that the data is saved. -/
theorem dirty_data_scheduled {roleData : Role} {events : List (SavingEvent Role)}
    (run : Steps (fun player event next => SavingStep player event next ∧ Undisturbing player event)
      (attach roleData) events player) : Scheduled player := by
  have start : KeptSaved (attach roleData) := ⟨rfl, nofun⟩
  exact (run.invariant (fun step kept => kept.step step.1 step.2) start).scheduled

end Runs

section Center

variable {Player : Type} [DecidableEq Player] [Fintype Player] {env : EventEnv Player}
  {world : EventWorld Player} {player : Player}

private theorem syncLater_online (online : world.online (env.rid player) = some player)
    (room : world.center.mpDelayEventParams.length < 2 ^ 32) :
    ∃ next, syncLater env (fire env) world player = some next ∧
      next.pendingSeqs.length = world.pendingSeqs.length + 1 ∧
      (next.players player).dirty = (world.players player).dirty := by
  have found (call : FireCall Player) (role : call.ulParam = env.rid player) :
      world.playerOf call = some player := by
    rw [EventWorld.playerOf, role, online]
  obtain ⟨seq, free⟩ := Option.isSome_iff_exists.mp
    (freeSeq_returns world.center.mpDelayEventParams world.center.iDelayEventNextSeq room)
  have code : ¬ (eventTestMin < eventPlayerSyncDB ∧ eventPlayerSyncDB < eventTestMax) ∧
      (eventPlayerMin < eventPlayerSyncDB ∧ eventPlayerSyncDB < eventPlayerMax) := by decide
  have soon : ¬ EventWorld.maxPlayerEventDelayTime < (300 : Int32) := by decide
  rw [syncLater, fire_eq, fireEvent, if_neg code.1, if_pos code.2, if_neg soon, found _ rfl]
  dsimp only
  rw [if_pos syncLater_delay, EventWorld.generateDelayEvent]
  refine ⟨_, congrArg (Option.map _) (congrArg (Option.map _) free), rfl, ?_⟩
  simp [EventWorld.modify, EventWorld.cache]

/-- The event center does for the player what `onEvent` does: the same flag, and the next
synchronisation. -/
theorem autoSyncOnEvent_attached (agent : AttachedPlayer Role)
    (online : world.online (env.rid player) = some player)
    (room : world.center.mpDelayEventParams.length < 2 ^ 32)
    (same : (world.players player).dirty = agent.isDirty) (taken : agent.pending = false) :
    ∃ next, autoSyncOnEvent env (fire env) world player eventPlayerSyncDB = some next ∧
      (next.players player).dirty = (agent.onEvent (env.updateRoleRet world.updates)).isDirty ∧
      next.pendingSeqs.length = world.pendingSeqs.length +
        if (agent.onEvent (env.updateRoleRet world.updates)).pending then 1 else 0 := by
  rw [autoSyncOnEvent, if_pos rfl, same, AttachedPlayer.onEvent]
  split
  · next dirty =>
    dsimp only
    by_cases refused : env.updateRoleRet world.updates ≠ 0
    · rw [if_pos refused, updateRole, if_pos refused]
      refine ⟨_, rfl, same, ?_⟩
      simp [taken]
      rfl
    · rw [if_neg refused, updateRole, if_neg refused]
      obtain ⟨next, returned, stored, flag⟩ := @syncLater_online _ _ _ env
        ({ world with updates := world.updates + 1 }.modify player fun state => { state with dirty := false })
        player online room
      refine ⟨next, returned, ?_, stored⟩
      rw [flag]
      simp [EventWorld.modify, isDirty, cleanDirty, fireSync]
  · obtain ⟨next, returned, stored, flag⟩ := syncLater_online online room
    exact ⟨next, returned, flag.trans same, stored⟩

/-- A player whose data was changed while a synchronisation is pending. -/
def changedWorld : EventWorld (Fin 1) :=
  ((runAll (centerStep oneRole) onePlayer attachEvents).get (by decide +kernel)).modify (Fin.last 0)
    fun state => { state with dirty := true }

theorem autoSyncOnEvent_attached_changed :
    changedWorld.pendingSeqs.length = 1 ∧ (changedWorld.players 0).dirty = true ∧
      ∃ next, autoSyncOnEvent oneRole (fire oneRole) changedWorld 0 eventPlayerSyncDB = some next ∧
        (next.players 0).dirty = false ∧ next.pendingSeqs.length = 2 := by
  have online : changedWorld.online (oneRole.rid 0) = some 0 := by decide +kernel
  have dirty : (changedWorld.players 0).dirty = true := by decide +kernel
  have pending : changedWorld.pendingSeqs.length = 1 := by decide +kernel
  obtain ⟨next, returned, cleaned, stored⟩ :=
    autoSyncOnEvent_attached { roleData := 0, iDirty := 1 } online (by decide +kernel) dirty rfl
  refine ⟨pending, dirty, next, returned, cleaned, ?_⟩
  rw [stored, pending]
  rfl

end Center

theorem dirty_data_scheduled_saved :
    Scheduled { roleData := 1, updates := [{ contents := 1 }], pending := true, synced := true } :=
  dirty_data_scheduled (.cons ⟨rfl, by decide⟩ (.cons ⟨rfl, by decide⟩ .nil) :
    Steps _ (attach 0) [.modify (· + 1), .sync 0] _)

/-- The data is changed and the request is refused: nothing is pending. The data is changed,
the request is accepted and then reported as failed: the flag stays clear. -/
theorem dirty_data_forgotten :
    (∃ player, runAll savingStep (attach 0) [.modify (· + 1), .sync (-1)] = some player ∧
      player.pending = false ∧ player.isDirty = true ∧ ¬ Scheduled player) ∧
    ∃ player, runAll savingStep (attach 0) [.modify (· + 1), .sync 0, .updated 0 1062] = some player ∧
      player.isDirty = false ∧ ¬ Saved player ∧ ¬ Scheduled player := by
  constructor
  · refine ⟨_, rfl, rfl, rfl, ?_⟩
    intro scheduled
    exact absurd (scheduled rfl).1 (by decide)
  · have unsaved : ¬ Saved ({ roleData := 1, updates := [{ contents := 1, failed := true }], pending := true
                              synced := true } : AttachedPlayer Nat) := by
      rintro ⟨update, member, _, unfailed⟩
      obtain rfl := List.mem_singleton.mp member
      cases unfailed
    refine ⟨_, rfl, rfl, unsaved, ?_⟩
    intro scheduled
    exact unsaved ((scheduled rfl).2 rfl)

end Playground.Player
