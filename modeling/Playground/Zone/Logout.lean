import Playground.Zone.Players

/-! Saving a player who leaves. -/

namespace Playground.Zone

open Framing Gate Transition ZoneAgentMgr

/-- A call of `UpdateRole`: what it has returned, and the request it waits for. -/
inductive UpdateCall (mgr next : ZoneAgentMgr) : List Int → Option Request → Prop where
  | waits (called : next.dbCalls = mgr.dbCalls + 1) (asked : next.requests = mgr.requests ++ [req]) :
      UpdateCall mgr next [] (some req)
  | refused (called : next.dbCalls = mgr.dbCalls + 1) (full : next.requests = mgr.requests) :
      UpdateCall mgr next [-1] none
  | skipped (quiet : next.dbCalls = mgr.dbCalls) : UpdateCall mgr next [] none

/-- A Logout coroutine: what its calls have returned, and the request it waits for unless it has ended. -/
inductive LogoutRun (env : ZoneEnv) (s : Nat) : List Int → Option Request → Prop where
  | start (playing : (mgr.sessions s).state = .playing)
      (call : UpdateCall mgr (mgr.logout env s) returned pending) : LogoutRun env s returned pending
  | answer (waiting : LogoutRun env s results (some req))
      (stepped : zoneStep env mgr (.response req ret) = some next)
      (call : UpdateCall (mgr.answer req) next returned pending) :
      LogoutRun env s (results ++ ret :: returned) pending

def Unsaved (results : List Int) : Prop := dataOk ∉ results ∧ results.length < 3

/-- The calls go on until the first DATA_OK or the third failure, and no further. -/
def Persists (results : List Int) : Option Request → Prop
  | some _ => Unsaved results
  | none => Unsaved results.dropLast ∧ ¬ Unsaved results

/-- Where a coroutine stands: every result but the last was an error above 0. -/
inductive Standing (s : Nat) : List Int → Option Request → Prop where
  | waits (kind : req.kind = .updateRole (3 - results.length)) (own : req.session = s)
      (left : results.length < 3) (failed : ∀ ret ∈ results, 0 < ret) : Standing s results (some req)
  | ended (left : results.length < 3) (failed : ∀ ret ∈ results, 0 < ret)
      (last : ret ≤ 0 ∨ results.length = 2) : Standing s (results ++ [ret]) none

variable {env : ZoneEnv} {mgr next : ZoneAgentMgr} {s : Nat} {results returned : List Int}
  {pending : Option Request} {req : Request} {ret : Int} {retry : Nat}

theorem request_call {asking : RequestKind}
    (call : UpdateCall mgr (next.request env asking s).1 returned pending)
    (requests : mgr.requests = next.requests) (calls : mgr.dbCalls = next.dbCalls) :
    (returned = [] ∧ ∃ req, pending = some req ∧ req.kind = asking ∧ req.session = s) ∨
      returned = [-1] ∧ pending = none := by
  unfold ZoneAgentMgr.request at call
  dsimp only at call
  split at call
  · left
    cases call with
    | waits called asked =>
      rw [requests, emit_requests] at asked
      obtain rfl := List.singleton_inj.mp (List.append_cancel_left asked)
      exact ⟨rfl, _, rfl, rfl, rfl⟩
    | refused called full => simp [requests] at full
    | skipped quiet => simp [calls] at quiet
  · right
    cases call with
    | waits called asked => simp [requests] at asked
    | refused called full => exact ⟨rfl, rfl⟩
    | skipped quiet => simp [calls] at quiet

private theorem skipped_call (call : UpdateCall mgr next returned pending) (calls : next.dbCalls = mgr.dbCalls) :
    returned = [] ∧ pending = none := by
  cases call with
  | waits called asked => omega
  | refused called full => omega
  | skipped quiet => exact ⟨rfl, rfl⟩

theorem Standing.start (playing : (mgr.sessions s).state = .playing)
    (call : UpdateCall mgr (mgr.logout env s) returned pending) : Standing s returned pending := by
  rw [logout, if_pos playing] at call
  rcases request_call call rfl rfl with ⟨rfl, req, rfl, kind, own⟩ | ⟨rfl, rfl⟩
  · exact .waits kind own (by simp) (by simp)
  · have none : ([] : List Int).length < 3 := by decide
    exact .ended none nofun (.inl (by decide))

private theorem update_step (kind : req.kind = .updateRole retry)
    (stepped : zoneStep env mgr (.response req ret) = some next) :
    next = (mgr.answered req ret).logoutUpdated env req.session retry ret := by
  rw [zoneStep] at stepped
  split at stepped
  · simp only [onResponse, resume, kind, Option.some.injEq] at stepped
    exact stepped.symm
  · cases stepped

theorem Standing.answer (waiting : Standing s results (some req))
    (stepped : zoneStep env mgr (.response req ret) = some next)
    (call : UpdateCall (mgr.answer req) next returned pending) :
    Standing s (results ++ ret :: returned) pending := by
  obtain ⟨kind, own, left, failed⟩ := waiting
  rw [update_step kind stepped, logoutUpdated] at call
  split at call
  · next last =>
    obtain ⟨rfl, rfl⟩ := skipped_call call rfl
    refine .ended left failed (.inl ?_)
    rcases last with negative | rfl
    · exact Int.le_of_lt negative
    · exact Int.le_refl _
  · next positive =>
    have error : 0 < ret := by
      simp only [dataOk] at positive
      omega
    have failedAll : ∀ seen ∈ results ++ [ret], 0 < seen := by
      simpa [or_imp, forall_and, error] using failed
    split at call
    · next again =>
      have more : (results ++ [ret]).length < 3 := by
        simp
        omega
      rcases request_call call rfl rfl with ⟨rfl, req, rfl, asked, same⟩ | ⟨rfl, rfl⟩
      · refine .waits ?_ (same.trans own) more failedAll
        rw [asked]
        simp
        omega
      · rw [List.append_cons]
        exact .ended more failedAll (.inl (by decide))
    · next spent =>
      obtain ⟨rfl, rfl⟩ := skipped_call call rfl
      exact .ended left failed (.inr (by omega))

theorem LogoutRun.standing (flow : LogoutRun env s results pending) : Standing s results pending := by
  induction flow with
  | start playing call => exact .start playing call
  | answer _ stepped call waiting => exact waiting.answer stepped call

private theorem request_called {asking : RequestKind} (requests : mgr.requests = next.requests)
    (calls : mgr.dbCalls = next.dbCalls) :
    ∃ returned pending, UpdateCall mgr (next.request env asking s).1 returned pending := by
  unfold ZoneAgentMgr.request
  dsimp only
  split
  · exact ⟨_, _, .waits (by simp [calls]) (by rw [requests, emit_requests])⟩
  · exact ⟨_, _, .refused (by simp [calls]) requests.symm⟩

private theorem request_dbCalls (mgr : ZoneAgentMgr) (asking : RequestKind) (s : Nat) :
    (mgr.request env asking s).1.dbCalls = mgr.dbCalls + 1 := by
  unfold ZoneAgentMgr.request
  dsimp only
  split <;> rfl

/-- Whatever answer arrives, the waiting coroutine goes on with it: it calls `UpdateRole` again exactly
after an error above 0, unless it has tried three times. -/
theorem LogoutRun.continues (waiting : LogoutRun env s results (some req))
    (outstanding : req ∈ mgr.requests) (ret : Int) :
    ∃ after returned pending, zoneStep env mgr (.response req ret) = some after ∧
      UpdateCall (mgr.answer req) after returned pending ∧
      (after.dbCalls = mgr.dbCalls + 1 ↔ 0 < ret ∧ results.length < 2) := by
  obtain ⟨kind, -, -, -⟩ := waiting.standing
  have stepped : zoneStep env mgr (.response req ret) =
      some ((mgr.answered req ret).logoutUpdated env req.session (3 - results.length) ret) := by
    simp [zoneStep, outstanding, onResponse, resume, kind, answered]
  have calls : ∃ returned pending, UpdateCall (mgr.answer req)
        ((mgr.answered req ret).logoutUpdated env req.session (3 - results.length) ret) returned pending ∧
      (((mgr.answered req ret).logoutUpdated env req.session (3 - results.length) ret).dbCalls = mgr.dbCalls + 1 ↔
        0 < ret ∧ results.length < 2) := by
    have same : (mgr.answered req ret).dbCalls = mgr.dbCalls := rfl
    unfold logoutUpdated
    split
    · next last =>
      refine ⟨_, _, .skipped rfl, ?_⟩
      rw [same, dataOk] at *
      omega
    · next failed =>
      rw [dataOk] at failed
      split
      · obtain ⟨returned, pending, call⟩ := @request_called env (mgr.answer req) (mgr.answered req ret) req.session
          (.updateRole (3 - results.length - 1)) rfl rfl
        refine ⟨returned, pending, call, ?_⟩
        rw [request_dbCalls, same]
        omega
      · refine ⟨_, _, .skipped rfl, ?_⟩
        rw [same]
        omega
  obtain ⟨returned, pending, call⟩ := calls
  exact ⟨_, returned, pending, stepped, call⟩

theorem ZoneAgentMgr.Sound.outstanding (sound : mgr.Sound)
    (stepped : zoneStep env mgr event = some next) (asked : req ∈ mgr.requests)
    (other : ∀ ret, event ≠ .response req ret) : req ∈ next.requests := by
  obtain ⟨-, added, requests, -⟩ := (zoneStep_takes stepped).sends sound
  rw [requests]
  refine List.mem_append_left added ?_
  cases event with
  | gateMessage src ggc data => exact asked
  | response answered ret =>
    have differs : req ≠ answered := fun same => other ret (same ▸ rfl)
    exact (List.mem_erase_of_ne differs).mpr asked

/-- A save stays outstanding until it is answered; however late that is, the coroutine goes on with
the result, and saves again exactly after an error above 0 of one of its first two calls. -/
theorem logout_goes_on (run : ZoneRun env events mgr) (waiting : LogoutRun env s results (some req))
    (asked : req ∈ mgr.requests)
    (later : Steps (fun mgr event next => zoneStep env mgr event = some next) mgr more next)
    (unanswered : ∀ ret, .response req ret ∉ more) (ret : Int) :
    ∃ after returned pending, zoneStep env next (.response req ret) = some after ∧
      UpdateCall (next.answer req) after returned pending ∧
      LogoutRun env s (results ++ ret :: returned) pending ∧
      (after.dbCalls = next.dbCalls + 1 ↔ 0 < ret ∧ results.length < 2) := by
  have keeps {mgr event next}
      (step : zoneStep env mgr event = some next ∧ ∀ ret, event ≠ .response req ret)
      (holds : mgr.Sound ∧ req ∈ mgr.requests) : next.Sound ∧ req ∈ next.requests :=
    ⟨(zoneStep_takes step.1).sound holds.1, holds.1.outstanding step.1 holds.2 step.2⟩
  have outstanding : req ∈ next.requests := by
    refine ((later.restrict fun event member ret same => ?_).invariant keeps ⟨run.sound, asked⟩).2
    exact unanswered ret (same ▸ member)
  obtain ⟨after, returned, pending, stepped, call, again⟩ := waiting.continues outstanding ret
  exact ⟨after, returned, pending, stepped, call, waiting.answer stepped call, again⟩

private theorem unsaved_of_failed (left : results.length < 3) (failed : ∀ ret ∈ results, 0 < ret) :
    Unsaved results := by
  refine ⟨fun saved => ?_, left⟩
  exact Int.lt_irrefl _ (failed dataOk saved)

private theorem unsaved_append_iff (failed : ∀ seen ∈ results, 0 < seen) :
    Unsaved (results ++ [ret]) ↔ ret ≠ dataOk ∧ results.length < 2 := by
  have unsaved : dataOk ∉ results := fun saved => Int.lt_irrefl _ (failed dataOk saved)
  simp only [Unsaved, List.mem_append, List.mem_singleton, unsaved, false_or, List.length_append,
    List.length_singleton]
  exact and_congr (not_congr eq_comm) Nat.succ_lt_succ_iff

theorem Standing.persists_iff (standing : Standing s results pending) :
    Persists results pending ↔ ∀ ret ∈ results.take 2, 0 ≤ ret := by
  cases standing with
  | waits kind own left failed =>
    refine iff_of_true (unsaved_of_failed left failed) fun ret early => ?_
    exact Int.le_of_lt (failed ret (List.mem_of_mem_take early))
  | @ended results ret left failed last =>
    have nonnegative : (∀ seen ∈ (results ++ [ret]).take 2, 0 ≤ seen) ↔ results.length < 2 → 0 ≤ ret := by
      constructor
      · intro early short
        refine early ret (List.mem_take_iff_getElem.mpr ⟨results.length, ?_, by simp⟩)
        simp
        omega
      · intro late seen member
        rcases List.mem_append.mp (List.take_append ▸ member) with old | new
        · exact Int.le_of_lt (failed seen (List.mem_of_mem_take old))
        · cases room : 2 - results.length with
          | zero => simp [room] at new
          | succ more =>
            simp only [room, List.take_succ_cons, List.take_nil, List.mem_singleton] at new
            exact new ▸ late (by omega)
    rw [nonnegative, Persists, List.dropLast_concat, unsaved_append_iff failed]
    rw [and_iff_right (unsaved_of_failed left failed), not_and_or, dataOk]
    omega

/-- The Logout coroutine calls `UpdateRole` until the first DATA_OK or the third failure exactly
when neither of its first two calls returns a negative result. -/
theorem logout_persists_iff (flow : LogoutRun env s results pending) :
    Persists results pending ↔ ∀ ret ∈ results.take 2, 0 ≤ ret :=
  flow.standing.persists_iff

/-- The player of `newcomerEvents` while the agent handles the close of the client. -/
def leaving : ZoneAgentMgr := (newcomerAgent.emit (.kick 0 .closeClient)).detachPlayer 0

def leavingSave : Request := { id := 2, kind := .updateRole 3, session := 0, uid := getRoleID 7 1 }

def clientCloses : ZoneEvent := .gateMessage 3 { event := .close, idx := 1, uid := 7, area := 1 } []

def closedAgent : ZoneAgentMgr := (zoneStep soleZone newcomerAgent clientCloses).get (by decide +kernel)

theorem leaving_waits : LogoutRun soleZone 0 [] (some leavingSave) := by
  have playing : (leaving.sessions 0).state = .playing := by decide +kernel
  have called : (leaving.logout soleZone 0).dbCalls = leaving.dbCalls + 1 := by decide +kernel
  have asked : (leaving.logout soleZone 0).requests = leaving.requests ++ [leavingSave] := by decide +kernel
  exact .start playing (.waits called asked)

theorem logout_goes_on_late : ∃ next, zoneStep soleZone closedAgent clientCloses = some next ∧
    ∃ after returned pending, zoneStep soleZone next (.response leavingSave 5) = some after ∧
      UpdateCall (next.answer leavingSave) after returned pending ∧
      LogoutRun soleZone 0 (5 :: returned) pending ∧ after.dbCalls = next.dbCalls + 1 := by
  have run : ZoneRun soleZone (newcomerEvents ++ [clientCloses]) closedAgent :=
    newcomer_run.append (.single (Option.some_get _).symm)
  have joins : zoneStep soleZone closedAgent clientCloses = some _ := (Option.some_get (by decide +kernel)).symm
  obtain ⟨after, returned, pending, stepped, call, flow, again⟩ :=
    logout_goes_on run leaving_waits (by decide +kernel) (.single joins) (by simp [clientCloses]) 5
  exact ⟨_, joins, after, returned, pending, stepped, call, flow, again.mpr (by decide)⟩

theorem leaving_ends (last : ret < 0 ∨ ret = dataOk) : LogoutRun soleZone 0 [ret] none := by
  have outstanding : leavingSave ∈ closedAgent.requests := by decide +kernel
  have stepped : zoneStep soleZone closedAgent (.response leavingSave ret) =
      some (closedAgent.answered leavingSave ret) := by
    rw [zoneStep, if_pos outstanding]
    simp [onResponse, resume, leavingSave, logoutUpdated, last, answered]
  exact .answer leaving_waits stepped (.skipped rfl)

theorem logout_persists_saved : LogoutRun soleZone 0 [dataOk] none ∧ Persists [dataOk] none := by
  have flow := leaving_ends (.inr rfl)
  exact ⟨flow, (logout_persists_iff flow).mpr (by decide)⟩

def timeoutEvents : List ZoneEvent := newcomerEvents ++ [clientCloses, .response leavingSave (-1)]

/-- The save of the player times out once, and is not tried again. -/
theorem logout_stops_at_timeout :
    LogoutRun soleZone 0 [-1] none ∧ ¬ Persists [-1] none ∧
      (runAll (zoneStep soleZone) {} timeoutEvents).map (fun mgr => (mgr.requests, mgr.dbCalls)) =
        some ([], 3) := by
  refine ⟨leaving_ends (.inl (by decide)), fun persists => persists.2 ?_, by decide +kernel⟩
  exact ⟨by decide, by decide⟩

end Playground.Zone
