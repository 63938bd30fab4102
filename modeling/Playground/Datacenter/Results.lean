import Playground.Datacenter.Working

/-! What the listeners of the `DBAgent` hear of the requests. -/

namespace Playground.Datacenter

open Framing Record Transition

variable {Msg : Type} {proto : Protobuf Msg}

namespace DBAgent

variable {obj : Option (Object proto)}

def mysqlResultTimeout : Int := 3

def dataMysqlErrStart : Int := 2000

/-- The first branches of `DispatchResult`. -/
def resultCode (ret : Int) : Int :=
  if ret = mysqlResultNoData then dataNoExists
  else if ret = mysqlResultTimeout then dataTimeOut
  else if ret = mysqlResultAlreadyExist then dataAlreadyExists
  else if ret ≠ mysqlResultOk then dataMysqlErrStart + ret
  else ret

/-- `DispatchResult` up to the listener; without a listener it returns an error. -/
def dispatchResult (agent : DBAgent proto) (listens : String → Bool) (rsp : MysqlOpResponse) :
    Except Fault (DBAgent proto × Option (ListenerCall proto)) :=
  let ret := resultCode rsp.ret
  if listens rsp.tblname then
    match rsp.op with
    | .select =>
      if ret = mysqlResultOk then
        match agent.createObjectFromMysql rsp.toMysqlResponse with
        | .ok (next, obj) => .ok (next, some (.onGet dataOk (some obj) rsp.cb))
        | .error (.returns ret) => .ok (agent, some (.onGet ret none rsp.cb))
        | .error .aborted => .error .aborted
      else .ok (agent, some (.onGet ret none rsp.cb))
    | .update => .ok (agent, some (.onUpdate ret rsp.cb))
    | .insert => .ok (agent, some (.onInsert ret rsp.cb))
    | .delete => .ok (agent, some (.onRemove ret rsp.cb))
    | .createTb => .ok (agent, some (.onCreateTable rsp.tblname ret))
  else .ok (agent, none)

end DBAgent

open DBAgent

variable {tableMetas : List MysqlMeta} {database after : Database} {ret : Int} {failure : Option Failure}
  {data out : List MysqlField} {req : MysqlRequest}

/-- The results of the proxy: only `CreateTable` has a negative one, and none is `MYSQL_RESULT_TIMEOUT`. -/
def IsProxyResult (ret : Int) : Prop := ret = -1 ∨ 0 ≤ ret ∧ ret ≠ mysqlResultTimeout

instance : Decidable (IsProxyResult ret) := inferInstanceAs (Decidable (_ ∨ _))

theorem dispatchReq_ret (dispatched : dispatchReq tableMetas database req failure data = .ok (ret, out, after)) :
    IsProxyResult ret := by
  unfold dispatchReq at dispatched
  split at dispatched
  case h_3 =>
    obtain ⟨updated, step, whole⟩ := bind_eq_ok.mp dispatched
    cases whole
    unfold updateRow at step
    split at step
    · cases step
      exact (by decide : IsProxyResult mysqlResultNoMeta)
    · obtain ⟨sets, -, rest⟩ := bind_eq_ok.mp step
      repeat' split at rest
      all_goals
        cases rest
        dsimp only
        decide
  all_goals cases dispatched
  · unfold selectRow
    repeat' split
    all_goals
      dsimp only
      decide
  · unfold insertRow
    repeat' split
    case h_2.isFalse =>
      unfold IsProxyResult mysqlResultSqlExeErr mysqlResultTimeout
      omega
    all_goals
      dsimp only
      decide
  · unfold deleteRow
    repeat' split
    all_goals
      dsimp only
      decide
  · unfold createTable
    repeat' split
    all_goals decide

theorem resultCode_nonneg (code : IsProxyResult ret) : 0 ≤ resultCode ret := by
  unfold IsProxyResult resultCode mysqlResultNoData mysqlResultTimeout mysqlResultAlreadyExist mysqlResultOk dataNoExists
    dataTimeOut dataAlreadyExists dataMysqlErrStart at *
  split_ifs <;> omega

private theorem setObjectField_returns :
    setObjectField obj name value ≠ .error (.returns ret) := by
  unfold setObjectField Message.set
  repeat' split
  all_goals simp [Except.map]

private theorem loadField_returns
    (failed : loadField tableMetas tblname obj mf = .error (.returns ret)) : ret = dataUnpackError := by
  have sets {name value} (failed : (setObjectField obj name value).map Prod.snd = .error (.returns ret)) : False := by
    cases set : setObjectField obj name value with
    | ok next => simp [set, Except.map] at failed
    | error fault => exact setObjectField_returns (set.trans (by simpa [set, Except.map] using failed))
  unfold loadField at failed
  repeat' split at failed
  all_goals first | exact (sets failed).elim | (cases failed <;> rfl) | skip
  all_goals
    unfold cString at failed
    split at failed
    · exact (sets failed).elim
    · cases failed

private theorem foldlM_loadField_returns
    (failed : data.foldlM (loadField tableMetas tblname) obj = .error (.returns ret)) : ret = dataUnpackError := by
  induction data generalizing obj with
  | nil => cases failed
  | cons mf data ih =>
    rw [List.foldlM_cons] at failed
    cases loaded : loadField tableMetas tblname obj mf with
    | error fault =>
      rw [loaded] at failed
      cases failed
      exact loadField_returns loaded
    | ok next =>
      rw [loaded] at failed
      exact ih failed

private theorem createObjectFromMysql_returns {agent : DBAgent proto} {rsp : MysqlResponse}
    (failed : agent.createObjectFromMysql rsp = .error (.returns ret)) : 0 ≤ ret := by
  unfold createObjectFromMysql at failed
  split at failed
  · cases failed
    decide
  · cases loaded : rsp.data.foldlM (loadField agent.tableMetas rsp.tblname)
        (newObject proto (objTypeName rsp.tblname)) with
    | error fault =>
      simp only [loaded, bind, Except.bind, Except.error.injEq] at failed
      subst failed
      rw [foldlM_loadField_returns loaded]
      decide
    | ok obj =>
      simp only [loaded, bind, Except.bind] at failed
      cases obj with
      | none => cases failed
      | some obj =>
        unfold keep at failed
        dsimp only at failed
        split at failed
        · next kept => split at kept <;> cases kept; cases failed
        · cases failed

theorem dispatchResult_ret {agent next : DBAgent proto} {rsp : MysqlOpResponse}
    (told : agent.dispatchResult listens rsp = .ok (next, some call)) (code : 0 ≤ resultCode rsp.ret) :
    0 ≤ call.ret := by
  unfold dispatchResult at told
  dsimp only at told
  split at told
  · split at told
    · split at told
      · split at told
        · cases told
          exact Int.le_refl 0
        · next failed =>
          cases told
          exact createObjectFromMysql_returns failed
        · cases told
      · cases told
        exact code
    all_goals
      cases told
      exact code
  · cases told

section Runs

variable {final : Threads} {events : List ThreadEvent} {maxReqQueueSize : Int} {workers : Nat}
  {agent : DBAgent proto} {listens : String → Bool}

private theorem handled_ret (run : Steps ThreadStep (.start tableMetas maxReqQueueSize workers database) events final)
    (handled : rsp ∈ final.handled) : IsProxyResult rsp.ret := by
  have keeps {threads event next} (step : ThreadStep threads event next)
      (holds : Balanced threads.handled threads.world ∧ ∀ entry ∈ threads.world.executed, IsProxyResult entry.2) :
      Balanced next.handled next.world ∧ ∀ entry ∈ next.world.executed, IsProxyResult entry.2 := by
    refine ⟨step.balanced holds.1, ?_⟩
    rcases step.calls with ⟨world, -⟩ | ⟨call, stepped, -⟩
    · exact world ▸ holds.2
    · cases (mysqlStep_moves stepped).1 with
      | executes worker req ret data out failure _ _ _ _ executed dispatched =>
        rw [executed]
        intro entry member
        rcases List.mem_append.mp member with old | new
        · exact holds.2 entry old
        · rw [List.mem_singleton.mp new]
          exact dispatchReq_ret dispatched
      | accepts _ _ _ _ executed | takes _ _ _ _ _ executed | rests _ _ _ executed =>
        exact executed ▸ holds.2
  obtain ⟨balanced, codes⟩ := run.invariant keeps ⟨balanced_start .., by simp [Threads.start, MysqlWorld.start]⟩
  have slip : rsp.slip ∈ final.world.executed.map MysqlRequest.slip :=
    balanced.responses.subset (List.mem_map_of_mem (List.mem_append_left _ handled))
  obtain ⟨entry, member, same⟩ := List.mem_map.mp slip
  have ret : entry.2 = rsp.ret := congrArg (fun slip => slip.2.2.2) same
  exact ret ▸ codes entry member

/-- However the threads interleave and the statements fail, and whatever fields a SELECT reads: no listener
hears of a negative result, and so of no timeout. -/
theorem told_nonnegative
    (run : Steps ThreadStep (.start tableMetas maxReqQueueSize workers database) events final)
    {next : DBAgent proto} (handled : rsp ∈ final.handled) (read : List MysqlField)
    (told : agent.dispatchResult listens { rsp with data := read } = .ok (next, some call)) : 0 ≤ call.ret :=
  have code : 0 ≤ resultCode rsp.ret := resultCode_nonneg (handled_ret run handled)
  dispatchResult_ret told code

/-- The server refuses to create a table: the result is negative, and what the listener hears of is not. -/
theorem told_nonnegative_refused : ∃ (events : List ThreadEvent) (final : Threads) (rsp : MysqlOpResponse),
    Steps ThreadStep (.start [{ tblname := "Role", cols := [] }] 32 1 fun _ _ => none) events final ∧
      final.handled = [rsp] ∧ rsp.ret = -1 ∧
      ∃ next call, DBAgent.dispatchResult ({ tableMetas := [] } : DBAgent wire) (fun _ => true) rsp =
        .ok (next, some call) ∧ call.ret = 1999 ∧ 0 ≤ call.ret := by
  let create : MysqlRequest := { tblname := "Role", op := .createTb, cond := [], cb := [] }
  obtain ⟨events, final, run, -, handled⟩ :=
    @served [{ tblname := "Role", cols := [] }] (fun _ _ => none) create (some (.execute 1050)) (-1) []
      (fun _ _ => none) rfl
  have told : DBAgent.dispatchResult ({ tableMetas := [] } : DBAgent wire) (fun _ => true)
      { ret := -1, tblname := "Role", data := [], op := .createTb, cb := [] } =
    .ok ({ tableMetas := [] }, some (.onCreateTable "Role" 1999)) := rfl
  exact ⟨events, final, _, run, handled, rfl, _, _, told, rfl,
    told_nonnegative run (handled ▸ List.mem_singleton_self _) [] told⟩

end Runs

end Playground.Datacenter
