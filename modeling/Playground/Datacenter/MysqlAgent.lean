import Playground.Record.Fill
import Playground.Datacenter.DBAgent

/-! The `MysqlAgent`, whose workers take the requests out of one queue. -/

namespace Playground.Datacenter

open Framing Record

inductive MysqlRequestType where
  | select
  | update
  | delete
  | insert
  | createTb
deriving DecidableEq

structure MysqlRequest where
  tblname : String
  op : MysqlRequestType
  cond : Bytes
  data : List MysqlField := []
  fields : List String := []
  cb : Bytes
deriving DecidableEq

/-- A response with what the `DBAgent` needs to dispatch it. -/
structure MysqlOpResponse extends MysqlResponse where
  op : MysqlRequestType
  cb : Bytes

def mysqlResultNoData : Int := 1

def mysqlResultAlreadyExist : Int := 2

def mysqlResultGetNoPk : Int := 4

def mysqlResultNoMeta : Int := 5

def mysqlResultStoreResultErr : Int := 6

def mysqlResultSqlGenErr : Int := 7

def mysqlResultUnkown : Int := 0x7F

def mysqlResultSqlExeErr : Int := 0x7FFF

def erDupEntry : Nat := 1062

/-- A row by the names of its columns: the fields as they were assigned, before `GetFieldValueSQL` writes
their texts. -/
abbrev Row := String → Option MysqlField

/-- The rows of the tables, each known by the text of the condition on its primary key. -/
abbrev Database := String → Bytes → Option Row

def Row.assign (row : Row) (sets : List MysqlField) : Row :=
  sets.foldl (fun row mf => Function.update row mf.name (some mf)) row

def Database.put (database : Database) (tblname : String) (cond : Bytes) (row : Option Row) : Database :=
  Function.update database tblname (Function.update (database tblname) cond row)

@[simp] theorem Database.put_self (database : Database) (tblname : String) (cond : Bytes)
    (row : Option Row) :
    database.put tblname cond row tblname cond = row := by
  simp [put]

theorem Database.put_other {cond cond' : Bytes} (database : Database)
    (row : Option Row) (other : ¬ (tblname' = tblname ∧ cond' = cond)) :
    database.put tblname cond row tblname' cond' = database tblname' cond' := by
  by_cases same : tblname' = tblname
  · subst same
    have different : cond' ≠ cond := fun equal => other ⟨rfl, equal⟩
    simp [put, different]
  · simp [put, same]

/-- The SET list of an UPDATE: the fields that are not part of the primary key. -/
def MysqlMeta.getUpdateTableSQL (table : MysqlMeta) : List MysqlField → Except Fault (List MysqlField)
  | [] => .ok []
  | mf :: data =>
    match table.getFieldMeta mf.name with
    | none => .error .aborted
    | some field => do
      let sets ← table.getUpdateTableSQL data
      return if field.ispk then sets else mf :: sets

theorem MysqlMeta.getUpdateTableSQL_iff {table : MysqlMeta} {data : List MysqlField} :
    table.getUpdateTableSQL data = .ok sets ↔ (∀ mf ∈ data, (table.getFieldMeta mf.name).isSome) ∧
      sets = data.filter fun mf => !(table.getFieldMeta mf.name).any MysqlFieldMeta.ispk := by
  induction data generalizing sets with
  | nil => exact ⟨fun same => ⟨nofun, (Except.ok.inj same).symm⟩, fun all => congrArg Except.ok all.2.symm⟩
  | cons mf data ih =>
    unfold getUpdateTableSQL
    cases found : table.getFieldMeta mf.name with
    | none => simp [found]
    | some field =>
      dsimp only
      rw [bind_eq_ok, List.forall_mem_cons, List.filter_cons, found]
      simp only [ih]
      constructor
      · rintro ⟨rest, ⟨known, rfl⟩, whole⟩
        refine ⟨⟨rfl, known⟩, ?_⟩
        rw [← Except.ok.inj whole]
        cases key : field.ispk <;> simp [key]
      · rintro ⟨⟨-, known⟩, rfl⟩
        refine ⟨_, ⟨known, rfl⟩, congrArg Except.ok ?_⟩
        cases key : field.ispk <;> simp [key]

/-- The columns of a SELECT: the primary key and those asked for, or all of them. -/
def MysqlMeta.getSelectTableSQL (table : MysqlMeta) (selCols : List String) : List String :=
  let cols := if selCols.isEmpty then table.cols else table.cols.filter fun col => col.ispk ∨ col.name ∈ selCols
  cols.map MysqlFieldMeta.name

/-- How a statement fails, without a change to a row: no SQL is generated for it, the server answers with
the number of an error, or the result of a SELECT cannot be stored. -/
inductive Failure where
  | generate
  | execute (errno : Nat)
  | store

section MysqlProxy

variable (tableMetas : List MysqlMeta) (database : Database)

def selectRow (tblname : String) (cond : Bytes) (selCols : List String) (failure : Option Failure)
    (data : List MysqlField) : Int × List MysqlField :=
  match getTableMeta tableMetas tblname with
  | none => (mysqlResultNoMeta, data)
  | some table =>
    if cond.isEmpty then (mysqlResultGetNoPk, data)
    else
      match failure with
      | some .generate => (mysqlResultSqlGenErr, data)
      | some (.execute _) => (mysqlResultSqlExeErr, data)
      | some .store => (mysqlResultStoreResultErr, data)
      | none =>
        match database tblname cond with
        | none => (mysqlResultNoData, [])
        | some row => (mysqlResultOk, (table.getSelectTableSQL selCols).filterMap row)

def insertRow (tblname : String) (cond : Bytes) (data : List MysqlField) (failure : Option Failure) :
    Int × Database :=
  match getTableMeta tableMetas tblname with
  | none => (mysqlResultNoMeta, database)
  | some _ =>
    match failure with
    | some .generate => (mysqlResultSqlGenErr, database)
    | some (.execute errno) =>
      (if errno = erDupEntry then mysqlResultAlreadyExist else mysqlResultSqlExeErr + errno, database)
    | some .store | none =>
      if (database tblname cond).isSome then (mysqlResultAlreadyExist, database)
      else (mysqlResultOk, database.put tblname cond (some (Row.assign (fun _ => none) data)))

/-- A row that does not exist is not updated, without an error. -/
def updateRow (tblname : String) (cond : Bytes) (data : List MysqlField) (failure : Option Failure) :
    Except Fault (Int × Database) :=
  match getTableMeta tableMetas tblname with
  | none => .ok (mysqlResultNoMeta, database)
  | some table => do
    let sets ← table.getUpdateTableSQL data
    match failure with
    | some .generate => return (mysqlResultSqlGenErr, database)
    | some (.execute _) => return (mysqlResultSqlExeErr, database)
    | some .store | none =>
      -- without an assignment the statement is no SQL
      if sets = [] then return (mysqlResultSqlExeErr, database)
      else return (mysqlResultOk, database.put tblname cond ((database tblname cond).map (Row.assign · sets)))

def deleteRow (tblname : String) (cond : Bytes) (failure : Option Failure) : Int × Database :=
  match getTableMeta tableMetas tblname with
  | none => (mysqlResultNoMeta, database)
  | some _ =>
    match failure with
    | some .generate => (mysqlResultSqlGenErr, database)
    | some (.execute _) => (mysqlResultSqlExeErr, database)
    | some .store | none => (mysqlResultOk, database.put tblname cond none)

/-- Tables are created only if they do not exist; what `GetCreateTableSQL` returns is ignored. -/
def createTable (tblname : String) (failure : Option Failure) : Int :=
  match getTableMeta tableMetas tblname, failure with
  | none, _ => mysqlResultUnkown
  | some _, some (.execute _) => -1
  | some _, _ => 0

/-- `DispatchReq` up to the response, whose data are those of the last SELECT of the proxy. -/
def dispatchReq (req : MysqlRequest) (failure : Option Failure) (data : List MysqlField) :
    Except Fault (Int × List MysqlField × Database) :=
  match req.op with
  | .select =>
    let selected := selectRow tableMetas database req.tblname req.cond req.fields failure data
    .ok (selected.1, selected.2, database)
  | .insert =>
    let inserted := insertRow tableMetas database req.tblname req.cond req.data failure
    .ok (inserted.1, data, inserted.2)
  | .update => do
    let updated ← updateRow tableMetas database req.tblname req.cond req.data failure
    return (updated.1, data, updated.2)
  | .delete =>
    let deleted := deleteRow tableMetas database req.tblname req.cond failure
    .ok (deleted.1, data, deleted.2)
  | .createTb => .ok (createTable tableMetas req.tblname failure, data, database)

end MysqlProxy

inductive Work where
  | getRequest
  | dispatch (req : MysqlRequest)
  | respond (rsp : MysqlOpResponse)

structure MysqlProxy where
  /-- The data of its response, which only a SELECT replaces. -/
  data : List MysqlField := []
  work : Work := .getRequest

structure MysqlAgent where
  tableMetas : List MysqlMeta
  maxReqQueueSize : Int
  reqQueue : List MysqlRequest := []
  rspQueue : List MysqlOpResponse := []
  clientProxyList : List MysqlProxy

namespace MysqlAgent

/-- The bound is compared as a `size_t`. -/
def request (agent : MysqlAgent) (req : MysqlRequest) : Int × MysqlAgent :=
  if (agent.maxReqQueueSize % 2 ^ 64).toNat ≤ agent.reqQueue.length then (-1, agent)
  else (0, { agent with reqQueue := agent.reqQueue ++ [req] })

def getRequest (agent : MysqlAgent) : Option (MysqlRequest × MysqlAgent) :=
  match agent.reqQueue with
  | [] => none
  | req :: rest => some (req, { agent with reqQueue := rest })

def response (agent : MysqlAgent) (rsp : MysqlOpResponse) : MysqlAgent :=
  { agent with rspQueue := agent.rspQueue ++ [rsp] }

def polling (agent : MysqlAgent) (procNumPerTick : Int) : MysqlAgent :=
  { agent with rspQueue := agent.rspQueue.drop procNumPerTick.toNat }

def setProxy (agent : MysqlAgent) (worker : Nat) (proxy : MysqlProxy) : MysqlAgent :=
  { agent with clientProxyList := agent.clientProxyList.set worker proxy }

end MysqlAgent

/-- The agent and the database, with the requests accepted, taken and carried out so far. -/
structure MysqlWorld where
  agent : MysqlAgent
  database : Database
  accepted : List MysqlRequest := []
  /-- Each with the worker that took it. -/
  taken : List (Nat × MysqlRequest) := []
  executed : List (MysqlRequest × Int) := []

inductive MysqlEvent where
  | request (req : MysqlRequest)
  | getRequest (worker : Nat)
  /-- The worker carries out its request; the statement may fail with an error. -/
  | dispatch (worker : Nat) (failure : Option Failure)
  | respond (worker : Nat)
  | polling (procNumPerTick : Int)

/-- One event. Queues are locked and statements are atomic; a thread that dies takes the process with it. -/
def mysqlStep (world : MysqlWorld) : MysqlEvent → Option MysqlWorld
  | .request req =>
    match world.agent.request req with
    | (0, agent) => some { world with agent, accepted := world.accepted ++ [req] }
    | (_, agent) => some { world with agent }
  | .getRequest worker =>
    match world.agent.clientProxyList[worker]?, world.agent.getRequest with
    | some { data, work := .getRequest }, some (req, agent) =>
      some { world with
        agent := agent.setProxy worker { data, work := .dispatch req }
        taken := world.taken ++ [(worker, req)] }
    | _, _ => none
  | .dispatch worker failure =>
    match world.agent.clientProxyList[worker]? with
    | some { data, work := .dispatch req } =>
      match dispatchReq world.agent.tableMetas world.database req failure data with
      | .error _ => none
      | .ok (ret, data, database) =>
        let rsp : MysqlOpResponse := { ret, tblname := req.tblname, data, op := req.op, cb := req.cb }
        some { world with
          agent := world.agent.setProxy worker { data, work := .respond rsp }
          database
          executed := world.executed ++ [(req, ret)] }
    | _ => none
  | .respond worker =>
    match world.agent.clientProxyList[worker]? with
    | some { data, work := .respond rsp } =>
      some { world with agent := (world.agent.response rsp).setProxy worker { data, work := .getRequest } }
    | _ => none
  | .polling procNumPerTick => some { world with agent := world.agent.polling procNumPerTick }

/-- What an event does, case by case. -/
inductive MysqlChange (world : MysqlWorld) : MysqlEvent → MysqlWorld → Prop where
  | accepts (room : (world.agent.request req).1 = 0) :
      MysqlChange world (.request req)
        { world with
          agent := { world.agent with reqQueue := world.agent.reqQueue ++ [req] }
          accepted := world.accepted ++ [req] }
  | refuses (full : (world.agent.request req).1 ≠ 0) : MysqlChange world (.request req) world
  | takes (found : world.agent.clientProxyList[worker]? = some { data, work := .getRequest })
      (queue : world.agent.reqQueue = req :: rest) :
      MysqlChange world (.getRequest worker)
        { world with
          agent := { world.agent with reqQueue := rest }.setProxy worker { data, work := .dispatch req }
          taken := world.taken ++ [(worker, req)] }
  | executes {failure : Option Failure}
      (found : world.agent.clientProxyList[worker]? = some { data, work := .dispatch req })
      (dispatched : dispatchReq world.agent.tableMetas world.database req failure data = .ok (ret, out, database)) :
      MysqlChange world (.dispatch worker failure)
        { world with
          agent := world.agent.setProxy worker
            { data := out, work := .respond { ret, tblname := req.tblname, data := out, op := req.op, cb := req.cb } }
          database
          executed := world.executed ++ [(req, ret)] }
  | responds (found : world.agent.clientProxyList[worker]? = some { data, work := .respond rsp }) :
      MysqlChange world (.respond worker)
        { world with agent := (world.agent.response rsp).setProxy worker { data, work := .getRequest } }
  | polls : MysqlChange world (.polling n) { world with agent := world.agent.polling n }

theorem mysqlStep_change {world next : MysqlWorld} {event : MysqlEvent}
    (stepped : mysqlStep world event = some next) : MysqlChange world event next := by
  unfold mysqlStep at stepped
  split at stepped
  case h_1 req =>
    by_cases full : (world.agent.maxReqQueueSize % 2 ^ 64).toNat ≤ world.agent.reqQueue.length
    · have refused : world.agent.request req = (-1, world.agent) := if_pos full
      rw [refused] at stepped
      cases stepped
      exact .refuses (by simp [refused])
    · have accepted : world.agent.request req =
          (0, { world.agent with reqQueue := world.agent.reqQueue ++ [req] }) := if_neg full
      rw [accepted] at stepped
      cases stepped
      exact .accepts (by rw [accepted])
  case h_2 worker =>
    split at stepped
    case h_1 data req agent found taken =>
      cases stepped
      unfold MysqlAgent.getRequest at taken
      split at taken <;> cases taken
      case h_2 rest queue => exact .takes found queue
    case h_2 => cases stepped
  case h_3 worker failure =>
    split at stepped
    case h_1 data req found =>
      split at stepped
      case h_1 => cases stepped
      case h_2 ret out database dispatched =>
        cases stepped
        exact .executes found dispatched
    case h_2 => cases stepped
  case h_4 worker =>
    split at stepped
    case h_1 data rsp found =>
      cases stepped
      exact .responds found
    case h_2 => cases stepped
  case h_5 n =>
    cases stepped
    exact .polls

/-- The agent behind `Init` and `Start`, with one worker for each address. -/
def MysqlWorld.start (tableMetas : List MysqlMeta) (maxReqQueueSize : Int) (workers : Nat)
    (database : Database) : MysqlWorld where
  agent := { tableMetas, maxReqQueueSize, clientProxyList := List.replicate workers {} }
  database

section Requests

variable {Msg : Type} {proto : Protobuf Msg} {desc : Descriptor}

def getPrimaryKeyCondLoop (msg : Message proto desc) : List String → Nat → Bytes → Except Fault Bytes
  | [], _, key => .ok key
  | pk :: pks, done, key =>
    let key := if done > 0 then key ++ ascii " AND " else key
    match desc.findFieldByName pk with
    | none => .error .aborted
    | some i => do
      if !(← msg.hasField i) then .error (.returns (-1))
      else
        match keyText (← msg.get i) with
        | none => .error (.returns (-1))
        | some text => getPrimaryKeyCondLoop msg pks (done + 1) (key ++ ascii pk ++ ascii " = " ++ text)

def getPrimaryKeyCond (msg : Message proto desc) : Except Fault Bytes :=
  let pks := getTypePrimaryKey desc
  if pks.isEmpty then .error (.returns (-1)) else getPrimaryKeyCondLoop msg pks 0 []

/-- The request of `DBAgent::Update`. What `GenerateMysqlFields` returns is ignored. -/
def updateRequest (tableName : String) (obj : Message proto desc) (fields : List String) (cb : Bytes) :
    Except Fault MysqlRequest := do
  let key ← getPrimaryKeyCond obj
  match generateMysqlFields [] obj (some fields) with
  | none => .error .aborted
  | some (_, data) => return { tblname := tableName, op := .update, cond := key, data, fields, cb }

/-- The request of `DBProxy::UpdateRole`, for all fields. -/
def updateRole (role : Message proto desc) (cb : Bytes) : Except Fault MysqlRequest :=
  updateRequest "Role" role [] cb

end Requests

end Playground.Datacenter
