import Playground.Transition.Steps
import Playground.Queue.Lanes
import Playground.Datacenter.RoundTrip
import Playground.Datacenter.MysqlAgent

/-! Saves of one role that several workers carry out. -/

namespace Playground.Datacenter

open Framing Record Transition Queue

variable {req : MysqlRequest}

def keyColumn (tableMetas : List MysqlMeta) (tblname name : String) : Bool :=
  ((getTableMeta tableMetas tblname).bind (·.getFieldMeta name)).any MysqlFieldMeta.ispk

/-- The row holds the fields, as far as they are not part of its key. -/
def Row.Holds (row : Row) (tableMetas : List MysqlMeta) (tblname : String) (data : List MysqlField) :
    Prop :=
  ∀ mf ∈ data, keyColumn tableMetas tblname mf.name = false → row mf.name = some mf

theorem Row.assign_other {sets : List MysqlField} (row : Row)
    (other : name ∉ sets.map MysqlField.name) : row.assign sets name = row name := by
  induction sets generalizing row with
  | nil => rfl
  | cons mf sets ih =>
    rw [List.map_cons, List.mem_cons, not_or] at other
    refine (ih (Function.update row mf.name (some mf)) other.2).trans ?_
    exact Function.update_of_ne other.1 _ _

theorem Row.assign_mem {sets : List MysqlField} {mf : MysqlField} (row : Row)
    (distinct : (sets.map MysqlField.name).Nodup) (member : mf ∈ sets) : row.assign sets mf.name = some mf := by
  induction sets generalizing row with
  | nil => cases member
  | cons first sets ih =>
    rw [List.map_cons, List.nodup_cons] at distinct
    rcases List.mem_cons.mp member with rfl | later
    · refine (Row.assign_other (Function.update row mf.name (some mf)) distinct.1).trans ?_
      exact Function.update_self _ _ _
    · exact ih _ distinct.2 later

variable {tableMetas : List MysqlMeta} {database after : Database} {tblname : String} {cond : Bytes}
  {data out : List MysqlField} {failure : Option Failure} {ret : Int}

theorem updateRow_cases (updated : updateRow tableMetas database tblname cond data failure = .ok (ret, after)) :
    ret ≠ mysqlResultOk ∧ after = database ∨
      ret = mysqlResultOk ∧ ∃ table sets, getTableMeta tableMetas tblname = some table ∧
        table.getUpdateTableSQL data = .ok sets ∧
        after = database.put tblname cond ((database tblname cond).map (Row.assign · sets)) := by
  unfold updateRow at updated
  cases registered : getTableMeta tableMetas tblname with
  | none =>
    rw [registered] at updated
    cases updated
    exact .inl ⟨by decide, rfl⟩
  | some table =>
    rw [registered] at updated
    obtain ⟨sets, generated, whole⟩ := bind_eq_ok.mp updated
    split at whole
    · cases whole
      exact .inl ⟨by decide, rfl⟩
    · cases whole
      exact .inl ⟨by decide, rfl⟩
    all_goals
      split at whole
      · cases whole
        exact .inl ⟨by decide, rfl⟩
      · cases whole
        exact .inr ⟨rfl, table, sets, rfl, generated, rfl⟩

theorem updateRow_row
    (updated : updateRow tableMetas database tblname cond data failure = .ok (ret, after))
    (distinct : (data.map MysqlField.name).Nodup) (found : database tblname cond = some row) :
    ∃ next, after tblname cond = some next ∧ (ret = mysqlResultOk → next.Holds tableMetas tblname data) := by
  rcases updateRow_cases updated with ⟨failed, rfl⟩ | ⟨-, table, sets, registered, generated, rfl⟩
  · exact ⟨row, found, fun done => absurd done failed⟩
  · refine ⟨row.assign sets, by simp [found], fun _ mf member free => ?_⟩
    have kept : sets = data.filter _ := (MysqlMeta.getUpdateTableSQL_iff.mp generated).2
    refine Row.assign_mem row ?_ ?_
    · rw [kept]
      exact distinct.sublist (List.filter_sublist.map _)
    · rw [kept]
      refine List.mem_filter.mpr ⟨member, ?_⟩
      simpa [keyColumn, registered] using free

private theorem updateRow_other
    (updated : updateRow tableMetas database tblname cond data failure = .ok (ret, after))
    (other : ¬ (tblname' = tblname ∧ cond' = cond)) : after tblname' cond' = database tblname' cond' := by
  rcases updateRow_cases updated with ⟨-, rfl⟩ | ⟨-, table, sets, -, -, rfl⟩
  · rfl
  · exact database.put_other _ other

private theorem insertRow_other (other : ¬ (tblname' = tblname ∧ cond' = cond)) :
    (insertRow tableMetas database tblname cond data failure).2 tblname' cond' = database tblname' cond' := by
  unfold insertRow
  repeat' split
  all_goals first | rfl | exact database.put_other _ other

private theorem deleteRow_other (other : ¬ (tblname' = tblname ∧ cond' = cond)) :
    (deleteRow tableMetas database tblname cond failure).2 tblname' cond' = database tblname' cond' := by
  unfold deleteRow
  repeat' split
  all_goals first | rfl | exact database.put_other _ other

def MysqlRequest.onRow (tblname : String) (cond : Bytes) (req : MysqlRequest) : Bool :=
  req.tblname = tblname ∧ req.cond = cond

theorem dispatchReq_other
    (dispatched : dispatchReq tableMetas database req failure data = .ok (ret, out, after))
    (other : req.onRow tblname cond = false) : after tblname cond = database tblname cond := by
  have apart : ¬ (tblname = req.tblname ∧ cond = req.cond) := by
    rintro ⟨rfl, rfl⟩
    simp [MysqlRequest.onRow] at other
  unfold dispatchReq at dispatched
  split at dispatched
  case h_1 => cases dispatched; rfl
  case h_2 => cases dispatched; exact insertRow_other apart
  case h_3 =>
    obtain ⟨updated, step, whole⟩ := bind_eq_ok.mp dispatched
    cases whole
    exact updateRow_other step apart
  case h_4 => cases dispatched; exact deleteRow_other apart
  case h_5 => cases dispatched; rfl

theorem dispatchReq_kept
    (dispatched : dispatchReq tableMetas database req failure data = .ok (ret, out, after))
    (update : req.op ≠ .update) (delete : req.op ≠ .delete)
    (present : (database req.tblname req.cond).isSome) : after = database := by
  unfold dispatchReq at dispatched
  split at dispatched
  case h_1 => cases dispatched; rfl
  case h_2 =>
    cases dispatched
    unfold insertRow
    rw [if_pos present]
    repeat' split
    all_goals rfl
  case h_3 isUpdate => exact absurd isUpdate update
  case h_4 isDelete => exact absurd isDelete delete
  case h_5 => cases dispatched; rfl

section Saves

variable {Msg : Type} {proto : Protobuf Msg} {desc : Descriptor}

private theorem generateMysqlFields_distinct {obj : Message proto desc}
    (generated : generateMysqlFields [] obj fields = some (ret, out)) :
    (out.map MysqlField.name).Nodup := by
  obtain ⟨done, _, rfl, stored, inside, -⟩ := generateMysqlFieldsLoop_pushed generated
  have names : out.map MysqlField.name = done.map fun i => (desc.field i).name :=
    map_eq_map stored stored_name
  have distinct : Function.Injective fun i : desc.Index => (desc.field i).name :=
    fun _ _ same => desc.name_injective same
  rw [names]
  exact ((List.nodup_finRange _).sublist inside).map distinct

/-- The request saves a role, a message of the type that `desc` describes. -/
def SavesRole (proto : Protobuf Msg) (desc : Descriptor) (req : MysqlRequest) : Prop :=
  ∃ (role : Message proto desc) (cb : Bytes), updateRole role cb = .ok req

theorem SavesRole.distinct (saves : SavesRole proto desc req) :
    (req.data.map MysqlField.name).Nodup := by
  obtain ⟨role, cb, requested⟩ := saves
  obtain ⟨key, _, built⟩ := bind_eq_ok.mp requested
  split at built
  · cases built
  case h_2 generated =>
    cases built
    exact generateMysqlFields_distinct generated

end Saves

def MysqlProxy.held (proxy : MysqlProxy) : List MysqlRequest :=
  match proxy.work with
  | .dispatch req => [req]
  | _ => []

def MysqlAgent.held (agent : MysqlAgent) (worker : Nat) : List MysqlRequest :=
  (agent.clientProxyList[worker]?).elim [] MysqlProxy.held

theorem MysqlAgent.held_idle {agent : MysqlAgent} (idle : ∀ proxy ∈ agent.clientProxyList, proxy.held = [])
    (worker : Nat) : agent.held worker = [] := by
  unfold held
  cases found : agent.clientProxyList[worker]? with
  | none => rfl
  | some proxy => exact idle proxy (List.mem_of_getElem? found)

theorem MysqlAgent.held_setProxy {agent : MysqlAgent} (proxy : MysqlProxy)
    (found : agent.clientProxyList[worker]? = some before) :
    (agent.setProxy worker proxy).held = Function.update agent.held worker proxy.held := by
  have within := (List.getElem?_eq_some_iff.mp found).1
  funext other
  by_cases same : other = worker
  · subst same
    simp [held, setProxy, List.getElem?_set_self within]
  · simp [held, setProxy, List.getElem?_set_ne (Ne.symm same), same]

def MysqlWorld.lanes (world : MysqlWorld) : Lanes Nat MysqlRequest where
  pending := world.agent.held
  sent := world.taken.map Prod.snd
  done := world.executed.map Prod.fst

/-- What a call does to queue, workers and rows. -/
inductive MysqlMoves (world : MysqlWorld) : MysqlEvent → MysqlWorld → Prop where
  | accepts (req : MysqlRequest) (queue : next.agent.reqQueue = world.agent.reqQueue ++ [req])
      (accepted : next.accepted = world.accepted ++ [req]) (lanes : next.lanes = world.lanes)
      (executed : next.executed = world.executed) (rows : next.database = world.database) :
      MysqlMoves world (.request req) next
  | takes (worker : Nat) (req : MysqlRequest) (head : world.agent.reqQueue = req :: next.agent.reqQueue)
      (accepted : next.accepted = world.accepted) (lanes : next.lanes = world.lanes.send worker req)
      (executed : next.executed = world.executed) (rows : next.database = world.database) :
      MysqlMoves world (.getRequest worker) next
  | executes (worker : Nat) (req : MysqlRequest) (ret : Int) (data out : List MysqlField)
      (failure : Option Failure) (queue : next.agent.reqQueue = world.agent.reqQueue)
      (accepted : next.accepted = world.accepted) (held : world.agent.held worker = [req])
      (lanes : next.lanes = world.lanes.finish worker req [])
      (executed : next.executed = world.executed ++ [(req, ret)])
      (dispatched : dispatchReq world.agent.tableMetas world.database req failure data =
        .ok (ret, out, next.database)) :
      MysqlMoves world (.dispatch worker failure) next
  | rests (queue : next.agent.reqQueue = world.agent.reqQueue) (accepted : next.accepted = world.accepted)
      (lanes : next.lanes = world.lanes) (executed : next.executed = world.executed)
      (rows : next.database = world.database) : MysqlMoves world event next

variable {world next : MysqlWorld} {event : MysqlEvent}

theorem mysqlStep_moves (stepped : mysqlStep world event = some next) :
    MysqlMoves world event next ∧ next.agent.tableMetas = world.agent.tableMetas ∧
      next.agent.clientProxyList.length = world.agent.clientProxyList.length := by
  cases mysqlStep_change stepped with
  | @accepts req => exact ⟨.accepts req rfl rfl rfl rfl rfl, rfl, rfl⟩
  | refuses | polls => exact ⟨.rests rfl rfl rfl rfl rfl, rfl, rfl⟩
  | @takes worker req rest data found queue =>
    refine ⟨.takes worker req queue rfl ?_ rfl rfl, rfl, List.length_set⟩
    have held : world.agent.held worker = [] := by simp [MysqlAgent.held, found, MysqlProxy.held]
    have shorter : { world.agent with reqQueue := rest }.clientProxyList[worker]? = _ := found
    refine Lanes.ext ?_ List.map_append rfl
    refine (MysqlAgent.held_setProxy _ shorter).trans ?_
    change _ = Function.update world.agent.held worker (world.agent.held worker ++ [req])
    rw [held]
    rfl
  | @executes worker req data ret out _ failure found dispatched =>
    have held : world.agent.held worker = [req] := by simp [MysqlAgent.held, found, MysqlProxy.held]
    refine ⟨.executes worker req ret data out failure rfl rfl held ?_ rfl dispatched, rfl, List.length_set⟩
    refine Lanes.ext ?_ rfl (by simp [MysqlWorld.lanes])
    exact MysqlAgent.held_setProxy _ found
  | @responds worker rsp data found =>
    refine ⟨.rests rfl rfl ?_ rfl rfl, rfl, List.length_set⟩
    have held : world.agent.held worker = [] := by simp [MysqlAgent.held, found, MysqlProxy.held]
    refine Lanes.ext ?_ rfl rfl
    have answered : (world.agent.response rsp).clientProxyList[worker]? = _ := found
    refine (MysqlAgent.held_setProxy _ answered).trans ?_
    exact Function.update_eq_self_iff.mpr held.symm

/-- A worker takes a request while no other worker is about to carry out one on the same row. -/
def Apart (world : MysqlWorld) : MysqlEvent → Prop
  | .getRequest worker => ∀ req ∈ world.agent.reqQueue.head?, ∀ other, other ≠ worker →
      ∀ ahead ∈ world.agent.held other, ahead.onRow req.tblname req.cond = false
  | _ => True

def ApartStep (world : MysqlWorld) (event : MysqlEvent) (next : MysqlWorld) : Prop :=
  mysqlStep world event = some next ∧ Apart world event

private theorem apart_of_one_proxy (one : world.agent.clientProxyList.length ≤ 1)
    (stepped : mysqlStep world event = some next) : Apart world event := by
  cases event with
  | getRequest worker =>
    intro req _ other different ahead member
    have within : worker < world.agent.clientProxyList.length := by
      by_contra beyond
      simp [mysqlStep, List.getElem?_eq_none (Nat.le_of_not_lt beyond)] at stepped
    have beyond : world.agent.clientProxyList.length ≤ other := by omega
    simp [MysqlAgent.held, List.getElem?_eq_none beyond] at member
  | _ => trivial

theorem steps_apart_iff (one : workers ≤ 1) :
    Steps ApartStep (.start tableMetas maxReqQueueSize workers database) events final ↔
      Steps (fun world event next => mysqlStep world event = some next)
        (.start tableMetas maxReqQueueSize workers database) events final := by
  have same {world event next} (one : world.agent.clientProxyList.length ≤ 1) :
      ApartStep world event next ↔ mysqlStep world event = some next :=
    ⟨And.left, fun stepped => ⟨stepped, apart_of_one_proxy one stepped⟩⟩
  have keeps {world event next} (step : ApartStep world event next)
      (one : world.agent.clientProxyList.length ≤ 1) : next.agent.clientProxyList.length ≤ 1 :=
    (mysqlStep_moves step.1).2.2.trans_le one
  exact Steps.congr same keeps (List.length_replicate.trans_le one)

variable {Msg : Type} {proto : Protobuf Msg} {desc : Descriptor}

def MysqlRequest.Fits (proto : Protobuf Msg) (desc : Descriptor) (cond : Bytes) (req : MysqlRequest) :
    Prop :=
  req.onRow "Role" cond → req.op ≠ .delete ∧ (req.op = .update → SavesRole proto desc req)

def MysqlRequest.saves (cond : Bytes) (req : MysqlRequest) : Bool :=
  req.onRow "Role" cond && req.op = .update

theorem filter_saves (reqs : List MysqlRequest) :
    (reqs.filter (MysqlRequest.onRow "Role" cond)).filter (fun req => req.op = .update) =
      reqs.filter (MysqlRequest.saves cond) := by
  rw [List.filter_filter]
  exact List.filter_congr fun req _ => Bool.and_comm _ _

theorem dispatchReq_unsaved
    (dispatched : dispatchReq tableMetas database req failure data = .ok (ret, out, after))
    (fits : req.Fits proto desc cond) (unsaved : req.saves cond = false)
    (found : database "Role" cond = some row) : after "Role" cond = some row := by
  cases onRow : req.onRow "Role" cond with
  | false => exact (dispatchReq_other dispatched onRow).trans found
  | true =>
    have same : req.tblname = "Role" ∧ req.cond = cond := by simpa [MysqlRequest.onRow] using onRow
    have noUpdate : req.op ≠ .update := by simpa [MysqlRequest.saves, onRow] using unsaved
    rw [dispatchReq_kept dispatched noUpdate (fits onRow).1 (by simp [same, found])]
    exact found

theorem dispatchReq_saved
    (dispatched : dispatchReq tableMetas database req failure data = .ok (ret, out, after))
    (fits : req.Fits proto desc cond) (saves : req.saves cond = true)
    (found : database "Role" cond = some row) :
    ∃ next, after "Role" cond = some next ∧ (ret = mysqlResultOk → next.Holds tableMetas "Role" req.data) := by
  obtain ⟨onRow, isUpdate⟩ : req.onRow "Role" cond = true ∧ req.op = .update := by
    simpa [MysqlRequest.saves] using saves
  have same : req.tblname = "Role" ∧ req.cond = cond := by simpa [MysqlRequest.onRow] using onRow
  unfold dispatchReq at dispatched
  rw [isUpdate] at dispatched
  obtain ⟨⟨code, rows⟩, step, whole⟩ := bind_eq_ok.mp dispatched
  obtain ⟨rfl, _, rfl⟩ : code = ret ∧ data = out ∧ rows = after := by
    simpa using Except.ok.inj whole
  rw [same.1, same.2] at step
  exact updateRow_row step ((fits onRow).2 isUpdate).distinct found

/-- What holds of the saves of one role while the workers stay apart. -/
structure MysqlWorld.Saving (proto : Protobuf Msg) (desc : Descriptor) (cond : Bytes) (world : MysqlWorld) :
    Prop where
  queue : world.accepted = world.taken.map Prod.snd ++ world.agent.reqQueue
  fits : ∀ req ∈ world.accepted, req.Fits proto desc cond
  ordered : world.lanes.Ordered (MysqlRequest.onRow "Role" cond)
  /-- The row holds the data of the last save carried out, if that one succeeded. -/
  row : ∃ row, world.database "Role" cond = some row ∧
    ∀ {req}, (world.executed.filter fun entry => entry.1.saves cond).getLast? = some (req, mysqlResultOk) →
      row.Holds world.agent.tableMetas "Role" req.data

theorem MysqlWorld.Saving.held_fits (saving : world.Saving proto desc cond)
    (held : req ∈ world.agent.held worker) : req.Fits proto desc cond := by
  intro onRow
  refine saving.fits req ?_ onRow
  rw [saving.queue]
  refine List.mem_append_left _ ?_
  obtain ⟨lane, others, along⟩ := saving.ordered
  have pending : req ∈ (world.lanes.pending worker).filter (MysqlRequest.onRow "Role" cond) :=
    List.mem_filter.mpr ⟨held, onRow⟩
  by_cases same : worker = lane
  · subst same
    have sent : req ∈ world.lanes.sent.filter (MysqlRequest.onRow "Role" cond) := by
      rw [along]
      exact List.mem_append_right _ pending
    exact (List.mem_filter.mp sent).1
  · rw [others worker same] at pending
    cases pending

theorem MysqlWorld.Saving.step (saving : world.Saving proto desc cond)
    (stepped : ApartStep world event next)
    (only : ∀ req, event = .request req → req.Fits proto desc cond) : next.Saving proto desc cond := by
  obtain ⟨moves, metas, _⟩ := mysqlStep_moves stepped.1
  have kept : next.executed = world.executed → next.database = world.database →
      ∃ row, next.database "Role" cond = some row ∧
        ∀ {req}, (next.executed.filter fun entry => entry.1.saves cond).getLast? = some (req, mysqlResultOk) →
          row.Holds next.agent.tableMetas "Role" req.data := by
    intro executed rows
    rw [executed, rows, metas]
    exact saving.row
  cases moves with
  | accepts req queue accepted lanes executed rows =>
    have taken : next.taken.map Prod.snd = world.taken.map Prod.snd := congrArg Lanes.sent lanes
    refine ⟨?_, ?_, lanes ▸ saving.ordered, kept executed rows⟩
    · rw [accepted, taken, queue, saving.queue, List.append_assoc]
    · intro other member
      rw [accepted] at member
      rcases List.mem_append.mp member with old | new
      · exact saving.fits other old
      · obtain rfl := List.mem_singleton.mp new
        exact only other rfl
  | takes worker req head accepted lanes executed rows =>
    have taken : next.taken.map Prod.snd = world.taken.map Prod.snd ++ [req] := congrArg Lanes.sent lanes
    refine ⟨?_, accepted ▸ saving.fits, ?_, kept executed rows⟩
    · rw [accepted, taken, saving.queue, head, List.append_assoc]
      rfl
    · rw [lanes]
      refine saving.ordered.send fun onRow other different => ?_
      have apart := stepped.2 req (by rw [head]; rfl) other different
      have same : req.tblname = "Role" ∧ req.cond = cond := by simpa [MysqlRequest.onRow] using onRow
      refine List.filter_eq_nil_iff.mpr fun ahead member => ?_
      rw [← same.1, ← same.2]
      simpa using apart ahead member
  | executes worker req ret data out failure queue accepted held lanes executed dispatched =>
    have taken : next.taken.map Prod.snd = world.taken.map Prod.snd := congrArg Lanes.sent lanes
    refine ⟨by rw [accepted, taken, queue, saving.queue], accepted ▸ saving.fits, ?_, ?_⟩
    · rw [lanes]
      exact saving.ordered.finish held
    · obtain ⟨row, found, holds⟩ := saving.row
      rw [executed, metas]
      have fits := saving.held_fits (held ▸ List.mem_singleton_self req)
      cases saves : req.saves cond with
      | false =>
        refine ⟨row, dispatchReq_unsaved dispatched fits saves found, ?_⟩
        intro last isLast
        exact holds (by simpa [saves] using isLast)
      | true =>
        obtain ⟨after, present, written⟩ := dispatchReq_saved dispatched fits saves found
        refine ⟨after, present, ?_⟩
        intro last isLast
        obtain ⟨rfl, ok⟩ : req = last ∧ ret = mysqlResultOk := by simpa [saves] using isLast
        exact written ok
  | rests queue accepted lanes executed rows =>
    have taken : next.taken.map Prod.snd = world.taken.map Prod.snd := congrArg Lanes.sent lanes
    exact ⟨by rw [accepted, taken, queue, saving.queue], accepted ▸ saving.fits, lanes ▸ saving.ordered,
      kept executed rows⟩

theorem MysqlWorld.lanes_start (maxReqQueueSize : Int) (workers : Nat) :
    (MysqlWorld.start tableMetas maxReqQueueSize workers database).lanes = Lanes.empty := by
  refine Lanes.ext (funext fun worker => ?_) rfl rfl
  by_cases within : worker < workers <;>
    simp [MysqlWorld.lanes, MysqlWorld.start, MysqlAgent.held, MysqlProxy.held, Lanes.empty, within]

/-- Every request on the row of the role that was accepted has been carried out, the saves with
success. -/
structure MysqlWorld.Saved (world : MysqlWorld) (cond : Bytes) : Prop where
  queue : ∀ req ∈ world.agent.reqQueue, req.onRow "Role" cond = false
  workers : ∀ worker, ∀ req ∈ world.agent.held worker, req.onRow "Role" cond = false
  succeeded : ∀ entry ∈ world.executed, entry.1.saves cond → entry.2 = mysqlResultOk

theorem MysqlWorld.Saved.of_idle (queue : ∀ req ∈ world.agent.reqQueue, req.onRow "Role" cond = false)
    (idle : ∀ proxy ∈ world.agent.clientProxyList, proxy.held = [])
    (succeeded : ∀ entry ∈ world.executed, entry.1.saves cond → entry.2 = mysqlResultOk) :
    world.Saved cond where
  queue := queue
  workers worker req member := by
    rw [MysqlAgent.held_idle idle] at member
    cases member
  succeeded := succeeded

/-- In every run in which the workers stay apart: when all saves of a role that were accepted have
been carried out with success, its row holds the data of the one accepted last. The role may be
read and inserted in between. -/
theorem last_save_wins {maxReqQueueSize : Int} {workers : Nat} {events : List MysqlEvent}
    {final : MysqlWorld}
    {last : MysqlRequest}
    (run : Steps ApartStep (.start tableMetas maxReqQueueSize workers database) events final)
    (exists_row : (database "Role" cond).isSome)
    (only : ∀ req, .request req ∈ events → req.Fits proto desc cond) (saved : final.Saved cond)
    (isLast : (final.accepted.filter (MysqlRequest.saves cond)).getLast? = some last) :
    ∃ row, final.database "Role" cond = some row ∧ row.Holds final.agent.tableMetas "Role" last.data := by
  have saving : final.Saving proto desc cond := by
    refine (run.restrict (fun event member => ?_)).invariant
      (fun step saving => saving.step step.1 step.2) ?_
    · intro req same
      exact only req (same ▸ member)
    · obtain ⟨row, found⟩ := Option.isSome_iff_exists.mp exists_row
      refine ⟨rfl, nofun, ?_, row, found, nofun⟩
      rw [MysqlWorld.lanes_start]
      exact Lanes.ordered_empty _
  obtain ⟨row, found, holds⟩ := saving.row
  refine ⟨row, found, ?_⟩
  have none : final.agent.reqQueue.filter (MysqlRequest.onRow "Role" cond) = [] :=
    List.filter_eq_nil_iff.mpr fun req member => by simp [saved.queue req member]
  have drained : (final.executed.map Prod.fst).filter (MysqlRequest.onRow "Role" cond) =
      final.accepted.filter (MysqlRequest.onRow "Role" cond) := by
    rw [saving.queue, List.filter_append, none, List.append_nil]
    exact saving.ordered.drained fun worker => List.filter_eq_nil_iff.mpr fun req member => by
      simp [saved.workers worker req member]
  have savings : (final.executed.map Prod.fst).filter (MysqlRequest.saves cond) =
      final.accepted.filter (MysqlRequest.saves cond) := by
    rw [← filter_saves, drained, filter_saves]
  rw [← savings, List.filter_map, List.getLast?_map] at isLast
  obtain ⟨entry, found, rfl⟩ := Option.map_eq_some_iff.mp isLast
  have member := List.mem_filter.mp (List.mem_of_getLast? found)
  have success := saved.succeeded entry member.1 member.2
  exact holds (found.trans (by rw [← success]))

def roleDescriptor : Descriptor where
  fields :=
    [{ name := "rid", typeName := "uint64", default := .uint64 0 },
     { name := "name", typeName := "string", default := .string [] },
     { name := "base", typeName := "message", default := .message "db.RoleBase" },
     { name := "hero", typeName := "message", default := .message "db.RoleHeroInfo" },
     { name := "pack", typeName := "message", default := .message "db.RolePackage" },
     { name := "grow", typeName := "message", default := .message "db.RoleGrowth" },
     { name := "stage", typeName := "message", default := .message "db.RoleStage" },
     { name := "sns", typeName := "message", default := .message "db.RoleSNS" },
     { name := "act", typeName := "message", default := .message "db.RoleActInfo" },
     { name := "ext", typeName := "message", default := .message "db.RoleExt" }]
  distinct := by decide +kernel
  nested name :=
    if name = "_PrimaryKey" then some [{ name := "rid", typeName := "uint32", default := .uint32 0 }]
    else if name = "_MaxLength" then some [{ name := "name", typeName := "uint32", default := .uint32 32 }]
    else none

def roleWire : Protobuf (String × Bytes) where
  findMessageTypeByName name := if name = "db.Role" then some roleDescriptor else none
  typeName := Prod.fst
  defaultInstance type := (type, [])
  serializeToArray msg := some msg.2
  parseFromArray type bytes := some (type, bytes)

def richRole (gold : UInt8) : Message roleWire roleDescriptor where
  content := ![.singular (some (.uint64 7)), .singular (some (.string (ascii "ann"))),
    .singular (some (.message ("db.RoleBase", [8, 0, 16, gold, 24, 0]))),
    .singular (some (.message ("db.RoleHeroInfo", [18, 0]))),
    .singular (some (.message ("db.RolePackage", [8, 0, 24, 1]))),
    .singular (some (.message ("db.RoleGrowth", []))),
    .singular (some (.message ("db.RoleStage", [8, 0]))),
    .singular (some (.message ("db.RoleSNS", [8, 5]))),
    .singular (some (.message ("db.RoleActInfo", []))),
    .singular (some (.message ("db.RoleExt", [8, 0])))]
  fits i := by
    change Fin 10 at i
    fin_cases i <;> exact ⟨rfl, fun held own => Option.some.inj own ▸ rfl⟩

def roleMetas : List MysqlMeta :=
  ((generateMysqlMetas roleWire ["Role"]).toOption).get (by decide +kernel)

def saveCallBack : Bytes := [7, 0, 0, 0, 0, 0, 0, 0, 3, 0, 0, 0, 0, 0, 0, 0, 0, 0, 0, 0, 0, 0, 0, 0]

def richSave (gold : UInt8) : Except Fault MysqlRequest := updateRole (richRole gold) saveCallBack

def poorSaved : MysqlRequest := (richSave 1).toOption.get (by decide +kernel)

def richSaved : MysqlRequest := (richSave 2).toOption.get (by decide +kernel)

def richBase (gold : UInt8) : MysqlField :=
  { name := "base", type := .blob, buffer := [8, 0, 16, gold, 24, 0] }

def roleDatabase : Database :=
  Database.put (fun _ _ => none) "Role" (ascii "rid = 7") (some (Row.assign (fun _ => none) poorSaved.data))

def inOrderEvents : List MysqlEvent :=
  [.request poorSaved, .request richSaved, .getRequest 0, .dispatch 0 none, .respond 0, .getRequest 0,
    .dispatch 0 none, .respond 0]

def inOrder : MysqlWorld :=
  (runAll mysqlStep (.start roleMetas 32 1 roleDatabase) inOrderEvents).get (by decide +kernel)

theorem last_save_wins_inOrder : inOrder.accepted = [poorSaved, richSaved] ∧
    ∃ row, inOrder.database "Role" (ascii "rid = 7") = some row ∧
      row.Holds inOrder.agent.tableMetas "Role" richSaved.data := by
  have run : Steps ApartStep (.start roleMetas 32 1 roleDatabase) inOrderEvents inOrder :=
    (steps_apart_iff (Nat.le_refl 1)).mpr (steps_of_runAll (Option.some_get _).symm)
  have only : ∀ req, .request req ∈ inOrderEvents → req.Fits roleWire roleDescriptor (ascii "rid = 7") := by
    intro req member _
    simp only [inOrderEvents, List.mem_cons, List.not_mem_nil, MysqlEvent.request.injEq, reduceCtorEq,
      or_false] at member
    rcases member with rfl | rfl
    · exact ⟨by decide +kernel, fun _ => ⟨richRole 1, saveCallBack, by decide +kernel⟩⟩
    · exact ⟨by decide +kernel, fun _ => ⟨richRole 2, saveCallBack, by decide +kernel⟩⟩
  have saved : inOrder.Saved (ascii "rid = 7") :=
    .of_idle (by decide +kernel) (by decide +kernel) (by decide +kernel)
  exact ⟨by decide +kernel, last_save_wins run (by decide +kernel) only saved (by decide +kernel)⟩

/-- Both saves are accepted and taken in order, but the worker with the later one is faster. -/
def overtaken : MysqlWorld :=
  (runAll mysqlStep (.start roleMetas 32 2 roleDatabase)
    [.request poorSaved, .request richSaved, .getRequest 0, .getRequest 1, .dispatch 1 none, .respond 1,
      .dispatch 0 none, .respond 0]).get (by decide +kernel)

/-- The role was saved with one piece of gold and then with two. Both saves succeeded, and the row
holds the first one. -/
theorem first_save_won : (∃ events, Steps (fun world event next => mysqlStep world event = some next)
      (.start roleMetas 32 2 roleDatabase) events overtaken) ∧
    richSave 1 = .ok poorSaved ∧ richSave 2 = .ok richSaved ∧
    overtaken.accepted = [poorSaved, richSaved] ∧ overtaken.Saved (ascii "rid = 7") ∧
    richBase 2 ∈ richSaved.data ∧
    (overtaken.database "Role" (ascii "rid = 7")).map (· "base") = some (some (richBase 1)) ∧
    ¬ ∃ row, overtaken.database "Role" (ascii "rid = 7") = some row ∧
      row.Holds overtaken.agent.tableMetas "Role" richSaved.data := by
  have base : (overtaken.database "Role" (ascii "rid = 7")).map (· "base") = some (some (richBase 1)) := by
    decide +kernel
  have member : richBase 2 ∈ richSaved.data := by decide +kernel
  refine ⟨⟨_, steps_of_runAll (Option.some_get _).symm⟩, by decide +kernel, by decide +kernel,
    by decide +kernel, .of_idle (by decide +kernel) (by decide +kernel) (by decide +kernel), member, base, ?_⟩
  rintro ⟨row, found, holds⟩
  rw [found] at base
  have written := holds (richBase 2) member (by decide +kernel)
  have first : row "base" = some (richBase 1) := Option.some.inj base
  cases first.symm.trans written

end Playground.Datacenter
