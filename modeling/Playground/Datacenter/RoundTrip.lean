import Playground.Record.Fill
import Playground.Datacenter.DBAgent

/-! Storing an object and reading it back. -/

namespace Playground.Datacenter

open Framing Record

variable {Msg : Type} {proto : Protobuf Msg} {desc : Descriptor} {tableMetas : List MysqlMeta}
  {table : String} {obj msg : Message proto desc} {i : desc.Index} {mf : MysqlField} {data : List MysqlField}

variable {field : FieldDescriptor}

def CppType.column : CppType → ValType
  | .bool => .int32
  | .enum => .int32
  | .int32 => .int32
  | .int64 => .int64
  | .string => .varchar
  | .uint32 => .uint32
  | .uint64 => .uint64
  | .float => .real32
  | .double => .real64
  | .message => .blob

structure MysqlFieldMeta.Describes (col : MysqlFieldMeta) (field : FieldDescriptor) : Prop where
  name : col.name = field.name
  type : col.type = field.cppType.column
  typeName : ∀ {fullName}, field.default = .message fullName → col.typeName = fullName

theorem generateFieldMeta_describes {col : MysqlFieldMeta}
    (generated : generateFieldMeta desc pks field = .ok col) : col.Describes field := by
  unfold generateFieldMeta at generated
  dsimp only at generated
  split at generated
  case h_5 text type =>
    cases length : getFieldMaxLength desc field.name with
    | error fault => rw [length] at generated; cases generated
    | ok maxlen =>
      rw [length] at generated
      obtain rfl := Except.ok.inj generated
      refine ⟨rfl, by rw [FieldDescriptor.cppType, type]; rfl, fun message => ?_⟩
      cases type.symm.trans message
  all_goals
    rename_i type
    obtain rfl := Except.ok.inj generated
    refine ⟨rfl, by rw [FieldDescriptor.cppType, type]; rfl, fun message => ?_⟩
    cases type.symm.trans message
    try rfl

theorem generateMysqlField_typed {value : Value Msg}
    (generated : generateMysqlField proto name value = .ok mf) :
    mf.name = name ∧ mf.type = value.cppType.column := by
  cases value with
  | message msg =>
    simp only [generateMysqlField] at generated
    split at generated
    · cases generated
    · obtain rfl := Except.ok.inj generated
      exact ⟨rfl, rfl⟩
  | _ =>
    obtain rfl := Except.ok.inj generated
    exact ⟨rfl, rfl⟩

section

variable {row : MysqlMeta} (generated : generateRowMeta proto table = .ok row)

include generated

theorem generateRowMeta_eq_ok :
    ∃ desc cols, proto.findMessageTypeByName (objTypeName table) = some desc ∧
      getTypePrimaryKey desc ≠ [] ∧
      desc.fields.mapM (generateFieldMeta desc (getTypePrimaryKey desc)) = .ok cols ∧
      row = { tblname := table, cols } := by
  unfold generateRowMeta at generated
  dsimp only at generated
  split at generated
  · cases generated
  · next desc found =>
    split at generated
    · cases generated
    · next keyed =>
      obtain ⟨cols, mapped, same⟩ := map_eq_ok.mp generated
      exact ⟨desc, cols, found, by simpa using keyed, mapped, same.symm⟩

theorem generateRowMeta_tblname : row.tblname = table := by
  obtain ⟨_, _, _, _, _, rfl⟩ := generateRowMeta_eq_ok generated
  rfl

private theorem generateRowMeta_describes
    (found : proto.findMessageTypeByName (objTypeName table) = some desc) :
    List.Forall₂ (fun field col => MysqlFieldMeta.Describes col field) desc.fields row.cols := by
  obtain ⟨_, cols, named, _, mapped, rfl⟩ := generateRowMeta_eq_ok generated
  cases named.symm.trans found
  exact (mapM_eq_ok.mp mapped).imp fun _ _ => generateFieldMeta_describes

theorem generateRowMeta_keyed (found : proto.findMessageTypeByName (objTypeName table) = some desc) :
    getTypePrimaryKey desc ≠ [] := by
  obtain ⟨_, _, named, keyed, _⟩ := generateRowMeta_eq_ok generated
  cases named.symm.trans found
  exact keyed

end

/-- The meta of a table has a column for each field of its message type. -/
def Describes (tableMetas : List MysqlMeta) (table : String) (desc : Descriptor) : Prop :=
  ∃ row, getTableMeta tableMetas table = some row ∧
    ∀ i : desc.Index, ∃ col, row.getFieldMeta (desc.field i).name = some col ∧
      col.Describes (desc.field i)

theorem generateMysqlMetas_describe
    (generated : generateMysqlMetas proto tables = .ok tableMetas) (member : table ∈ tables)
    (found : proto.findMessageTypeByName (objTypeName table) = some desc) :
    Describes tableMetas table desc := by
  have named {other : String} {row : MysqlMeta} (_ : other ∈ tables)
      (made : generateRowMeta proto other = .ok row) :
      decide (row.tblname = table) = true ↔ other = table := by
    rw [generateRowMeta_tblname made, decide_eq_true_iff]
  obtain ⟨row, lookup, made⟩ := exists_find? (mapM_eq_ok.mp generated) member named
  refine ⟨row, lookup, fun i => ?_⟩
  have own {field : FieldDescriptor} {col : MysqlFieldMeta} (inside : field ∈ desc.fields)
      (describes : col.Describes field) :
      decide (col.name = (desc.field i).name) = true ↔ field = desc.field i := by
    rw [describes.name, decide_eq_true_iff]
    obtain ⟨j, rfl⟩ := List.mem_iff_get.mp inside
    exact ⟨fun same => congrArg desc.field (desc.name_injective same), fun same => same ▸ rfl⟩
  exact exists_find? (generateRowMeta_describes made found) (List.get_mem _ i) own

theorem stored_name (stored : obj.stored i = .ok mf) : mf.name = (desc.field i).name := by
  obtain ⟨value, _, generated⟩ := bind_eq_ok.mp stored
  exact (generateMysqlField_typed generated).1

theorem stored_returns (failed : obj.stored i = .error (.returns ret)) : ret = -1 := by
  unfold Message.stored Message.get at failed
  cases content : obj.content i with
  | repeated values => rw [content] at failed; cases failed
  | singular held =>
    rw [content] at failed
    change generateMysqlField proto _ _ = _ at failed
    unfold generateMysqlField at failed
    repeat' split at failed
    all_goals cases failed
    rfl

theorem generateMysqlFieldsLoop_pushed {indices : List desc.Index}
    (returned : generateMysqlFieldsLoop obj fields indices data = some (ret, out)) :
    ∃ done more, out = data ++ more ∧ List.Forall₂ (fun i mf => obj.stored i = .ok mf) done more ∧
      done.Sublist indices ∧ (done = indices.filter (fun i => asked fields (desc.field i).name) ∨
        ∃ i ∈ indices, asked fields (desc.field i).name ∧ obj.stored i = .error (.returns ret)) := by
  induction indices generalizing data with
  | nil =>
    obtain ⟨-, rfl⟩ := Prod.ext_iff.mp (Option.some.inj returned)
    exact ⟨[], [], (List.append_nil _).symm, .nil, .slnil, .inl rfl⟩
  | cons i rest ih =>
    unfold generateMysqlFieldsLoop at returned
    by_cases wanted : asked fields (desc.field i).name
    · rw [if_pos wanted] at returned
      split at returned
      · next dbfield stored =>
        obtain ⟨done, more, same, pushed, inside, outcome⟩ := ih returned
        refine ⟨i :: done, dbfield :: more, by simp [same], .cons stored pushed, inside.cons_cons _, ?_⟩
        rcases outcome with rfl | ⟨j, member, failed⟩
        · exact .inl (by rw [List.filter_cons, if_pos wanted])
        · exact .inr ⟨j, List.mem_cons_of_mem _ member, failed⟩
      · next own failed =>
        obtain ⟨rfl, rfl⟩ := Prod.ext_iff.mp (Option.some.inj returned)
        exact ⟨[], [], (List.append_nil _).symm, .nil, List.nil_sublist _,
          .inr ⟨i, List.mem_cons_self, wanted, failed⟩⟩
      · cases returned
    · rw [if_neg wanted] at returned
      obtain ⟨done, more, same, pushed, inside, outcome⟩ := ih returned
      refine ⟨done, more, same, pushed, inside.cons _, ?_⟩
      rcases outcome with rfl | ⟨j, member, failed⟩
      · exact .inl (by rw [List.filter_cons, if_neg wanted])
      · exact .inr ⟨j, List.mem_cons_of_mem _ member, failed⟩

theorem filter_asked_none (indices : List desc.Index) :
    indices.filter (fun i => asked none (desc.field i).name) = indices :=
  List.filter_eq_self.mpr fun _ _ => rfl

theorem generateMysqlFields_stored (returned : generateMysqlFields [] obj none = some (0, data)) :
    List.Forall₂ (fun i mf => obj.stored i = .ok mf) (List.finRange desc.fields.length) data := by
  obtain ⟨done, more, rfl, pushed, -, outcome⟩ := generateMysqlFieldsLoop_pushed returned
  rcases outcome with rfl | ⟨i, -, -, failed⟩
  · rwa [filter_asked_none] at pushed
  · cases stored_returns failed

def columnTyped (tableMetas : List MysqlMeta) (table : String) (mf : MysqlField) : MysqlField :=
  match (getTableMeta tableMetas table).bind (·.getFieldMeta mf.name) with
  | none => mf
  | some col => { mf with type := col.type }

def selectResponse (tableMetas : List MysqlMeta) (table : String) (data : List MysqlField) :
    MysqlResponse where
  ret := mysqlResultOk
  tblname := table
  data := data.map (columnTyped tableMetas table)

private theorem stored_typed (lawful : proto.Lawful) (stored : obj.stored i = .ok mf) :
    mf.name = (desc.field i).name ∧ mf.type = (desc.field i).cppType.column := by
  obtain ⟨value, got, generated⟩ := bind_eq_ok.mp stored
  obtain ⟨name, type⟩ := generateMysqlField_typed generated
  exact ⟨name, type.trans (congrArg _ (FieldDescriptor.admits_cppType (Message.get_admits lawful got)))⟩

private theorem columnTyped_stored (lawful : proto.Lawful) (describes : Describes tableMetas table desc)
    (stored : obj.stored i = .ok mf) : columnTyped tableMetas table mf = mf := by
  obtain ⟨row, lookup, columns⟩ := describes
  obtain ⟨col, found, own⟩ := columns i
  obtain ⟨name, type⟩ := stored_typed lawful stored
  have column : (getTableMeta tableMetas table).bind (·.getFieldMeta mf.name) = some col := by
    rw [lookup, Option.bind_some, name, found]
  simp only [columnTyped, column]
  rw [own.type, ← type]

theorem selectResponse_data (lawful : proto.Lawful) (describes : Describes tableMetas table desc)
    (stored : List.Forall₂ (fun i mf => obj.stored i = .ok mf) indices data) :
    (selectResponse tableMetas table data).data = data := by
  change data.map _ = data
  induction stored with
  | nil => rfl
  | cons first rest ih => rw [List.map_cons, ih, columnTyped_stored lawful describes first]

/-- What a value that was stored sets in the new object. -/
def reload (proto : Protobuf Msg) : Value Msg → Except Fault (Option (Value Msg))
  -- The setter for numbers is called for them.
  | .bool _ => .error .aborted
  | .enum _ => .error .aborted
  | .string text => .ok (some (.string (text.takeWhile (· ≠ 0))))
  | .message msg =>
    if proto.serializeToArray msg = some [] then .ok none else .ok (some (.message msg))
  | .int32 bits => .ok (some (.int32 bits))
  | .int64 bits => .ok (some (.int64 bits))
  | .uint32 bits => .ok (some (.uint32 bits))
  | .uint64 bits => .ok (some (.uint64 bits))
  | .float bits => .ok (some (.float bits))
  | .double bits => .ok (some (.double bits))

theorem reload_admits
    (admits : field.admits proto value) (reloads : reload proto value = .ok (some loaded)) :
    field.admits proto loaded := by
  cases value with
  | bool value => cases reloads
  | enum number => cases reloads
  | string text =>
    cases Except.ok.inj reloads
    exact admits
  | message msg =>
    simp only [reload] at reloads
    split at reloads
    · cases reloads
    · cases Except.ok.inj reloads
      exact admits
  | _ =>
    cases Except.ok.inj reloads
    exact admits

def Message.put (msg : Message proto desc) (i : desc.Index) :
    Option (Value Msg) → Except Fault (Message proto desc)
  | none => .ok msg
  | some value => msg.set i value

def Message.restore (obj msg : Message proto desc) (i : desc.Index) : Except Fault (Message proto desc) :=
  obj.get i >>= reload proto >>= msg.put i

theorem setObjectField_name (msg : Message proto desc) (i : desc.Index) (value : Value Msg) :
    (setObjectField (some ⟨desc, msg⟩) (desc.field i).name value).map Prod.snd =
      (msg.set i value).map fun next => some ⟨desc, next⟩ := by
  simp only [setObjectField, desc.findFieldByName_name]
  cases msg.set i value <;> rfl

private theorem setObjectField_wrong (msg : Message proto desc) {value : Value Msg}
    (wrong : value.cppType ≠ (desc.field i).cppType) :
    (setObjectField (some ⟨desc, msg⟩) (desc.field i).name value).map Prod.snd = .error .aborted := by
  have refused : msg.set i value = .error .aborted :=
    dif_neg fun usable => wrong (FieldDescriptor.admits_cppType usable.2)
  rw [setObjectField_name, refused]
  rfl

theorem cString_terminated (text : Bytes) : cString (text ++ [0]) = .ok (text.takeWhile (· ≠ 0)) := by
  rw [cString, if_pos (by simp)]
  congr 1
  induction text with
  | nil => rfl
  | cons byte rest ih => simp only [List.cons_append, List.takeWhile_cons, ih]

private theorem unPack_serialized (lawful : proto.Lawful) {msg : Msg}
    {bytes : Bytes} (registered : proto.findMessageTypeByName name = some desc) (member : field ∈ desc.fields)
    (message : field.default = .message type) (typed : proto.typeName msg = type)
    (serialized : proto.serializeToArray msg = some bytes) : unPack proto type bytes = some msg := by
  obtain ⟨sub, found⟩ := Option.isSome_iff_exists.mp (lawful.linked registered member message)
  unfold unPack
  rw [found]
  exact typed ▸ lawful.parse_serialize serialized

theorem loadField_stored (lawful : proto.Lawful)
    (registered : proto.findMessageTypeByName (objTypeName table) = some desc)
    (describes : Describes tableMetas table desc)
    (stored : obj.stored i = .ok mf) (msg : Message proto desc) :
    loadField tableMetas table (some ⟨desc, msg⟩) mf =
      (obj.restore msg i).map fun next => some ⟨desc, next⟩ := by
  obtain ⟨row, lookup, columns⟩ := describes
  obtain ⟨col, found, own⟩ := columns i
  obtain ⟨value, got, generated⟩ := bind_eq_ok.mp stored
  have name := (generateMysqlField_typed generated).1
  have admits := Message.get_admits lawful got
  have restored : obj.restore msg i = reload proto value >>= msg.put i := by
    rw [Message.restore, got]
    rfl
  rw [restored]
  simp only [loadField, lookup, name, found]
  cases value with
  | bool held =>
    obtain rfl := Except.ok.inj generated
    refine setObjectField_wrong msg fun same => ?_
    cases same.trans (FieldDescriptor.admits_cppType admits).symm
  | enum number =>
    obtain rfl := Except.ok.inj generated
    refine setObjectField_wrong msg fun same => ?_
    cases same.trans (FieldDescriptor.admits_cppType admits).symm
  | string text =>
    obtain rfl := Except.ok.inj generated
    simp only [cString_terminated]
    exact setObjectField_name msg i _
  | message held =>
    have type := of_decide_eq_true admits
    simp only [generateMysqlField] at generated
    split at generated
    · cases generated
    · next bytes serialized =>
      obtain rfl := Except.ok.inj generated
      have parsed := unPack_serialized lawful registered (List.get_mem _ i) type rfl serialized
      simp only [own.typeName type, parsed, reload, serialized]
      cases bytes with
      | nil => rfl
      | cons byte rest => exact setObjectField_name msg i _
  | _ =>
    obtain rfl := Except.ok.inj generated
    simp only [readLow_assignLow]
    exact setObjectField_name msg i _

theorem foldlM_loadField (lawful : proto.Lawful)
    (registered : proto.findMessageTypeByName (objTypeName table) = some desc)
    (describes : Describes tableMetas table desc) {indices : List desc.Index}
    (stored : List.Forall₂ (fun i mf => obj.stored i = .ok mf) indices data)
    (msg : Message proto desc) :
    data.foldlM (loadField tableMetas table) (some ⟨desc, msg⟩) =
      (indices.foldlM obj.restore msg).map fun next => some ⟨desc, next⟩ := by
  induction stored generalizing msg with
  | nil => rfl
  | @cons i mf indices data first rest ih =>
    rw [List.foldlM_cons, List.foldlM_cons, loadField_stored lawful registered describes first]
    cases obj.restore msg i with
    | error fault => rfl
    | ok next => exact ih next

theorem restore_fills (lawful : proto.Lawful) (obj : Message proto desc)
    (blank : msg.content i = (Message.new proto desc).content i) :
    Fills Message.content ((obj.get i >>= reload proto).map Content.singular) (obj.restore · i) i msg where
  writes restored := by
    obtain ⟨loaded, reloads, rfl⟩ := map_eq_ok.mp restored
    obtain ⟨value, got, reloaded⟩ := bind_eq_ok.mp reloads
    obtain ⟨-, -, -, single⟩ := Message.get_singular got
    cases loaded with
    | none =>
      exact ⟨msg, bind_eq_ok.mpr ⟨none, reloads, rfl⟩, blank.trans (Message.new_singular single)⟩
    | some loaded =>
      have usable := And.intro single (reload_admits (Message.get_admits lawful got) reloaded)
      refine ⟨_, bind_eq_ok.mpr ⟨some loaded, reloads, dif_pos usable⟩, ?_⟩
      exact Function.update_self ..
  yields stepped := by
    obtain ⟨loaded, reloads, put⟩ := bind_eq_ok.mp stepped
    obtain ⟨value, got, -⟩ := bind_eq_ok.mp reloads
    obtain ⟨-, -, -, single⟩ := Message.get_singular got
    refine map_eq_ok.mpr ⟨loaded, reloads, ?_⟩
    cases loaded with
    | none =>
      obtain rfl := Except.ok.inj put
      rw [blank, Message.new_singular single]
    | some loaded => rw [Message.set_content put, Function.update_self]
  frame stepped different := by
    obtain ⟨loaded, -, put⟩ := bind_eq_ok.mp stepped
    cases loaded with
    | none =>
      obtain rfl := Except.ok.inj put
      rfl
    | some loaded => rw [Message.set_content put, Function.update_of_ne different]

/-- A field that comes back as it was: a set number, a set text without a zero byte, or a message that is
not set or has a nonempty serialization. -/
def Content.Restorable (proto : Protobuf Msg) (field : FieldDescriptor) : Content Msg → Prop
  | .singular none => field.cppType = .message
  | .singular (some value) =>
    match value with
    | .bool _ => False
    | .enum _ => False
    | .string text => 0 ∉ text
    | .message msg => proto.serializeToArray msg ≠ some []
    | _ => True
  | .repeated _ => False

private theorem reload_unset (lawful : proto.Lawful)
    (generated : generateMysqlField proto field.name (field.unset proto) = .ok mf) :
    reload proto (field.unset proto) = .ok none ↔ field.cppType = .message := by
  unfold FieldDescriptor.unset at generated ⊢
  unfold FieldDescriptor.cppType
  split at generated
  case h_10 type message =>
    simp only [generateMysqlField] at generated
    split at generated
    · cases generated
    · next bytes serialized =>
      obtain rfl := lawful.defaultInstance_empty serialized
      simp [reload, message, serialized, Value.cppType]
  all_goals
    rename_i scalar
    simp [reload, scalar, Value.cppType]

theorem reload_content_iff (lawful : proto.Lawful) (stored : obj.stored i = .ok mf) :
    (obj.get i >>= reload proto).map Content.singular = .ok (obj.content i) ↔
      (obj.content i).Restorable proto (desc.field i) := by
  obtain ⟨value, got, generated⟩ := bind_eq_ok.mp stored
  obtain ⟨held, content, rfl, -⟩ := Message.get_singular got
  have reloads : obj.get i >>= reload proto = reload proto (held.getD ((desc.field i).unset proto)) := by
    rw [got]
    rfl
  have same (loaded : Option (Value Msg)) : (Content.singular loaded = .singular held) ↔ loaded = held :=
    ⟨Content.singular.inj, congrArg _⟩
  rw [reloads, content, map_eq_ok]
  simp only [same, exists_eq_right]
  cases held with
  | none => exact reload_unset lawful generated
  | some value =>
    cases value with
    | string text =>
      simpa [reload, Content.Restorable] using takeWhile_ne_zero_iff text
    | _ => simp [reload, Content.Restorable]

def Content.Keyed : Content Msg → Prop
  | .singular (some value) => (keyText value).isSome
  | _ => False

/-- The primary keys up to the first one without a text are fields of the message. -/
def Message.KeyNamed (obj : Message proto desc) : List String → Prop
  | [] => True
  | pk :: pks => ∃ i, desc.findFieldByName pk = some i ∧ ((obj.content i).Keyed → obj.KeyNamed pks)

private theorem getObjectKeyLoop_aborted (singular : ∀ i, ∃ value, obj.content i = .singular value) :
    getObjectKeyLoop obj pks done key ≠ .error .aborted ↔ obj.KeyNamed pks := by
  induction pks generalizing done key with
  | nil => simp [getObjectKeyLoop, Message.KeyNamed]
  | cons pk pks ih =>
    unfold getObjectKeyLoop Message.KeyNamed
    dsimp only
    cases found : desc.findFieldByName pk with
    | none => simp
    | some i =>
      obtain ⟨value, content⟩ := singular i
      have present : obj.hasField i = .ok value.isSome := by rw [Message.hasField, content]
      have got : obj.get i = .ok (value.getD ((desc.field i).unset proto)) := by rw [Message.get, content]
      simp only [present, got, content, Option.some.injEq, exists_eq_left']
      cases value with
      | none => simp [bind, Except.bind, Content.Keyed]
      | some held =>
        simp only [bind, Except.bind, Option.isSome_some, Option.getD_some, Bool.not_true, Bool.false_eq_true,
          if_false, Content.Keyed]
        cases keyText held with
        | none => simp
        | some text => exact ih.trans (by simp)

theorem keep_iff {agent : DBAgent proto}
    (singular : ∀ i, ∃ value, obj.content i = .singular value) (keyed : getTypePrimaryKey desc ≠ []) :
    (∃ next, agent.keep ⟨desc, obj⟩ = .ok next) ↔ obj.KeyNamed (getTypePrimaryKey desc) := by
  have key : getObjectKey obj = getObjectKeyLoop obj (getTypePrimaryKey desc) 0 [] :=
    if_neg (by simpa using keyed)
  rw [← getObjectKeyLoop_aborted singular, ← key]
  unfold DBAgent.keep
  dsimp only
  split
  · next found => simp [found]
  · next failed => simp [failed]
  · next died => simp [died]

/-- The objects that a row restores: they have a field, each field is restorable, and the
primary keys are fields. -/
structure Message.Restorable (obj : Message proto desc) : Prop where
  fields : desc.fields ≠ []
  contents : ∀ i, (obj.content i).Restorable proto (desc.field i)
  key : obj.KeyNamed (getTypePrimaryKey desc)

theorem foldlM_restore_iff (lawful : proto.Lawful) (stored : ∀ i, ∃ mf, obj.stored i = .ok mf) :
    (List.finRange desc.fields.length).foldlM obj.restore (Message.new proto desc) = .ok obj ↔
      ∀ i, (obj.content i).Restorable proto (desc.field i) := by
  refine (foldlM_fills (fun same => Message.ext same) (restore_fills lawful obj) (List.nodup_finRange _)
    fun _ _ => rfl).trans ?_
  constructor
  · intro restored i
    obtain ⟨mf, own⟩ := stored i
    exact (reload_content_iff lawful own).mp (restored.1 i (List.mem_finRange i))
  · intro restorable
    refine ⟨fun i _ => ?_, fun i absent => (absent (List.mem_finRange i)).elim⟩
    obtain ⟨mf, own⟩ := stored i
    exact (reload_content_iff lawful own).mpr (restorable i)

theorem createObjectFromMysql_iff {agent : DBAgent proto} {rsp : MysqlResponse} {obj : Object proto} :
    agent.createObjectFromMysql rsp = .ok (next, obj) ↔ rsp.ret = mysqlResultOk ∧ rsp.data ≠ [] ∧
      rsp.data.foldlM (loadField agent.tableMetas rsp.tblname)
        (newObject proto (objTypeName rsp.tblname)) = .ok (some obj) ∧ agent.keep obj = .ok next := by
  unfold DBAgent.createObjectFromMysql
  by_cases failed : rsp.ret ≠ mysqlResultOk ∨ rsp.data.isEmpty
  · rw [if_pos failed]
    refine iff_of_false nofun ?_
    rintro ⟨selected, rows, -⟩
    rcases failed with failed | empty
    · exact failed selected
    · exact rows (List.isEmpty_iff.mp empty)
  · rw [if_neg failed]
    obtain ⟨selected, rows⟩ := not_or.mp failed
    have rows : rsp.data ≠ [] := fun empty => rows (List.isEmpty_iff.mpr empty)
    constructor
    · intro created
      obtain ⟨loaded, folded, rest⟩ := bind_eq_ok.mp created
      cases loaded with
      | none => cases rest
      | some loaded =>
        obtain ⟨after, kept, same⟩ := bind_eq_ok.mp rest
        obtain ⟨rfl, rfl⟩ := Prod.ext_iff.mp (Except.ok.inj same)
        exact ⟨not_not.mp selected, rows, folded, kept⟩
    · rintro ⟨-, -, folded, kept⟩
      exact bind_eq_ok.mpr ⟨some obj, folded, bind_eq_ok.mpr ⟨next, kept, rfl⟩⟩

/-- For every message type whose metas are generated and every object of it whose fields are
generated: the object is created from a row that holds these fields exactly if it is
restorable. -/
theorem object_restored_iff (lawful : proto.Lawful) {tables : List String} {table : String}
    {agent : DBAgent proto} {obj : Message proto desc} {data : List MysqlField}
    (registered : proto.findMessageTypeByName (objTypeName table) = some desc) (member : table ∈ tables)
    (metas : generateMysqlMetas proto tables = .ok agent.tableMetas)
    (fields : generateMysqlFields [] obj none = some (0, data)) :
    (∃ next, agent.createObjectFromMysql (selectResponse agent.tableMetas table data) =
      .ok (next, ⟨desc, obj⟩)) ↔ obj.Restorable := by
  have describes := generateMysqlMetas_describe metas member registered
  have rows := generateMysqlFields_stored fields
  have stored (i : desc.Index) : ∃ mf, obj.stored i = .ok mf := exists_row rows (List.mem_finRange i)
  have singular (i : desc.Index) : ∃ value, obj.content i = .singular value := by
    obtain ⟨mf, own⟩ := stored i
    obtain ⟨value, got, -⟩ := bind_eq_ok.mp own
    obtain ⟨held, content, -⟩ := Message.get_singular got
    exact ⟨held, content⟩
  have keyed : getTypePrimaryKey desc ≠ [] := by
    obtain ⟨row, made⟩ := exists_row (mapM_eq_ok.mp metas) member
    exact generateRowMeta_keyed made registered
  have nonempty : data ≠ [] ↔ desc.fields ≠ [] := by
    have length : desc.fields.length = data.length := by simpa using rows.length_eq
    rw [← List.length_pos_iff, ← List.length_pos_iff, length]
  have new : newObject proto (objTypeName table) = some ⟨desc, .new proto desc⟩ := by
    rw [newObject, registered]
    rfl
  have loop : data.foldlM (loadField agent.tableMetas table) (some ⟨desc, .new proto desc⟩) =
      .ok (some ⟨desc, obj⟩) ↔ ∀ i, (obj.content i).Restorable proto (desc.field i) := by
    rw [foldlM_loadField lawful registered describes rows, map_eq_ok, ← foldlM_restore_iff lawful stored]
    simp
  have created : (∃ next, agent.createObjectFromMysql (selectResponse agent.tableMetas table data) =
      .ok (next, ⟨desc, obj⟩)) ↔ data ≠ [] ∧ data.foldlM (loadField agent.tableMetas table)
        (newObject proto (objTypeName table)) = .ok (some ⟨desc, obj⟩) ∧
          ∃ next, agent.keep ⟨desc, obj⟩ = .ok next := by
    simp only [createObjectFromMysql_iff, selectResponse_data lawful describes rows, exists_and_left]
    exact and_iff_right rfl
  rw [created, new, nonempty, loop, keep_iff singular keyed]
  exact ⟨fun ⟨fields, contents, key⟩ => ⟨fields, contents, key⟩, fun all => ⟨all.fields, all.contents, all.key⟩⟩

def loginHistory : Descriptor where
  fields :=
    [{ name := "gid", typeName := "uint64", default := .uint64 0 },
     { name := "area", typeName := "uint32", default := .uint32 0 },
     { name := "history", typeName := "message", default := .message "db.PlayerLoginHistory" }]
  distinct := by decide +kernel
  nested name :=
    if name = "_PrimaryKey" then some [{ name := "gid", typeName := "uint32", default := .uint32 0 }]
    else if name = "_MaxLength" then
      some [{ name := "openid", typeName := "uint32", default := .uint32 32 }]
    else none

def playerLoginHistory : Descriptor where
  fields :=
    [{ name := "latestLogin", typeName := "message", default := .message "db.LoginRecored"
       repeated := true }]
  distinct := by decide +kernel

def loginRecored : Descriptor where
  fields :=
    [{ name := "area", typeName := "uint32", default := .uint32 0 },
     { name := "time", typeName := "uint32", default := .uint32 0 }]
  distinct := by decide +kernel

def room : Descriptor where
  fields :=
    [{ name := "id", typeName := "uint32", default := .uint32 0 },
     { name := "open", typeName := "bool", default := .bool false }]
  distinct := by decide +kernel
  nested name :=
    if name = "_PrimaryKey" then some [{ name := "id", typeName := "uint32", default := .uint32 0 }] else none

def wire : Protobuf (String × Bytes) where
  findMessageTypeByName name :=
    if name = "db.LoginHistory" then some loginHistory
    else if name = "db.PlayerLoginHistory" then some playerLoginHistory
    else if name = "db.LoginRecored" then some loginRecored
    else if name = "db.Room" then some room
    else none
  typeName := Prod.fst
  defaultInstance type := (type, [])
  serializeToArray msg := some msg.2
  parseFromArray type bytes := some (type, bytes)

theorem wire_lawful : wire.Lawful where
  parse_serialize serialized := by
    cases serialized
    rfl
  defaultInstance_typeName _ := rfl
  defaultInstance_empty serialized := (Option.some.inj serialized).symm
  linked registered member message := by
    simp only [wire] at registered
    repeat' split at registered
    all_goals cases registered
    · rcases List.mem_cons.mp member with rfl | member
      · cases message
      · rcases List.mem_cons.mp member with rfl | member
        · cases message
        · obtain rfl := List.mem_singleton.mp member
          obtain rfl := Value.message.inj message
          decide +kernel
    · obtain rfl := List.mem_singleton.mp member
      obtain rfl := Value.message.inj message
      decide +kernel
    · rcases List.mem_cons.mp member with rfl | member
      · cases message
      · obtain rfl := List.mem_singleton.mp member
        cases message
    · rcases List.mem_cons.mp member with rfl | member
      · cases message
      · obtain rfl := List.mem_singleton.mp member
        cases message

def logins (history : Bytes) : Message wire loginHistory where
  content := ![.singular (some (.uint64 7)), .singular (some (.uint32 1)),
    .singular (some (.message ("db.PlayerLoginHistory", history)))]
  fits i := by
    change Fin 3 at i
    fin_cases i <;> exact ⟨rfl, fun held own => Option.some.inj own ▸ rfl⟩

def openRoom : Message wire room where
  content := ![.singular (some (.uint32 1)), .singular (some (.bool true))]
  fits i := by
    change Fin 2 at i
    fin_cases i <;> exact ⟨rfl, fun held own => Option.some.inj own ▸ rfl⟩

def storage : DBAgent wire where
  tableMetas := ((generateMysqlMetas wire ["LoginHistory", "Room"]).toOption).get (by decide +kernel)

def oneLogin : Bytes := [10, 4, 8, 1, 16, 5]

def oneLoginRow : List MysqlField :=
  [{ name := "gid", type := .uint64, uData := 7 },
   { name := "area", type := .uint32, uData := 1 },
   { name := "history", type := .blob, buffer := oneLogin }]

private theorem oneLogin_restorable : (logins oneLogin).Restorable where
  fields := nofun
  contents i := by
    change Fin 3 at i
    fin_cases i
    · trivial
    · trivial
    · exact show some oneLogin ≠ some [] from nofun
  key := by
    have pks : getTypePrimaryKey loginHistory = ["gid"] := by decide +kernel
    have gid : loginHistory.findFieldByName "gid" = some ⟨0, by decide⟩ := by decide +kernel
    rw [pks]
    exact ⟨_, gid, fun _ => trivial⟩

theorem object_restored_iff_oneLogin : (logins oneLogin).Restorable ∧
    ∃ next, storage.createObjectFromMysql (selectResponse storage.tableMetas "LoginHistory" oneLoginRow) =
      .ok (next, ⟨loginHistory, logins oneLogin⟩) :=
  ⟨oneLogin_restorable, (object_restored_iff wire_lawful (if_pos (by decide +kernel))
    (List.mem_cons_self : _ ∈ ["LoginHistory", "Room"]) (by decide +kernel) (by decide +kernel)).mpr
      oneLogin_restorable⟩

/-- What the object that is created from a row with the fields of `obj` holds in a field. -/
def readBack {desc : Descriptor} (table : String) (obj : Message wire desc) (name : String) :
    Except Fault (Option (Content (String × Bytes))) :=
  match generateMysqlFields [] obj none with
  | none => .error .aborted
  | some (_, data) =>
    (storage.createObjectFromMysql (selectResponse storage.tableMetas table data)).map fun created =>
      (created.2.1.findFieldByName name).map created.2.2.content

/-- The metas and fields of both objects are generated. The history without a login, which is
set, comes back as not set; the room does not come back, since the process dies. -/
theorem objects_not_restored :
    generateMysqlMetas wire ["LoginHistory", "Room"] = .ok storage.tableMetas ∧
      (generateMysqlFields [] (logins []) none).map Prod.fst = some 0 ∧
      (loginHistory.findFieldByName "history").map (logins []).content =
        some (.singular (some (.message ("db.PlayerLoginHistory", [])))) ∧
      readBack "LoginHistory" (logins []) "history" = .ok (some (.singular none)) ∧
      (generateMysqlFields [] openRoom none).map Prod.fst = some 0 ∧
      readBack "Room" openRoom "open" = .error .aborted := by
  decide +kernel

end Playground.Datacenter
