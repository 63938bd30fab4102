import Mathlib.Data.List.TakeWhile
import Playground.Datacenter.Message

/-! The object-relational mapping of the `DBAgent`. -/

namespace Playground.Datacenter

open Framing

inductive ValType where
  | invalid
  | int32
  | int64
  | uint32
  | uint64
  | real32
  | real64
  | varchar
  | text
  | blob
  | datetime
deriving DecidableEq

structure MysqlField where
  name : String
  type : ValType
  /-- The bytes of the union. -/
  uData : BitVec 64 := 0
  buffer : Bytes := []
deriving DecidableEq

/-- An assignment to a member of four bytes leaves the upper half of the union. -/
def assignLow (uData : BitVec 64) (word : BitVec 32) : BitVec 64 :=
  uData.extractLsb' 32 32 ++ word

def readLow (uData : BitVec 64) : BitVec 32 := uData.setWidth 32

@[simp] theorem readLow_assignLow (uData : BitVec 64) (word : BitVec 32) :
    readLow (assignLow uData word) = word := by
  unfold readLow assignLow
  rw [BitVec.setWidth_append]
  simp

structure MysqlFieldMeta where
  name : String
  type : ValType
  typeName : String
  maxlen : Int
  ispk : Bool
deriving DecidableEq

structure MysqlMeta where
  tblname : String
  cols : List MysqlFieldMeta
deriving DecidableEq

def MysqlMeta.getFieldMeta (table : MysqlMeta) (fieldName : String) : Option MysqlFieldMeta :=
  table.cols.find? (·.name = fieldName)

def getTableMeta (tableMetas : List MysqlMeta) (name : String) : Option MysqlMeta :=
  tableMetas.find? (·.tblname = name)

def metaNameSpace : String := "db"

def objTypeName (tblname : String) : String := metaNameSpace ++ "." ++ tblname

def dataTimeOut : Int := -1

def dataOk : Int := 0

def dataNoExists : Int := 1

def dataAlreadyExists : Int := 2

def dataUnpackError : Int := 3

def dataInternalErr : Int := 4

def mysqlResultOk : Int := 0

def generateFieldMeta (desc : Descriptor) (pks : List String) (field : FieldDescriptor) :
    Except Fault MysqlFieldMeta :=
  let column (type : ValType) : MysqlFieldMeta :=
    { name := field.name, type, typeName := field.typeName, maxlen := 0, ispk := field.name ∈ pks }
  match field.default with
  | .bool _ => .ok (column .int32)
  | .enum _ => .ok (column .int32)
  | .int32 _ => .ok (column .int32)
  | .int64 _ => .ok (column .int64)
  | .string _ =>
    (getFieldMaxLength desc field.name).map fun maxlen => { column .varchar with maxlen }
  | .uint32 _ => .ok (column .uint32)
  | .uint64 _ => .ok (column .uint64)
  | .float _ => .ok (column .real32)
  | .double _ => .ok (column .real64)
  | .message fullName => .ok { column .blob with typeName := fullName }

variable {Msg : Type}

def generateRowMeta (proto : Protobuf Msg) (table : String) : Except Fault MysqlMeta :=
  match proto.findMessageTypeByName (objTypeName table) with
  | none => .error (.returns (-1))
  | some desc =>
    let pks := getTypePrimaryKey desc
    if pks.isEmpty then .error (.returns (-1))
    else (desc.fields.mapM (generateFieldMeta desc pks)).map fun cols => { tblname := table, cols }

def generateMysqlMetas (proto : Protobuf Msg) (tables : List String) : Except Fault (List MysqlMeta) :=
  tables.mapM (generateRowMeta proto)

def generateMysqlField (proto : Protobuf Msg) (name : String) : Value Msg → Except Fault MysqlField
  | .int32 bits => .ok { name, type := .int32, uData := assignLow 0 bits }
  | .int64 bits => .ok { name, type := .int64, uData := bits }
  | .uint32 bits => .ok { name, type := .uint32, uData := assignLow 0 bits }
  | .uint64 bits => .ok { name, type := .uint64, uData := bits }
  | .float bits => .ok { name, type := .real32, uData := assignLow 0 bits }
  | .double bits => .ok { name, type := .real64, uData := bits }
  | .bool value => .ok { name, type := .int32, uData := assignLow 0 (if value then 1 else 0) }
  | .enum number => .ok { name, type := .int32, uData := assignLow 0 number }
  -- The text is copied with its terminator.
  | .string text => .ok { name, type := .varchar, buffer := text ++ [0] }
  | .message msg =>
    match proto.serializeToArray msg with
    | none => .error (.returns (-1))
    | some bytes => .ok { name, type := .blob, buffer := bytes }

def asked (fields : Option (List String)) (name : String) : Bool :=
  match fields with
  | none => true
  | some names => names.isEmpty || name ∈ names

section Fields

variable {proto : Protobuf Msg} {desc : Descriptor}

def Message.stored (obj : Message proto desc) (i : desc.Index) : Except Fault MysqlField :=
  obj.get i >>= generateMysqlField proto (desc.field i).name

/-- The loop over the fields of the object: what the call returns, with the fields pushed
until then. -/
def generateMysqlFieldsLoop (obj : Message proto desc) (fields : Option (List String)) :
    List desc.Index → List MysqlField → Option (Int × List MysqlField)
  | [], data => some (0, data)
  | i :: rest, data =>
    if asked fields (desc.field i).name then
      match obj.stored i with
      | .ok dbfield => generateMysqlFieldsLoop obj fields rest (data ++ [dbfield])
      | .error (.returns ret) => some (ret, data)
      | .error .aborted => none
    else generateMysqlFieldsLoop obj fields rest data

def generateMysqlFields (data : List MysqlField) (obj : Message proto desc)
    (fields : Option (List String)) : Option (Int × List MysqlField) :=
  generateMysqlFieldsLoop obj fields (List.finRange desc.fields.length) data

end Fields

/-- The text that a C string pointer to the buffer reads; without a terminator it reads past
the buffer. -/
def cString (buffer : Bytes) : Except Fault Bytes :=
  if 0 ∈ buffer then .ok (buffer.takeWhile (· ≠ 0)) else .error .aborted

theorem takeWhile_ne_zero_iff (text : Bytes) : text.takeWhile (· ≠ 0) = text ↔ 0 ∉ text := by
  rw [List.takeWhile_eq_self_iff]
  exact ⟨fun all zero => of_decide_eq_true (all 0 zero) rfl,
    fun absent byte member => decide_eq_true fun zero => absent (zero ▸ member)⟩

structure MysqlResponse where
  ret : Int
  tblname : String
  data : List MysqlField

/-- A call of a `DataListener`, by the agent of the database or of the cache. -/
inductive ListenerCall (proto : Protobuf Msg) where
  | onGet (ret : Int) (obj : Option (Object proto)) (cb : Bytes)
  | onUpdate (ret : Int) (cb : Bytes)
  | onInsert (ret : Int) (cb : Bytes)
  | onRemove (ret : Int) (cb : Bytes)
  | onCreateTable (tblname : String) (ret : Int)

def ListenerCall.ret {proto : Protobuf Msg} : ListenerCall proto → Int
  | .onGet ret _ _ => ret
  | .onUpdate ret _ => ret
  | .onInsert ret _ => ret
  | .onRemove ret _ => ret
  | .onCreateTable _ ret => ret

structure DBAgent (proto : Protobuf Msg) where
  tableMetas : List MysqlMeta
  mpGetObjects : Bytes → Option (Object proto) := fun _ => none
  ptrTmpObj : Option (Object proto) := none

section Create

variable {proto : Protobuf Msg}

/-- One pass of the loop over the fields of the row. What the setters return is ignored. -/
def loadField (tableMetas : List MysqlMeta) (tblname : String) (obj : Option (Object proto))
    (mf : MysqlField) : Except Fault (Option (Object proto)) :=
  match getTableMeta tableMetas tblname with
  | none => .error (.returns dataUnpackError)
  | some table =>
    match table.getFieldMeta mf.name with
    | none => .error (.returns dataUnpackError)
    | some fieldMeta =>
      match mf.type with
      | .blob =>
        if mf.buffer.isEmpty then .ok obj
        else
          match unPack proto fieldMeta.typeName mf.buffer with
          | none => .error (.returns dataUnpackError)
          | some fieldObj => (setObjectFieldOBJ obj mf.name fieldObj).map Prod.snd
      | .int32 => (setObjectFieldI32 obj mf.name (readLow mf.uData)).map Prod.snd
      | .int64 => (setObjectFieldI64 obj mf.name mf.uData).map Prod.snd
      | .uint32 => (setObjectFieldU32 obj mf.name (readLow mf.uData)).map Prod.snd
      | .uint64 => (setObjectFieldU64 obj mf.name mf.uData).map Prod.snd
      | .real32 => (setObjectFieldR32 obj mf.name (readLow mf.uData)).map Prod.snd
      | .real64 => (setObjectFieldR64 obj mf.name mf.uData).map Prod.snd
      | .varchar | .text => do
        let svar ← cString mf.buffer
        (setObjectFieldSTR obj mf.name svar).map Prod.snd
      | .datetime => (setObjectFieldU32 obj mf.name (readLow mf.uData)).map Prod.snd
      | .invalid => .ok obj

def ascii (text : String) : Bytes := text.toList.map fun char => UInt8.ofNat char.toNat

def numeral (number : Int) : Bytes := ascii (toString number)

/-- The text of a number or a text in the key, cut to the buffer of 512 bytes. -/
def keyText : Value Msg → Option Bytes
  | .int32 bits => some (numeral bits.toInt)
  | .int64 bits => some (numeral bits.toInt)
  | .enum number => some (numeral number.toInt)
  | .uint32 bits => some (numeral bits.toNat)
  | .uint64 bits => some (numeral bits.toNat)
  | .string text => some ((ascii "'" ++ text.takeWhile (· ≠ 0) ++ ascii "'").take 511)
  | .double _ => none
  | .float _ => none
  | .bool _ => none
  | .message _ => none

/-- The loop over the primary keys. A key that is no field gives a null descriptor. -/
def getObjectKeyLoop {desc : Descriptor} (msg : Message proto desc) :
    List String → Nat → Bytes → Except Fault Bytes
  | [], _, key => .ok key
  | pk :: pks, done, key =>
    let key := if done > 0 then key ++ ascii ":" else key
    match desc.findFieldByName pk with
    | none => .error .aborted
    | some i => do
      if !(← msg.hasField i) then .error (.returns (-1))
      else
        match keyText (← msg.get i) with
        | none => .error (.returns (-1))
        | some text => getObjectKeyLoop msg pks (done + 1) (key ++ text)

def getObjectKey {desc : Descriptor} (msg : Message proto desc) : Except Fault Bytes :=
  let pks := getTypePrimaryKey desc
  if pks.isEmpty then .error (.returns (-1)) else getObjectKeyLoop msg pks 0 []

/-- The object is kept under its key, or as the last object if it has none. -/
def DBAgent.keep (agent : DBAgent proto) (obj : Object proto) : Except Fault (DBAgent proto) :=
  match getObjectKey obj.2 with
  | .ok objectKey => .ok { agent with mpGetObjects := Function.update agent.mpGetObjects objectKey (some obj) }
  | .error (.returns _) => .ok { agent with ptrTmpObj := some obj }
  | .error .aborted => .error .aborted

def DBAgent.createObjectFromMysql (agent : DBAgent proto) (rsp : MysqlResponse) :
    Except Fault (DBAgent proto × Object proto) :=
  if rsp.ret ≠ mysqlResultOk ∨ rsp.data.isEmpty then .error (.returns dataInternalErr)
  else do
    let obj := newObject proto (objTypeName rsp.tblname)
    let loaded ← rsp.data.foldlM (loadField agent.tableMetas rsp.tblname) obj
    match loaded with
    | none => .error .aborted
    | some obj => do
      let next ← agent.keep obj
      return (next, obj)

end Create

end Playground.Datacenter
