import Playground.Framing.LengthPrefix
import Playground.Record.Keyed

/-! Messages as the data center sees them, and the `MetaSerializer` over them. -/

namespace Playground.Datacenter

open Framing

inductive CppType where
  | int32
  | int64
  | uint32
  | uint64
  | double
  | float
  | bool
  | enum
  | string
  | message
deriving DecidableEq

/-- A value of a field; numbers are kept as their bits. -/
inductive Value (Msg : Type) where
  | int32 (bits : BitVec 32)
  | int64 (bits : BitVec 64)
  | uint32 (bits : BitVec 32)
  | uint64 (bits : BitVec 64)
  | double (bits : BitVec 64)
  | float (bits : BitVec 32)
  | bool (value : Bool)
  | enum (number : BitVec 32)
  | string (text : Bytes)
  | message (msg : Msg)
deriving DecidableEq

variable {Msg : Type}

def Value.cppType : Value Msg → CppType
  | .int32 _ => .int32
  | .int64 _ => .int64
  | .uint32 _ => .uint32
  | .uint64 _ => .uint64
  | .double _ => .double
  | .float _ => .float
  | .bool _ => .bool
  | .enum _ => .enum
  | .string _ => .string
  | .message _ => .message

structure FieldDescriptor where
  name : String
  typeName : String
  /-- The default value, which has the type of the field. For a message it is given by the full
  name of its type. -/
  default : Value String
  repeated : Bool := false
deriving DecidableEq

def FieldDescriptor.cppType (field : FieldDescriptor) : CppType := field.default.cppType

/-- The fields of a message type have distinct names. -/
structure Descriptor where
  fields : List FieldDescriptor
  distinct : (fields.map FieldDescriptor.name).Nodup
  /-- `FindNestedTypeByName`, with the fields of the nested type. -/
  nested : String → Option (List FieldDescriptor) := fun _ => none
  /-- `full_name()`, which tells message types apart. -/
  fullName : String := ""

namespace Descriptor

abbrev Index (desc : Descriptor) := Fin desc.fields.length

abbrev field (desc : Descriptor) (i : desc.Index) : FieldDescriptor := desc.fields.get i

def findFieldByName (desc : Descriptor) (name : String) : Option desc.Index :=
  (List.finRange desc.fields.length).find? fun i => (desc.field i).name = name

theorem name_injective (desc : Descriptor) {i j : desc.Index}
    (same : (desc.field i).name = (desc.field j).name) : i = j := by
  have distinct := List.nodup_iff_injective_get.mp desc.distinct
  have cast : Fin.cast (List.length_map _).symm i = Fin.cast (List.length_map _).symm j :=
    distinct (by simpa using same)
  exact Fin.ext (by simpa using congrArg Fin.val cast)

@[simp] theorem findFieldByName_name (desc : Descriptor) (i : desc.Index) :
    desc.findFieldByName (desc.field i).name = some i := by
  have distinct : ((List.finRange desc.fields.length).map fun j => (desc.field j).name).Nodup :=
    (List.nodup_finRange _).map fun _ _ same => desc.name_injective same
  exact Record.find?_key distinct (List.mem_finRange i)

end Descriptor

/-- The serialization library: its descriptors, and the messages of a type given by its full
name. -/
structure Protobuf (Msg : Type) where
  findMessageTypeByName : String → Option Descriptor
  typeName : Msg → String
  defaultInstance : String → Msg
  serializeToArray : Msg → Option Bytes
  parseFromArray : String → Bytes → Option Msg

structure Protobuf.Lawful (proto : Protobuf Msg) : Prop where
  parse_serialize : ∀ {msg bytes}, proto.serializeToArray msg = some bytes →
    proto.parseFromArray (proto.typeName msg) bytes = some msg
  defaultInstance_typeName : ∀ type, proto.typeName (proto.defaultInstance type) = type
  /-- No field of a default instance is set. -/
  defaultInstance_empty : ∀ {type bytes},
    proto.serializeToArray (proto.defaultInstance type) = some bytes → bytes = []
  /-- The types of the fields of a registered type are registered. -/
  linked : ∀ {name desc type} {field : FieldDescriptor}, proto.findMessageTypeByName name = some desc →
    field ∈ desc.fields → field.default = .message type → (proto.findMessageTypeByName type).isSome

def FieldDescriptor.admits (proto : Protobuf Msg) (field : FieldDescriptor) : Value Msg → Bool
  | .message msg => field.default = .message (proto.typeName msg)
  | value => value.cppType = field.cppType

def FieldDescriptor.unset (proto : Protobuf Msg) (field : FieldDescriptor) : Value Msg :=
  match field.default with
  | .int32 bits => .int32 bits
  | .int64 bits => .int64 bits
  | .uint32 bits => .uint32 bits
  | .uint64 bits => .uint64 bits
  | .double bits => .double bits
  | .float bits => .float bits
  | .bool value => .bool value
  | .enum number => .enum number
  | .string text => .string text
  | .message type => .message (proto.defaultInstance type)

theorem FieldDescriptor.admits_cppType {field : FieldDescriptor} {value : Value Msg}
    (admits : field.admits proto value) : value.cppType = field.cppType := by
  cases value with
  | message msg => exact (congrArg Value.cppType (of_decide_eq_true admits)).symm
  | _ => exact of_decide_eq_true admits

theorem FieldDescriptor.admits_unset {proto : Protobuf Msg} (lawful : proto.Lawful)
    (field : FieldDescriptor) : field.admits proto (field.unset proto) := by
  unfold unset
  split
  case h_10 type message =>
    refine decide_eq_true (message.trans ?_)
    rw [lawful.defaultInstance_typeName]
  all_goals
    rename_i scalar
    exact decide_eq_true (congrArg Value.cppType scalar).symm

inductive Content (Msg : Type) where
  | singular (value : Option (Value Msg))
  | repeated (values : List (Value Msg))
deriving DecidableEq

def Content.Fits (proto : Protobuf Msg) (field : FieldDescriptor) : Content Msg → Prop
  | .singular value => field.repeated = false ∧ ∀ held ∈ value, field.admits proto held
  | .repeated values => field.repeated = true ∧ ∀ held ∈ values, field.admits proto held

/-- A message of the type that `desc` describes. -/
@[ext] structure Message (proto : Protobuf Msg) (desc : Descriptor) where
  content : desc.Index → Content Msg
  fits : ∀ i, (content i).Fits proto (desc.field i)

inductive Fault where
  | aborted
  | returns (ret : Int)
deriving DecidableEq

namespace Message

variable {proto : Protobuf Msg} {desc : Descriptor}

def new (proto : Protobuf Msg) (desc : Descriptor) : Message proto desc where
  content i := if (desc.field i).repeated then .repeated [] else .singular none
  fits i := by
    split
    case isTrue many => exact ⟨many, nofun⟩
    case isFalse one => exact ⟨Bool.eq_false_of_not_eq_true one, nofun⟩

theorem new_singular (single : (desc.field i).repeated = false) :
    (new proto desc).content i = .singular none :=
  if_neg (by rw [single]; exact Bool.false_ne_true)

def hasField (msg : Message proto desc) (i : desc.Index) : Except Fault Bool :=
  match msg.content i with
  | .singular value => .ok value.isSome
  | .repeated _ => .error .aborted

/-- `GetInt32` and the other getters, each called for a field of its type. -/
def get (msg : Message proto desc) (i : desc.Index) : Except Fault (Value Msg) :=
  match msg.content i with
  | .singular value => .ok (value.getD ((desc.field i).unset proto))
  | .repeated _ => .error .aborted

/-- `SetInt32` and the other setters: the field is singular and has the type of the setter. -/
def set (msg : Message proto desc) (i : desc.Index) (value : Value Msg) :
    Except Fault (Message proto desc) :=
  if usable : (desc.field i).repeated = false ∧ (desc.field i).admits proto value then
    .ok { content := Function.update msg.content i (.singular (some value))
          fits := fun j => by
            by_cases same : j = i
            · subst same
              rw [Function.update_self]
              exact ⟨usable.1, fun held own => Option.some.inj own ▸ usable.2⟩
            · rw [Function.update_of_ne same]
              exact msg.fits j }
  else .error .aborted

theorem set_content {msg next : Message proto desc} (set : msg.set i value = .ok next) :
    next.content = Function.update msg.content i (.singular (some value)) := by
  unfold Message.set at set
  split at set
  · obtain rfl := Except.ok.inj set
    rfl
  · cases set

theorem get_admits (lawful : proto.Lawful) {msg : Message proto desc}
    (got : msg.get i = .ok value) : (desc.field i).admits proto value := by
  have fits := msg.fits i
  unfold get at got
  split at got
  case h_1 held content =>
    rw [content] at fits
    rw [← Except.ok.inj got]
    cases held with
    | none => exact FieldDescriptor.admits_unset lawful _
    | some own => exact fits.2 own rfl
  case h_2 => cases got

theorem get_singular {msg : Message proto desc}
    (got : msg.get i = .ok value) : ∃ held, msg.content i = .singular held ∧
      value = held.getD ((desc.field i).unset proto) ∧ (desc.field i).repeated = false := by
  have fits := msg.fits i
  unfold get at got
  split at got
  case h_1 held content =>
    rw [content] at fits
    exact ⟨held, content, (Except.ok.inj got).symm, fits.1⟩
  case h_2 => cases got

end Message

abbrev Object (proto : Protobuf Msg) := Σ desc, Message proto desc

section MetaSerializer

variable {proto : Protobuf Msg}

def newObject (proto : Protobuf Msg) (typeName : String) : Option (Object proto) :=
  (proto.findMessageTypeByName typeName).map fun desc => ⟨desc, .new proto desc⟩

def unPack (proto : Protobuf Msg) (metaName : String) (buffer : Bytes) : Option Msg :=
  match proto.findMessageTypeByName metaName with
  | none => none
  | some _ => proto.parseFromArray metaName buffer

def getTypePrimaryKey (desc : Descriptor) : List String :=
  match desc.nested "_PrimaryKey" with
  | none => []
  | some fields => fields.map FieldDescriptor.name

/-- The default value of the field of that name in the nested type `_MaxLength`, which has to
be of type `uint32`. -/
def getFieldMaxLength (desc : Descriptor) (fieldName : String) : Except Fault Int :=
  match desc.nested "_MaxLength" with
  | none => .ok 0
  | some fields =>
    match fields.find? (·.name = fieldName) with
    | none => .ok 0
    | some field =>
      match field.default with
      | .uint32 bits => .ok bits.toInt
      | _ => .error .aborted

def setObjectField (obj : Option (Object proto)) (fieldName : String) (value : Value Msg) :
    Except Fault (Int × Option (Object proto)) :=
  match obj with
  | none => .error .aborted
  | some ⟨desc, msg⟩ =>
    match desc.findFieldByName fieldName with
    | none => .ok (-1, obj)
    | some i => (msg.set i value).map fun next => (0, some ⟨desc, next⟩)

def setObjectFieldI32 (obj : Option (Object proto)) (fieldName : String) (val : BitVec 32) :=
  setObjectField obj fieldName (.int32 val)

def setObjectFieldI64 (obj : Option (Object proto)) (fieldName : String) (val : BitVec 64) :=
  setObjectField obj fieldName (.int64 val)

def setObjectFieldU32 (obj : Option (Object proto)) (fieldName : String) (val : BitVec 32) :=
  setObjectField obj fieldName (.uint32 val)

def setObjectFieldU64 (obj : Option (Object proto)) (fieldName : String) (val : BitVec 64) :=
  setObjectField obj fieldName (.uint64 val)

def setObjectFieldR32 (obj : Option (Object proto)) (fieldName : String) (val : BitVec 32) :=
  setObjectField obj fieldName (.float val)

def setObjectFieldR64 (obj : Option (Object proto)) (fieldName : String) (val : BitVec 64) :=
  setObjectField obj fieldName (.double val)

def setObjectFieldSTR (obj : Option (Object proto)) (fieldName : String) (val : Bytes) :=
  setObjectField obj fieldName (.string val)

def setObjectFieldOBJ (obj : Option (Object proto)) (fieldName : String) (val : Msg) :=
  setObjectField obj fieldName (.message val)

end MetaSerializer

end Playground.Datacenter
