import Playground.Datacenter.FieldText
import Playground.Datacenter.PrimaryKey
import Playground.Sql.Statement

/-! The statements of the requests that the `DBAgent` issues. -/

namespace Playground.Datacenter

open Framing Record Sql

variable {Msg : Type} {proto : Protobuf Msg} {desc : Descriptor} {obj : Message proto desc}
  {lib : MysqlLib} {conn : Bool} {table : MysqlMeta} {req : MysqlRequest}

def MysqlMeta.assign (lib : MysqlLib) (conn : Bool) (table : MysqlMeta) (mf : MysqlField) :
    Except Fault (String × Bytes) :=
  (table.getFieldValueSQL lib conn mf).map fun value => (mf.name, value)

section Update

variable {data sets : List MysqlField}

end Update

/-- The columns are those of the fields of the message type, with the primary key marked. -/
def MysqlMeta.Of (table : MysqlMeta) (desc : Descriptor) : Prop :=
  List.Forall₂ (fun field col => MysqlFieldMeta.Describes col field ∧
    col.ispk = decide (field.name ∈ getTypePrimaryKey desc)) desc.fields table.cols

namespace MysqlMeta.Of

theorem names (own : table.Of desc) : table.cols.map (·.name) = desc.fields.map (·.name) :=
  map_eq_map own fun describes => describes.1.name

theorem nodup (own : table.Of desc) : (table.cols.map (·.name)).Nodup :=
  own.names ▸ desc.distinct

theorem column (own : table.Of desc) (i : desc.Index) :
    ∃ col, table.getFieldMeta (desc.field i).name = some col ∧ col.Describes (desc.field i) ∧
      col.ispk = decide ((desc.field i).name ∈ getTypePrimaryKey desc) := by
  have same {field : FieldDescriptor} {col : MysqlFieldMeta} (inside : field ∈ desc.fields)
      (describes : col.Describes field ∧ col.ispk = decide (field.name ∈ getTypePrimaryKey desc)) :
      decide (col.name = (desc.field i).name) = true ↔ field = desc.field i := by
    rw [describes.1.name, decide_eq_true_iff]
    obtain ⟨j, rfl⟩ := List.mem_iff_get.mp inside
    exact ⟨fun same => congrArg desc.field (desc.name_injective same), fun same => same ▸ rfl⟩
  exact exists_find? own (List.get_mem _ i) same

end MysqlMeta.Of

def Descriptor.setFields (desc : Descriptor) (fields : List String) : List desc.Index :=
  (List.finRange desc.fields.length).filter fun i =>
    asked (some fields) (desc.field i).name ∧ (desc.field i).name ∉ getTypePrimaryKey desc

def Message.Writable (obj : Message proto desc) (lib : MysqlLib) (i : desc.Index) : Prop :=
  ∀ value, obj.get i = .ok value → value.Writable lib proto

section WellFormed

variable (lib : MysqlLib) (conn : Bool) (table : MysqlMeta) (obj : Message proto desc) (req : MysqlRequest)

/-- All values that are to be written survive, and an UPDATE has a field to assign. -/
def Message.Writes : Prop :=
  match req.op with
  | .insert => ∀ i, obj.Writable lib i
  | .update => desc.setFields req.fields ≠ [] ∧ ∀ i ∈ desc.setFields req.fields, obj.Writable lib i
  | .select | .delete | .createTb => True

end WellFormed

section Op

variable {tableName : String} {fields : List String} {cb : Bytes}

end Op

end Playground.Datacenter
