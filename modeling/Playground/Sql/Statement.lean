import Playground.Sql.Literal

/-! Statements made of lists of columns, values and assignments, and their texts. -/

namespace Playground.Sql

def comma : UInt8 := 44

/-- Texts with commas between them. -/
def commaList (texts : List Text) : Text := [comma].intercalate texts

@[simp] theorem commaList_nil : commaList [] = [] := rfl

/-- The statements of the table library. -/
inductive Statement where
  | insert (table : String) (columns : List String) (values : List Text)
  /-- Without a list of columns, all of them. -/
  | select (table : String) (columns : Option (List String)) (cond : Text)
  | update (table : String) (sets : List (String × Text)) (cond : Text)

namespace Statement

def assignment (set : String × Text) : Text := bytesOf set.1 ++ bytesOf "=" ++ set.2

/-- A statement as it is sent to the server. -/
def text : Statement → Text
  | .insert table columns values =>
    bytesOf "INSERT INTO " ++ bytesOf table ++ bytesOf "(" ++ commaList (columns.map bytesOf) ++
      bytesOf ") VALUES(" ++ commaList values ++ bytesOf ")"
  | .select table columns cond =>
    bytesOf "SELECT " ++ columns.elim (bytesOf "*") (fun names => commaList (names.map bytesOf)) ++
      bytesOf " FROM " ++ bytesOf table ++ bytesOf " WHERE " ++ cond
  | .update table sets cond =>
    bytesOf "UPDATE " ++ bytesOf table ++ bytesOf " SET " ++ commaList (sets.map assignment) ++
      bytesOf " WHERE " ++ cond

/-- No list is empty, no column is named twice, and every column has its value. -/
def WellFormed : Statement → Prop
  | .insert _ columns values => columns ≠ [] ∧ columns.Nodup ∧ values.length = columns.length
  | .select _ columns _ => ∀ names ∈ columns, names ≠ [] ∧ names.Nodup
  | .update _ sets _ => sets ≠ [] ∧ (sets.map Prod.fst).Nodup

end Statement

end Playground.Sql
