import Playground.Datacenter.MysqlAgent
import Playground.Sql.Escape

/-! The SQL that the `MysqlMeta` of a table writes, byte by byte, and the values that it reads from
the columns of a row. -/

namespace Playground.Datacenter

open Framing Sql

/-- What the code has from the client library of the database, the C library and the base library. -/
structure MysqlLib where
  escapeString : Bytes → Bytes
  realEscapeString : Bytes → Bytes
  /-- `%f` -/
  printR32 : BitVec 32 → Bytes
  /-- `%lf` -/
  printR64 : BitVec 64 → Bytes
  /-- `atof`, converted to `float` -/
  atofR32 : Bytes → BitVec 32
  atof : Bytes → BitVec 64
  mkTimeStamp : Bytes → BitVec 32

def digitBuffer (digits : Bytes) : Bytes := digits.take 19

namespace MysqlLib

variable (lib : MysqlLib) (conn : Bool)

/-- What is escaped into a new buffer of `size` bytes, read as a C string. -/
def escaped (size : Nat) (bytes : Bytes) : Except Fault Bytes :=
  let written := (if conn then lib.realEscapeString bytes else lib.escapeString bytes) ++ [0]
  -- a longer text is written past the buffer
  if size < written.length then .error .aborted else cString written

/-- The lengths of texts are kept in a `uint`. -/
def textLiteral (buffer : Bytes) : Except Fault Bytes := do
  let psz ← cString buffer
  let len := psz.length % 2 ^ 32
  let len := if buffer.length ≤ len then buffer.length - 1 else len
  let text ← lib.escaped conn ((len * 2 + 1) % 2 ^ 32) (psz.take len)
  return quote :: (text ++ [quote])

/-- The lengths of blobs are kept in a `size_t`. -/
def blobLiteral (buffer : Bytes) : Except Fault Bytes := do
  let text ← lib.escaped conn ((buffer.length * 2 + 1) % 2 ^ 64) buffer
  return quote :: (text ++ [quote])

end MysqlLib

def isSpace (byte : UInt8) : Bool := byte = 32 ∨ 9 ≤ byte ∧ byte ≤ 13

def plusSign : UInt8 := 43

def scanNumber (text : Bytes) : Bool × Nat :=
  match text.dropWhile isSpace with
  | [] => (false, 0)
  | byte :: rest =>
    if byte = minus then (true, digitsValue (rest.takeWhile isDigit))
    else if byte = plusSign then (false, digitsValue (rest.takeWhile isDigit))
    else (false, digitsValue ((byte :: rest).takeWhile isDigit))

def strtol (text : Bytes) : BitVec 64 :=
  match scanNumber text with
  | (true, value) => BitVec.ofInt 64 (-(min value (2 ^ 63) : Nat))
  | (false, value) => BitVec.ofNat 64 (min value (2 ^ 63 - 1))

/-- A negative number is taken modulo `2 ^ 64`; beyond the range it gives the largest. -/
def strtoul (text : Bytes) : BitVec 64 :=
  match scanNumber text with
  | (negative, value) =>
    if 2 ^ 64 ≤ value then BitVec.ofNat 64 (2 ^ 64 - 1)
    else if negative then -BitVec.ofNat 64 value
    else BitVec.ofNat 64 value

namespace MysqlMeta

variable (lib : MysqlLib) (conn : Bool) (table : MysqlMeta)

def getFieldValueSQL (col : MysqlField) : Except Fault Bytes :=
  match table.getFieldMeta col.name with
  | none => .error .aborted
  | some fieldMeta =>
    match fieldMeta.type with
    | .int32 => .ok (digitBuffer (numeral (readLow col.uData).toInt))
    | .int64 => .ok (digitBuffer (numeral col.uData.toInt))
    | .uint32 => .ok (digitBuffer (numeral (readLow col.uData).toNat))
    | .uint64 => .ok (digitBuffer (numeral col.uData.toNat))
    | .real32 => .ok (digitBuffer (lib.printR32 (readLow col.uData)))
    | .real64 => .ok (digitBuffer (lib.printR64 col.uData))
    | .varchar | .text => lib.textLiteral conn col.buffer
    | .blob => lib.blobLiteral conn col.buffer
    | .datetime =>
      .ok (ascii "FROM_UNIXTIME(" ++ digitBuffer (numeral (readLow col.uData).toNat) ++ ascii ")")
    | .invalid => .error .aborted

/-- The data of a column, of which a number is read through a buffer of 64 bytes. -/
def setFieldValue (field : MysqlField) (data : Bytes) : Except Fault (Int × MysqlField) :=
  match table.getFieldMeta field.name with
  | none => .ok (-1, field)
  | some fieldMeta =>
    let field : MysqlField := { name := fieldMeta.name, type := fieldMeta.type }
    let numberBuffer := data.take 63
    match fieldMeta.type with
    | .int32 | .int64 => .ok (0, { field with uData := strtol numberBuffer })
    | .uint32 | .uint64 => .ok (0, { field with uData := strtoul numberBuffer })
    | .real32 => .ok (0, { field with uData := assignLow 0 (lib.atofR32 numberBuffer) })
    | .real64 => .ok (0, { field with uData := lib.atof numberBuffer })
    | .varchar | .text => .ok (0, { field with buffer := data ++ [0] })
    | .blob => .ok (0, { field with buffer := data })
    | .datetime =>
      .ok (0, { field with uData := assignLow 0 (lib.mkTimeStamp (data.takeWhile (· ≠ 0))) })
    | .invalid => .error .aborted

end MysqlMeta

namespace MysqlMeta

variable (lib : MysqlLib) (conn : Bool) (table : MysqlMeta)

end MysqlMeta

end Playground.Datacenter
