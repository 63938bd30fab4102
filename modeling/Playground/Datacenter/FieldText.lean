import Playground.Datacenter.MysqlMeta
import Playground.Datacenter.RoundTrip

/-! The values of fields in SQL. -/

namespace Playground.Datacenter

open Framing Record Sql

variable {lib : MysqlLib} {conn : Bool} {table : MysqlMeta} {field : MysqlField} {fieldMeta : MysqlFieldMeta}

structure MysqlLib.Escapes (lib : MysqlLib) : Prop where
  escapeString : ∀ bytes, lib.escapeString bytes = escape bytes
  realEscapeString : ∀ bytes, lib.realEscapeString bytes = escape bytes

/-- The buffer of a field with a value of the column: a text with its terminator, or the bytes of a
message. -/
inductive Stored : ValType → Bytes → Bytes → Prop
  | varchar {value : Bytes} (text : 0 ∉ value) : Stored .varchar value (value ++ [0])
  | text {value : Bytes} (text : 0 ∉ value) : Stored .text value (value ++ [0])
  | blob {value : Bytes} : Stored .blob value value

/-- The sizes below which twice the size is not cut: that of a text is a `uint`, that of a blob a
`size_t`. -/
def sizeLimit : ValType → Nat
  | .blob => 2 ^ 63
  | _ => 2 ^ 31

def literal (value : Bytes) : Bytes := quote :: (escape value ++ [quote])

theorem readLiteral_literal (value : Bytes) {rest : Bytes} (ends : rest.head? ≠ some quote) :
    readLiteral (literal value ++ rest) = some (.text value, rest) := by
  simp [literal, readLiteral, unquote_escape value ends]

theorem readLiteral_alone (value : Bytes) : readLiteral (literal value) = some (.text value, []) := by
  have behind := readLiteral_literal value (show ([] : Bytes).head? ≠ some quote from nofun)
  rwa [List.append_nil] at behind

section

variable (escapes : lib.Escapes)

include escapes

private theorem escaped_ok_iff :
    lib.escaped conn size bytes = .ok text ↔ (escape bytes).length < size ∧ text = escape bytes := by
  have same : (if conn then lib.realEscapeString bytes else lib.escapeString bytes) = escape bytes := by
    cases conn
    · exact escapes.escapeString bytes
    · exact escapes.realEscapeString bytes
  have length : (escape bytes ++ [0]).length = (escape bytes).length + 1 := List.length_append
  have read : cString (escape bytes ++ [0]) = .ok (escape bytes) := by
    rw [cString_terminated, (takeWhile_ne_zero_iff (escape bytes)).mpr (zero_notMem_escape bytes)]
  unfold MysqlLib.escaped
  rw [same]
  dsimp only
  rw [length, read]
  by_cases room : (escape bytes).length < size
  · rw [if_neg (Nat.not_lt.mpr room), and_iff_right room]
    exact ⟨fun ok => (Except.ok.inj ok).symm, fun same => congrArg Except.ok same.symm⟩
  · rw [if_pos (Nat.lt_succ_of_le (Nat.not_lt.mp room))]
    exact ⟨nofun, fun fits => absurd fits.1 room⟩

theorem quoted_ok_iff :
    (do let escaped ← lib.escaped conn size bytes; return quote :: (escaped ++ [quote])) = Except.ok text ↔
      (escape bytes).length < size ∧ text = literal bytes := by
  simp only [bind_eq_ok, escaped_ok_iff escapes]
  constructor
  · rintro ⟨_, ⟨fits, rfl⟩, same⟩
    exact ⟨fits, (Except.ok.inj same).symm⟩
  · rintro ⟨fits, rfl⟩
    exact ⟨_, ⟨fits, rfl⟩, rfl⟩

theorem blobLiteral_ok_iff {value : Bytes} :
    lib.blobLiteral conn value = .ok text ↔ value.length < 2 ^ 63 ∧ text = literal value := by
  have room : (escape value).length < (value.length * 2 + 1) % 2 ^ 64 ↔ value.length < 2 ^ 63 := by
    have doubled := escape_length value
    omega
  unfold MysqlLib.blobLiteral
  rw [quoted_ok_iff escapes, room]

theorem textLiteral_ok_iff {value : Bytes} (terminated : 0 ∉ value) :
    lib.textLiteral conn (value ++ [0]) = .ok text ↔
      value.length % 2 ^ 32 < 2 ^ 31 ∧ text = literal (value.take (value.length % 2 ^ 32)) := by
  have read : cString (value ++ [0]) = .ok value := by
    rw [cString_terminated, (takeWhile_ne_zero_iff value).mpr terminated]
  have inside : ¬ (value ++ [0]).length ≤ value.length % 2 ^ 32 := by
    rw [List.length_append]
    exact Nat.not_le.mpr (Nat.lt_succ_of_le (Nat.mod_le _ _))
  have room : (escape (value.take (value.length % 2 ^ 32))).length <
      (value.length % 2 ^ 32 * 2 + 1) % 2 ^ 32 ↔ value.length % 2 ^ 32 < 2 ^ 31 := by
    have doubled := escape_length (value.take (value.length % 2 ^ 32))
    rw [List.length_take_of_le (Nat.mod_le _ _)] at doubled
    omega
  unfold MysqlLib.textLiteral
  rw [read]
  dsimp only [bind, Except.bind]
  rw [if_neg inside]
  exact (quoted_ok_iff escapes).trans (and_congr_left' room)

theorem textLiteral_read_iff {value : Bytes} (terminated : 0 ∉ value) :
    lib.textLiteral conn (value ++ [0]) = .ok text ∧ readLiteral text = some (.text value, []) ↔
      value.length < 2 ^ 31 ∧ text = literal value := by
  rw [textLiteral_ok_iff escapes terminated]
  constructor
  · rintro ⟨⟨fits, rfl⟩, reads⟩
    have alone := readLiteral_alone (value.take (value.length % 2 ^ 32))
    rw [reads] at alone
    have whole : value = value.take (value.length % 2 ^ 32) :=
      Literal.text.inj (congrArg Prod.fst (Option.some.inj alone))
    have length : value.length = value.length % 2 ^ 32 := by
      conv_lhs => rw [whole, List.length_take_of_le (Nat.mod_le _ _)]
    exact ⟨length ▸ fits, congrArg literal whole.symm⟩
  · rintro ⟨small, rfl⟩
    have length : value.length % 2 ^ 32 = value.length := Nat.mod_eq_of_lt (by omega)
    rw [length, List.take_length]
    exact ⟨⟨small, rfl⟩, readLiteral_alone value⟩

private theorem getFieldValueSQL_read_iff
    (found : table.getFieldMeta field.name = some fieldMeta) {value : Bytes}
    (stored : Stored fieldMeta.type value field.buffer) :
    table.getFieldValueSQL lib conn field = .ok text ∧ readLiteral text = some (.text value, []) ↔
      value.length < sizeLimit fieldMeta.type ∧ text = literal value := by
  unfold MysqlMeta.getFieldValueSQL
  rw [found]
  obtain ⟨name, type, typeName, maxlen, ispk⟩ := fieldMeta
  obtain ⟨fieldName, fieldType, uData, buffer⟩ := field
  cases stored with
  | varchar terminated => exact textLiteral_read_iff escapes terminated
  | text terminated => exact textLiteral_read_iff escapes terminated
  | blob =>
    refine (and_congr_left' (blobLiteral_ok_iff escapes)).trans ?_
    rw [and_assoc]
    refine and_congr_right fun _ => ⟨And.left, fun same => ⟨same, ?_⟩⟩
    rw [same]
    exact readLiteral_alone buffer

end

/-- What a field holds is written as one literal that is read back as it, with nothing of it left for
the rest of the statement, exactly if the buffer for the escaped text is as long as it is meant to
be. -/
theorem literal_read_back_iff (escapes : lib.Escapes)
    (found : table.getFieldMeta field.name = some fieldMeta) {value : Bytes}
    (stored : Stored fieldMeta.type value field.buffer) :
    (∃ text, table.getFieldValueSQL lib conn field = .ok text ∧
      readLiteral text = some (.text value, []) ∧
      ∀ rest, rest.head? ≠ some quote → readLiteral (text ++ rest) = some (.text value, rest)) ↔
      value.length < sizeLimit fieldMeta.type := by
  constructor
  · rintro ⟨text, written, reads, -⟩
    exact ((getFieldValueSQL_read_iff escapes found stored).mp ⟨written, reads⟩).1
  · intro small
    obtain ⟨written, reads⟩ := (getFieldValueSQL_read_iff escapes found stored).mpr ⟨small, rfl⟩
    exact ⟨literal value, written, reads, fun rest ends => readLiteral_literal value ends⟩

def roleTable : MysqlMeta where
  tblname := "Role"
  cols :=
    [{ name := "rid", type := .uint64, typeName := "uint64", maxlen := 0, ispk := true },
     { name := "name", type := .varchar, typeName := "string", maxlen := 32, ispk := false }]

def escapingLib : MysqlLib where
  escapeString := escape
  realEscapeString := escape
  printR32 _ := ascii "0.000000"
  printR64 _ := ascii "0.000000"
  atofR32 _ := 0
  atof _ := 0
  mkTimeStamp _ := 0

theorem escapingLib_escapes : escapingLib.Escapes := ⟨fun _ => rfl, fun _ => rfl⟩

def quotedName : MysqlField := { name := "name", type := .varchar, buffer := ascii "O'Brien" ++ [0] }

theorem literal_read_back_quoted :
    roleTable.getFieldMeta quotedName.name = roleTable.cols[1]? ∧
      ∃ text, roleTable.getFieldValueSQL escapingLib true quotedName = .ok text ∧
        readLiteral text = some (.text (ascii "O'Brien"), []) ∧
        ∀ rest, rest.head? ≠ some quote → readLiteral (text ++ rest) = some (.text (ascii "O'Brien"), rest) := by
  have found : roleTable.getFieldMeta quotedName.name =
      some { name := "name", type := .varchar, typeName := "string", maxlen := 32, ispk := false } := by
    decide
  have stored : Stored .varchar (ascii "O'Brien") quotedName.buffer := .varchar (by decide)
  exact ⟨found, (literal_read_back_iff escapingLib_escapes found stored).mpr (by decide)⟩

def longName (size : Nat) : MysqlField :=
  { name := "name", type := .varchar, buffer := List.replicate size 97 ++ [0] }

theorem zero_notMem_longName (size : Nat) : (0 : UInt8) ∉ List.replicate size 97 := fun zero =>
  absurd (List.eq_of_mem_replicate zero) (by decide)

private theorem longName_stored (size : Nat) : Stored .varchar (List.replicate size 97) (longName size).buffer :=
  .varchar (zero_notMem_longName size)

private theorem longName_written (size : Nat) (text : Bytes) :
    roleTable.getFieldValueSQL escapingLib true (longName size) = .ok text ↔
      size % 2 ^ 32 < 2 ^ 31 ∧ text = literal (List.replicate (size % 2 ^ 32) 97) := by
  have written : escapingLib.textLiteral true (List.replicate size 97 ++ [0]) = .ok text ↔ _ :=
    textLiteral_ok_iff escapingLib_escapes (zero_notMem_longName size)
  rw [List.length_replicate, List.take_replicate, Nat.min_eq_left (Nat.mod_le _ _)] at written
  exact written

/-- For a name of `2 ^ 31` bytes the size of the buffer is cut to 1; a name of 5 bytes more than
`2 ^ 32` is written as one of 5 bytes. -/
theorem long_names_lost :
    Stored .varchar (List.replicate (2 ^ 31) 97) (longName (2 ^ 31)).buffer ∧
      (¬ ∃ text, roleTable.getFieldValueSQL escapingLib true (longName (2 ^ 31)) = .ok text) ∧
      Stored .varchar (List.replicate (2 ^ 32 + 5) 97) (longName (2 ^ 32 + 5)).buffer ∧
      roleTable.getFieldValueSQL escapingLib true (longName (2 ^ 32 + 5)) = .ok (ascii "'aaaaa'") := by
  refine ⟨longName_stored _, ?_, longName_stored _, (longName_written _ _).mpr ⟨by norm_num, ?_⟩⟩
  · rintro ⟨text, written⟩
    exact absurd ((longName_written _ _).mp written).1 (by norm_num)
  · have left : (2 ^ 32 + 5) % 2 ^ 32 = 5 := by norm_num
    rw [left]
    rfl

def ValType.integer (type : ValType) (uData : BitVec 64) : Option Int :=
  match type with
  | .int32 => some (readLow uData).toInt
  | .int64 => some uData.toInt
  | .uint32 => some (readLow uData).toNat
  | .uint64 => some uData.toNat
  | _ => none

theorem integer_range {type : ValType}
    (holds : type.integer uData = some value) : -2 ^ 63 ≤ value ∧ value < 2 ^ 64 := by
  cases type with
  | int32 =>
    cases holds
    have low := BitVec.le_toInt (readLow uData)
    have high := BitVec.toInt_lt (x := readLow uData)
    omega
  | int64 =>
    cases holds
    have low := BitVec.le_toInt uData
    have high := BitVec.toInt_lt (x := uData)
    omega
  | uint32 =>
    cases holds
    have high := (readLow uData).isLt
    omega
  | uint64 =>
    cases holds
    have high := uData.isLt
    omega
  | _ => cases holds

theorem getFieldValueSQL_integer (found : table.getFieldMeta field.name = some fieldMeta)
    (holds : fieldMeta.type.integer field.uData = some value) :
    table.getFieldValueSQL lib conn field = .ok (digitBuffer (decimal value)) := by
  unfold MysqlMeta.getFieldValueSQL
  rw [found]
  obtain ⟨name, type, typeName, maxlen, ispk⟩ := fieldMeta
  cases type with
  | int32 | int64 | uint32 | uint64 =>
    cases holds
    rfl
  | _ => cases holds

theorem scanNumber_digits (all : ∀ byte ∈ digits, isDigit byte) :
    scanNumber digits = (false, digitsValue digits) := by
  cases digits with
  | nil => rfl
  | cons byte rest =>
    have digit : isDigit byte := all byte List.mem_cons_self
    have notSpace : ¬ isSpace byte := by
      intro space
      have both : (48 ≤ byte ∧ byte ≤ 57) ∧ (byte = 32 ∨ 9 ≤ byte ∧ byte ≤ 13) :=
        ⟨by simpa [isDigit] using digit, by simpa [isSpace] using space⟩
      simp only [UInt8.le_iff_toNat_le, ← UInt8.toNat_inj] at both
      simp at both
      omega
    have notMinus : byte ≠ minus := by
      rintro rfl
      cases digit
    have notPlus : byte ≠ plusSign := by
      rintro rfl
      cases digit
    rw [scanNumber, List.dropWhile_cons_of_neg notSpace]
    dsimp only
    rw [if_neg notMinus, if_neg notPlus, List.takeWhile_eq_self_iff.mpr all]

theorem scanNumber_minus (all : ∀ byte ∈ digits, isDigit byte) :
    scanNumber (minus :: digits) = (true, digitsValue digits) := by
  have notSpace : ¬ isSpace minus := by decide
  rw [scanNumber, List.dropWhile_cons_of_neg notSpace]
  dsimp only
  rw [if_pos rfl, List.takeWhile_eq_self_iff.mpr all]

theorem scanNumber_decimal (value : Int) :
    scanNumber (decimal value) = (decide (value < 0), value.natAbs) := by
  cases value with
  | ofNat number =>
    have shown : decimal (Int.ofNat number) = natural number := decimal_ofNat number
    rw [shown, scanNumber_digits (natural_isDigit number), natural_value]
    rfl
  | negSucc number =>
    rw [decimal_negSucc, scanNumber_minus (natural_isDigit _), natural_value,
      decide_eq_true (Int.negSucc_lt_zero number)]
    rfl

def signed (negative : Bool) (value : Nat) : Int := if negative then -value else value

private theorem signed_natAbs (value : Int) : signed (decide (value < 0)) value.natAbs = value := by
  unfold signed
  by_cases negative : value < 0
  · rw [if_pos (decide_eq_true negative)]
    omega
  · rw [if_neg (by simpa using negative)]
    omega

theorem strtol_scanned
    (scanned : scanNumber text = (negative, value)) (low : -2 ^ 63 ≤ signed negative value)
    (high : signed negative value < 2 ^ 63) : strtol text = BitVec.ofInt 64 (signed negative value) := by
  unfold strtol
  rw [scanned]
  cases negative with
  | true =>
    simp only [signed, if_true] at low ⊢
    rw [Nat.min_eq_left (by omega)]
  | false =>
    simp only [signed, Bool.false_eq_true, if_false] at high ⊢
    rw [Nat.min_eq_left (by omega), BitVec.ofInt_natCast]

theorem strtol_decimal (low : -2 ^ 63 ≤ value) (high : value < 2 ^ 63) :
    strtol (decimal value) = BitVec.ofInt 64 value := by
  have same := signed_natAbs value
  rw [strtol_scanned (scanNumber_decimal value) (by omega) (by omega), same]

/-- A numeral that is cut is read as a number nearer to 0, but for the 0 of which nothing is left. -/
theorem scanNumber_decimal_take (value : Int) (cut : width < (decimal value).length) :
    ∃ negative digits, scanNumber ((decimal value).take width) = (negative, digits) ∧
      min 0 value ≤ signed negative digits ∧ signed negative digits ≤ max 0 value ∧
        (signed negative digits = value → width = 0 ∧ value = 0) := by
  have digits (number width : Nat) : ∀ byte ∈ (natural number).take width, isDigit byte :=
    fun byte member => natural_isDigit number byte (List.mem_of_mem_take member)
  cases value with
  | ofNat number =>
    have shown : decimal (Int.ofNat number) = natural number := decimal_ofNat number
    rw [shown] at cut ⊢
    obtain ⟨below, same⟩ := natural_take_value number cut
    refine ⟨false, _, scanNumber_digits (digits number width), ?_⟩
    simp only [signed, Bool.false_eq_true, if_false, Int.ofNat_eq_natCast]
    omega
  | negSucc number =>
    rw [decimal_negSucc] at cut ⊢
    cases width with
    | zero =>
      refine ⟨false, 0, rfl, ?_⟩
      simp only [signed, Bool.false_eq_true, if_false]
      omega
    | succ width =>
      obtain ⟨below, same⟩ := natural_take_value (number + 1) (Nat.lt_of_succ_lt_succ cut)
      refine ⟨true, _, scanNumber_minus (digits (number + 1) width), ?_⟩
      simp only [signed, if_true]
      omega

private theorem strtoul_decimal {value : Nat} (high : value < 2 ^ 64) :
    strtoul (decimal value) = BitVec.ofNat 64 value := by
  have positive : ¬ (value : Int) < 0 := by omega
  unfold strtoul
  rw [scanNumber_decimal]
  simp only [positive, decide_false, Int.natAbs_natCast, Nat.not_le.mpr high, if_false, Bool.false_eq_true]

theorem readLow_ofInt (bits : BitVec 32) : readLow (BitVec.ofInt 64 bits.toInt) = bits := by
  have low := BitVec.le_toInt bits
  have high := BitVec.toInt_lt (x := bits)
  apply BitVec.eq_of_toInt_eq
  rw [readLow, BitVec.toInt_setWidth, BitVec.toNat_ofInt, Int.bmod_def]
  omega

private theorem readLow_ofNat (bits : BitVec 32) : readLow (BitVec.ofNat 64 bits.toNat) = bits := by
  rw [readLow, BitVec.setWidth_ofNat_of_le (by decide), BitVec.ofNat_toNat, BitVec.setWidth_eq]

private theorem setFieldValue_decimal {into : MysqlField} (found : table.getFieldMeta into.name = some fieldMeta)
    {value : Int} (holds : fieldMeta.type.integer uData = some value) :
    ∃ read, table.setFieldValue lib into (decimal value) = .ok (0, read) ∧
      fieldMeta.type.integer read.uData = some value := by
  obtain ⟨low, high⟩ := integer_range holds
  have whole : (decimal value).take 63 = decimal value := by
    refine List.take_of_length_le ((decimal_length_le_iff value (by decide)).mpr ⟨?_, ?_⟩)
    · omega
    · omega
  unfold MysqlMeta.setFieldValue
  rw [found]
  obtain ⟨name, type, typeName, maxlen, ispk⟩ := fieldMeta
  dsimp only
  rw [whole]
  cases type with
  | int32 =>
    cases holds
    have below := BitVec.toInt_lt (x := readLow uData)
    refine ⟨_, rfl, congrArg some ?_⟩
    rw [strtol_decimal low (by omega), readLow_ofInt]
  | int64 =>
    cases holds
    refine ⟨_, rfl, congrArg some ?_⟩
    rw [strtol_decimal low BitVec.toInt_lt, BitVec.ofInt_toInt]
  | uint32 =>
    cases holds
    have below := (readLow uData).isLt
    refine ⟨_, rfl, congrArg (fun bits : BitVec 32 => some (bits.toNat : Int)) ?_⟩
    rw [strtoul_decimal (by omega), readLow_ofNat]
  | uint64 =>
    cases holds
    refine ⟨_, rfl, congrArg (fun bits : BitVec 64 => some (bits.toNat : Int)) ?_⟩
    rw [strtoul_decimal uData.isLt, BitVec.ofNat_toNat, BitVec.setWidth_eq]
  | _ => cases holds

/-- The numeral is written whole exactly for the integers of at most 19 characters. -/
theorem integer_survives_iff (found : table.getFieldMeta field.name = some fieldMeta) {value : Int}
    (holds : fieldMeta.type.integer field.uData = some value) :
    (table.getFieldValueSQL lib conn field = .ok (decimal value) ∧
      ∀ into : MysqlField, into.name = field.name →
        ∃ read, table.setFieldValue lib into (decimal value) = .ok (0, read) ∧
          fieldMeta.type.integer read.uData = some value) ↔
      -10 ^ 18 < value ∧ value < 10 ^ 19 := by
  have fits := decimal_length_le_iff value (show 0 < 18 by decide)
  rw [← fits, getFieldValueSQL_integer found holds, Except.ok.injEq, digitBuffer, List.take_eq_self_iff]
  refine and_iff_left fun into named => ?_
  exact setFieldValue_decimal (named ▸ found) holds

def roleId (rid : BitVec 64) : MysqlField := { name := "rid", type := .uint64, uData := rid }

theorem integer_survives_five :
    roleTable.getFieldValueSQL escapingLib true (roleId 5) = .ok (decimal 5) ∧
      ∀ into : MysqlField, into.name = "rid" →
        ∃ read, roleTable.setFieldValue escapingLib into (decimal 5) = .ok (0, read) ∧
          ValType.uint64.integer read.uData = some 5 :=
  have found : roleTable.getFieldMeta (roleId 5).name =
      some { name := "rid", type := .uint64, typeName := "uint64", maxlen := 0, ispk := true } := by decide
  have holds : ValType.uint64.integer (roleId 5).uData = some 5 := rfl
  (integer_survives_iff found holds).mpr ⟨by decide, by decide⟩

/-- A numeral of 20 digits loses the last one, and another role is read back. -/
theorem integer_cut :
    roleTable.getFieldValueSQL escapingLib true (roleId 10000000000000000000) =
        .ok (ascii "1000000000000000000") ∧
      (ascii "1000000000000000000" : Bytes) ≠ decimal 10000000000000000000 ∧
      (roleTable.setFieldValue escapingLib (roleId 0) (ascii "1000000000000000000")).map
        (fun read => ValType.uint64.integer read.2.uData) = .ok (some 1000000000000000000) := by
  exact ⟨by decide +kernel, by decide +kernel, by decide +kernel⟩

section Written

variable {Msg : Type} {proto : Protobuf Msg} {name : String}

/-- The values that survive: numerals of at most 19 characters, texts without a zero byte and messages
that can be serialized, both below the size limit, and floating-point numbers that are the ones read from
the first 19 characters printed for them. -/
def Value.Writable (lib : MysqlLib) (proto : Protobuf Msg) : Value Msg → Prop
  | .int32 _ | .uint32 _ | .enum _ | .bool _ => True
  | .int64 bits => -10 ^ 18 < bits.toInt
  | .uint64 bits => (bits.toNat : Int) < 10 ^ 19
  | .float bits => lib.atofR32 (digitBuffer (lib.printR32 bits)) = bits
  | .double bits => lib.atof (digitBuffer (lib.printR64 bits)) = bits
  | .string text => 0 ∉ text ∧ text.length < sizeLimit .varchar
  | .message msg => ∃ bytes, proto.serializeToArray msg = some bytes ∧ bytes.length < sizeLimit .blob

variable {mf : MysqlField} {col : MysqlFieldMeta} {value : Value Msg}

end Written

end Playground.Datacenter
