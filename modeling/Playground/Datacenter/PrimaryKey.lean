import Playground.Datacenter.KeyText
import Playground.Datacenter.MysqlAgent
import Playground.Sql.Condition

/-! Conditions on the primary key. -/

namespace Playground.Datacenter

open Framing Record Sql

variable {Msg : Type} {proto : Protobuf Msg} {desc : Descriptor}

/-- The names of fields are identifiers, as the language of message types has them. -/
def Descriptor.Named (desc : Descriptor) : Prop := ∀ field ∈ desc.fields, Identifier (ascii field.name)

def keyLiteral : Value Msg → Option Literal
  | .int32 bits => some (.number bits.toInt)
  | .int64 bits => some (.number bits.toInt)
  | .enum number => some (.number number.toInt)
  | .uint32 bits => some (.number bits.toNat)
  | .uint64 bits => some (.number bits.toNat)
  | .string text => some (.text text)
  | .double _ | .float _ | .bool _ | .message _ => none

theorem keyLiteral_text (keyed : keyLiteral value = some (.text text)) : value = .string text := by
  cases value with
  | string own => simpa [keyLiteral] using keyed
  | _ => simp [keyLiteral] at keyed

namespace Message

def keyComparison (obj : Message proto desc) (pk : String) : Option Comparison := do
  let i ← desc.findFieldByName pk
  let value ← (obj.content i).held
  let literal ← keyLiteral value
  return { name := ascii pk, value := literal }

/-- pk1 = v1 AND ... AND pkn = vn. -/
def keyComparisons (obj : Message proto desc) : Option (List Comparison) :=
  (getTypePrimaryKey desc).mapM obj.keyComparison

end Message

variable {obj : Message proto desc}

def cutLiteral : Literal → Text
  | .number value => decimal value
  | .text value => (quote :: (value.takeWhile (· ≠ 0) ++ [quote])).take 511

/-- The texts that fit into the buffer and stand for themselves between quotes. -/
def Quotable (text : Bytes) : Prop := 0 ∉ text ∧ text.length ≤ 509 ∧ plain text

theorem keyText_eq (value : Value Msg) : keyText value = (keyLiteral value).map cutLiteral := by
  cases value <;> rfl

theorem cutLiteral_text_length (text : Text) :
    (cutLiteral (.text text)).length = min 511 ((text.takeWhile (· ≠ 0)).length + 2) := by
  simp only [cutLiteral, List.length_take, List.length_cons, List.length_append, List.length_nil]

theorem write_text_length (text : Text) : (Literal.text text).write.length = text.length + 2 := by
  simp [Literal.write]

theorem cutLiteral_shorter (value : Literal) : (cutLiteral value).length ≤ value.write.length := by
  cases value with
  | number value => exact Nat.le_refl _
  | text value =>
    have taken := (value.takeWhile_prefix (· ≠ 0)).length_le
    rw [cutLiteral_text_length, write_text_length]
    omega

theorem cutLiteral_text_iff (text : Text) :
    (cutLiteral (.text text)).length = (Literal.text text).write.length ↔ 0 ∉ text ∧ text.length ≤ 509 := by
  have taken := (text.takeWhile_prefix (· ≠ 0)).length_le
  have whole : (text.takeWhile (· ≠ 0)).length = text.length ↔ 0 ∉ text := by
    rw [← takeWhile_ne_zero_iff]
    exact ⟨(text.takeWhile_prefix (· ≠ 0)).eq_of_length, congrArg List.length⟩
  rw [cutLiteral_text_length, write_text_length, ← whole]
  omega

theorem cutLiteral_whole (value : Literal) (equal : (cutLiteral value).length = value.write.length) :
    cutLiteral value = value.write := by
  cases value with
  | number value => rfl
  | text value =>
    obtain ⟨terminated, short⟩ := (cutLiteral_text_iff value).mp equal
    rw [cutLiteral, (takeWhile_ne_zero_iff value).mpr terminated]
    refine List.take_of_length_le ?_
    simp
    omega

private theorem getPrimaryKeyCondLoop_eq (obj : Message proto desc) (pks : List String) (done : Nat) (key : Bytes) :
    getPrimaryKeyCondLoop obj pks done key =
      keyLoop andText (fun pk value => (keyText value).map (ascii pk ++ equals ++ ·)) obj pks done key := by
  refine eq_keyLoop (fun _ _ => rfl) (fun pk pks done key => ?_) pks done key
  rw [getPrimaryKeyCondLoop]
  cases desc.findFieldByName pk with
  | none => rfl
  | some i =>
    refine bind_congr fun set => ?_
    cases set with
    | false => rfl
    | true =>
      refine bind_congr fun value => ?_
      cases keyText value with
      | none => rfl
      | some text =>
        have written (key : Bytes) : key ++ ascii pk ++ ascii " = " ++ text =
            key ++ (ascii pk ++ equals ++ text) := by
          simp only [List.append_assoc]
          rfl
        exact congrArg (getPrimaryKeyCondLoop obj pks (done + 1)) (written _)

private theorem keyComparison_written (obj : Message proto desc) (pk : String) :
    (obj.keyValue pk).bind (fun value => (keyText value).map (ascii pk ++ equals ++ ·)) =
      (obj.keyComparison pk).map fun comparison => conjunction cutLiteral [comparison] := by
  unfold Message.keyValue Message.keyComparison
  cases desc.findFieldByName pk with
  | none => rfl
  | some i =>
    simp only [Option.bind_eq_bind, Option.bind_some, keyText_eq]
    cases (obj.content i).held with
    | none => rfl
    | some value =>
      rw [Option.bind_some, Option.bind_some]
      cases keyLiteral value with
      | none => rfl
      | some literal => rfl

/-- A condition compares the primary key with the object's values, as far as they fit into the buffer. -/
theorem getPrimaryKeyCond_ok {cond : Bytes} (returns : getPrimaryKeyCond obj = .ok cond) :
    ∃ comparisons, obj.keyComparisons = some comparisons ∧ comparisons ≠ [] ∧
      cond = conjunction cutLiteral comparisons := by
  unfold getPrimaryKeyCond at returns
  dsimp only at returns
  split at returns
  · cases returns
  · next keyed =>
    rw [getPrimaryKeyCondLoop_eq, keyLoop_ok_iff] at returns
    simp only [keyComparison_written, mapM_map_eq_some] at returns
    obtain ⟨texts, ⟨comparisons, compared, rfl⟩, rfl⟩ := returns
    refine ⟨comparisons, compared, ?_, by simp [conjunction_eq_intercalate cutLiteral comparisons]⟩
    rintro rfl
    have none_keyed : getTypePrimaryKey desc = [] := by simpa using length_of_mapM compared
    exact keyed (none_keyed ▸ rfl)

/-- The request of `DBAgent::Get`, with the condition of the caller where the object has none. -/
def getRequest (tableName : String) (obj : Message proto desc) (fields : List String) (cb : Bytes)
    (whereCond : Option Bytes) : Except Fault MysqlRequest :=
  match getPrimaryKeyCond obj with
  | .ok key => .ok { tblname := tableName, op := .select, cond := key, fields, cb }
  | .error .aborted => .error .aborted
  | .error (.returns _) =>
    match whereCond with
    | none => .error (.returns (-1))
    | some key => .ok { tblname := tableName, op := .select, cond := key, fields, cb }

def removeRequest (tableName : String) (obj : Message proto desc) (cb : Bytes) :
    Except Fault MysqlRequest := do
  let key ← getPrimaryKeyCond obj
  return { tblname := tableName, op := .delete, cond := key, cb }

def Requests (obj : Message proto desc) (req : MysqlRequest) : Prop :=
  ∃ tableName fields cb whereCond, getRequest tableName obj fields cb whereCond = .ok req ∨
    updateRequest tableName obj fields cb = .ok req ∨ removeRequest tableName obj cb = .ok req

/-- The condition is the object's own key, and its requests address its row and no other. -/
structure Message.AddressedBy (obj : Message proto desc) (cond : Bytes) : Prop where
  read : ∃ comparisons, obj.keyComparisons = some comparisons ∧ readCondition cond = some comparisons
  rows : ∀ req, Requests obj req → ∀ row, Selects req.cond row ↔
    ∃ comparisons, obj.keyComparisons = some comparisons ∧
      ∀ comparison ∈ comparisons, row comparison.name = some comparison.value

def Message.KeyQuotable (obj : Message proto desc) : Prop :=
  ∀ pk ∈ getTypePrimaryKey desc, ∀ i text, desc.findFieldByName pk = some i →
    obj.content i = .singular (some (.string text)) → Quotable text

theorem Requests.cond_eq {req : MysqlRequest} {cond : Bytes}
    (requests : Requests obj req) (returns : getPrimaryKeyCond obj = .ok cond) : req.cond = cond := by
  obtain ⟨tableName, fields, cb, whereCond, got | updated | removed⟩ := requests
  · unfold getRequest at got
    rw [returns] at got
    exact congrArg MysqlRequest.cond (Except.ok.inj got).symm
  · rw [updateRequest, returns] at updated
    obtain ⟨key, same, updated⟩ := bind_eq_ok.mp updated
    obtain rfl := Except.ok.inj same
    split at updated
    · cases updated
    · exact congrArg MysqlRequest.cond (Except.ok.inj updated).symm
  · rw [removeRequest, returns] at removed
    exact congrArg MysqlRequest.cond (Except.ok.inj removed).symm

theorem mem_keyComparison :
    comparison ∈ obj.keyComparison pk ↔ ∃ i value literal, desc.findFieldByName pk = some i ∧
      obj.content i = .singular (some value) ∧ keyLiteral value = some literal ∧
      { name := ascii pk, value := literal } = comparison := by
  simp [Message.keyComparison, Option.bind_eq_some_iff, Content.held_eq_some]

private theorem keyComparison_named (named : desc.Named)
    {comparison : Comparison} (compared : comparison ∈ obj.keyComparison pk) : Identifier comparison.name := by
  obtain ⟨i, value, literal, found, -, -, rfl⟩ := mem_keyComparison.mp compared
  have name : (desc.field i).name = pk := by simpa using List.find?_some found
  exact name ▸ named (desc.field i) (List.get_mem _ _)

private theorem keyComparison_readable_iff :
    (∀ comparison ∈ obj.keyComparison pk, cutLiteral comparison.value = comparison.value.write ∧
        comparison.value.readable) ↔
      ∀ i text, desc.findFieldByName pk = some i → obj.content i = .singular (some (.string text)) →
        Quotable text := by
  constructor
  · intro fine i text found content
    have compared : (⟨ascii pk, .text text⟩ : Comparison) ∈ obj.keyComparison pk :=
      mem_keyComparison.mpr ⟨i, _, _, found, content, rfl, rfl⟩
    obtain ⟨whole, readable⟩ := fine _ compared
    obtain ⟨terminated, short⟩ := (cutLiteral_text_iff text).mp (congrArg List.length whole)
    exact ⟨terminated, short, readable⟩
  · intro quotable comparison compared
    obtain ⟨i, value, literal, found, content, keyed, rfl⟩ := mem_keyComparison.mp compared
    cases literal with
    | number number => exact ⟨rfl, rfl⟩
    | text text =>
      rw [keyLiteral_text keyed] at content
      obtain ⟨terminated, short, readable⟩ := quotable i text found content
      exact ⟨cutLiteral_whole _ ((cutLiteral_text_iff text).mpr ⟨terminated, short⟩), readable⟩

/-- The condition of an object addresses it exactly if every text in its key can be put between
quotes: no terminator, at most 509 bytes, no quote, and a backslash only before a percent sign or an
underscore. -/
theorem key_condition_exact_iff (named : desc.Named) {obj : Message proto desc} {cond : Bytes}
    (returns : getPrimaryKeyCond obj = .ok cond) : obj.AddressedBy cond ↔ obj.KeyQuotable := by
  obtain ⟨comparisons, compared, nonempty, rfl⟩ := getPrimaryKeyCond_ok returns
  have names : ∀ comparison ∈ comparisons, Identifier comparison.name :=
    (forall_mem_mapM compared).mpr fun pk _ comparison => keyComparison_named named
  have exact_iff := readCondition_conjunction_iff cutLiteral_shorter cutLiteral_whole nonempty names
  have quotable_iff : (∀ comparison ∈ comparisons, cutLiteral comparison.value = comparison.value.write ∧
      comparison.value.readable) ↔ obj.KeyQuotable :=
    (forall_mem_mapM compared).trans (forall₂_congr fun _ _ => keyComparison_readable_iff)
  rw [← quotable_iff, ← exact_iff]
  constructor
  · intro addressed
    obtain ⟨same, own, read⟩ := addressed.read
    rw [compared] at own
    rw [read, own]
  · intro read
    refine ⟨⟨comparisons, compared, read⟩, fun req requests row => ?_⟩
    rw [requests.cond_eq returns, Selects, read, compared]

def accountRL : Descriptor where
  fields :=
    [{ name := "gid", typeName := "uint64", default := .uint64 0 },
     { name := "platform", typeName := "uint32", default := .uint32 0 },
     { name := "openid", typeName := "string", default := .string [] },
     { name := "time", typeName := "uint32", default := .uint32 0 }]
  distinct := by decide +kernel
  nested name :=
    if name = "_PrimaryKey" then
      some [{ name := "platform", typeName := "uint32", default := .uint32 0 },
        { name := "openid", typeName := "uint32", default := .uint32 0 }]
    else if name = "_MaxLength" then some [{ name := "openid", typeName := "uint32", default := .uint32 32 }]
    else none

private theorem accountRL_named : accountRL.Named := by
  unfold Descriptor.Named
  decide +kernel

def accountWire : Protobuf Unit where
  findMessageTypeByName name := if name = "db.AccountRL" then some accountRL else none
  typeName _ := ""
  defaultInstance _ := ()
  serializeToArray _ := some []
  parseFromArray _ _ := some ()

def account (openid : Bytes) : Message accountWire accountRL where
  content := ![.singular (some (.uint64 5)), .singular (some (.uint32 1)), .singular (some (.string openid)),
    .singular (some (.uint32 0))]
  fits i := by
    change Fin 4 at i
    fin_cases i <;> exact ⟨rfl, fun held own => Option.some.inj own ▸ rfl⟩

private theorem account_string
    (content : (account openid).content i = .singular (some (.string text))) : text = openid := by
  change Fin 4 at i
  fin_cases i <;> cases content
  rfl

theorem key_condition_exact_ann :
    getPrimaryKeyCond (account (ascii "ann")) = .ok (ascii "platform = 1 AND openid = 'ann'") ∧
      (account (ascii "ann")).AddressedBy (ascii "platform = 1 AND openid = 'ann'") := by
  have returns : getPrimaryKeyCond (account (ascii "ann")) = .ok (ascii "platform = 1 AND openid = 'ann'") := by
    decide +kernel
  have quotable : (account (ascii "ann")).KeyQuotable := by
    intro pk _ i text _ content
    obtain rfl := account_string content
    exact ⟨by decide, by decide, by decide⟩
  exact ⟨returns, (key_condition_exact_iff accountRL_named returns).mpr quotable⟩

/-- An open id that closes its own quote: the condition is about a third column. -/
theorem key_condition_escaped :
    getPrimaryKeyCond (account (ascii "x' AND gid = '6")) =
        .ok (ascii "platform = 1 AND openid = 'x' AND gid = '6'") ∧
      readCondition (ascii "platform = 1 AND openid = 'x' AND gid = '6'") =
        some [⟨ascii "platform", .number 1⟩, ⟨ascii "openid", .text (ascii "x")⟩,
          ⟨ascii "gid", .text (ascii "6")⟩] ∧
      ¬ (account (ascii "x' AND gid = '6")).AddressedBy
        (ascii "platform = 1 AND openid = 'x' AND gid = '6'") := by
  have returns : getPrimaryKeyCond (account (ascii "x' AND gid = '6")) =
      .ok (ascii "platform = 1 AND openid = 'x' AND gid = '6'") := by
    decide +kernel
  refine ⟨returns, by decide +kernel, fun addressed => ?_⟩
  obtain ⟨comparisons, own, read⟩ := addressed.read
  have differ : (account (ascii "x' AND gid = '6")).keyComparisons ≠
      readCondition (ascii "platform = 1 AND openid = 'x' AND gid = '6'") := by
    decide +kernel
  exact differ (own.trans read.symm)

end Playground.Datacenter
