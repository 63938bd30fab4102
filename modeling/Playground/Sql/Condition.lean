import Playground.Sql.Literal

/-! Conditions that compare columns with literals, joined by AND. -/

namespace Playground.Sql

def isName (byte : UInt8) : Bool :=
  48 ≤ byte ∧ byte ≤ 57 ∨ 65 ≤ byte ∧ byte ≤ 90 ∨ 97 ≤ byte ∧ byte ≤ 122 ∨ byte = underscore

/-- A name that needs no quotes. -/
def Identifier (name : Text) : Prop := name ≠ [] ∧ ∀ byte ∈ name, isName byte

instance : DecidablePred Identifier := fun name =>
  inferInstanceAs (Decidable (name ≠ [] ∧ ∀ byte ∈ name, isName byte))

/-- A column is compared with a literal. -/
structure Comparison where
  name : Text
  value : Literal
deriving DecidableEq

def equals : Text := bytesOf " = "

def andText : Text := bytesOf " AND "

/-- Comparisons joined with AND, their literals written by `write`. -/
def conjunction (write : Literal → Text) : List Comparison → Text
  | [] => []
  | [last] => last.name ++ equals ++ write last.value
  | first :: second :: rest =>
    first.name ++ equals ++ write first.value ++ andText ++ conjunction write (second :: rest)

theorem conjunction_cons (write : Literal → Text) (first : Comparison) (more : rest ≠ []) :
    conjunction write (first :: rest) = conjunction write [first] ++ andText ++ conjunction write rest := by
  obtain ⟨second, others, rfl⟩ := List.exists_cons_of_ne_nil more
  rfl

theorem conjunction_eq_intercalate (write : Literal → Text) (comparisons : List Comparison) :
    conjunction write comparisons =
      andText.intercalate (comparisons.map fun comparison => conjunction write [comparison]) := by
  induction comparisons with
  | nil => rfl
  | cons first rest ih =>
    by_cases last : rest = []
    · simp [last]
    · rw [conjunction_cons _ _ last, ih, List.map_cons, List.intercalate_cons_of_ne_nil (by simpa using last)]

theorem conjunction_congr
    (same : ∀ comparison ∈ comparisons, write comparison.value = other comparison.value) :
    conjunction write comparisons = conjunction other comparisons := by
  induction comparisons with
  | nil => rfl
  | cons first rest ih =>
    obtain ⟨here, later⟩ := List.forall_mem_cons.mp same
    have single : conjunction write [first] = conjunction other [first] := by simp [conjunction, here]
    by_cases last : rest = []
    · subst last
      exact single
    · rw [conjunction_cons _ _ last, conjunction_cons _ _ last, single, ih later]

/-- A fixed text at the start, and what is behind it. -/
def expect (fixed text : Text) : Option Text :=
  if fixed.isPrefixOf text then some (text.drop fixed.length) else none

/-- A name, an equals sign and a literal. -/
def readComparison (text : Text) : Option (Comparison × Text) :=
  let name := text.takeWhile isName
  if name.isEmpty then none
  else
    (expect equals (text.dropWhile isName)).bind fun behind =>
      (readLiteral behind).map fun read => ({ name, value := read.1 }, read.2)

/-- So many comparisons at most, up to the end of the text. -/
def readConjunction : Nat → Text → Option (List Comparison)
  | 0, _ => none
  | more + 1, text =>
    (readComparison text).bind fun read =>
      if read.2.isEmpty then some [read.1]
      else
        (expect andText read.2).bind fun behind =>
          (readConjunction more behind).map fun rest => read.1 :: rest

/-- A text has no more comparisons than bytes. -/
def readCondition (text : Text) : Option (List Comparison) := readConjunction text.length text

/-- The rows that a condition selects; a row gives the values of its columns. -/
def Selects (text : Text) (row : Text → Option Literal) : Prop :=
  ∃ comparisons, readCondition text = some comparisons ∧
    ∀ comparison ∈ comparisons, row comparison.name = some comparison.value

theorem expect_eq_some : expect fixed text = some rest ↔ text = fixed ++ rest := by
  unfold expect
  split
  · next isPrefix =>
    obtain ⟨tail, rfl⟩ := List.isPrefixOf_iff_prefix.mp isPrefix
    simp
  · next other =>
    refine iff_of_false nofun fun same => other ?_
    exact List.isPrefixOf_iff_prefix.mpr ⟨rest, same.symm⟩

theorem readComparison_length {text rest : Text} {comparison : Comparison}
    (read : readComparison text = some (comparison, rest)) :
    (conjunction Literal.write [comparison]).length + rest.length ≤ text.length ∧
      ((conjunction Literal.write [comparison]).length + rest.length = text.length →
        comparison.value.readable) := by
  unfold readComparison at read
  dsimp only at read
  split at read
  · cases read
  · obtain ⟨behind, expected, read⟩ := Option.bind_eq_some_iff.mp read
    obtain ⟨⟨value, rest⟩, inner, same⟩ := Option.map_eq_some_iff.mp read
    cases same
    have split := congrArg List.length (List.takeWhile_append_dropWhile (p := isName) (l := text))
    rw [expect_eq_some.mp expected, List.length_append, List.length_append] at split
    obtain ⟨shorter, exact⟩ := readLiteral_length inner
    simp only [conjunction, List.length_append]
    exact ⟨by omega, fun equal => exact (by omega)⟩

theorem readConjunction_ne_nil
    (read : readConjunction more text = some comparisons) : comparisons ≠ [] := by
  cases more with
  | zero => cases read
  | succ more =>
    obtain ⟨⟨first, behind⟩, -, read⟩ := Option.bind_eq_some_iff.mp read
    dsimp only at read
    split at read
    · cases read
      exact List.cons_ne_nil _ _
    · obtain ⟨others, -, read⟩ := Option.bind_eq_some_iff.mp read
      obtain ⟨rest, -, rfl⟩ := Option.map_eq_some_iff.mp read
      exact List.cons_ne_nil _ _

/-- What is read is at least as long as the condition without escapes, and readable if it is as long. -/
theorem readConjunction_length {text : Text} (read : readConjunction more text = some comparisons) :
    (conjunction Literal.write comparisons).length ≤ text.length ∧
      ((conjunction Literal.write comparisons).length = text.length →
        ∀ comparison ∈ comparisons, comparison.value.readable) := by
  induction more generalizing text comparisons with
  | zero => cases read
  | succ more ih =>
    obtain ⟨⟨first, behind⟩, one, read⟩ := Option.bind_eq_some_iff.mp read
    obtain ⟨shorter, exact⟩ := readComparison_length one
    dsimp only at read
    split at read
    · next last =>
      obtain rfl : behind = [] := by simpa using last
      cases read
      rw [List.length_nil, Nat.add_zero] at shorter exact
      exact ⟨shorter, fun equal => by simpa using exact equal⟩
    · obtain ⟨others, expected, read⟩ := Option.bind_eq_some_iff.mp read
      obtain ⟨rest, inner, rfl⟩ := Option.map_eq_some_iff.mp read
      obtain ⟨restShorter, restExact⟩ := ih inner
      rw [expect_eq_some.mp expected, List.length_append] at shorter exact
      rw [conjunction_cons _ _ (readConjunction_ne_nil inner), List.length_append, List.length_append]
      refine ⟨by omega, fun equal => List.forall_mem_cons.mpr ⟨exact (by omega), restExact (by omega)⟩⟩

theorem separates_andText (rest : Text) : Separates (andText ++ rest) := by
  intro byte head
  have space : byte = 32 := by simpa [andText, bytesOf] using head.symm
  subst space
  decide

theorem readComparison_write {comparison : Comparison} (name : Identifier comparison.name)
    (readable : comparison.value.readable) (separates : Separates rest) :
    readComparison (conjunction Literal.write [comparison] ++ rest) = some (comparison, rest) := by
  have written : conjunction Literal.write [comparison] ++ rest =
      comparison.name ++ (equals ++ (comparison.value.write ++ rest)) := by
    simp [conjunction]
  have ends : ∀ byte ∈ (equals ++ (comparison.value.write ++ rest)).head?, ¬ isName byte := by
    intro byte head
    have space : 32 = byte := by simpa [equals, bytesOf] using head
    subst space
    decide
  obtain ⟨named, behind⟩ := longest_append name.2 ends
  have expected : expect equals (equals ++ (comparison.value.write ++ rest)) = some _ :=
    expect_eq_some.mpr rfl
  rw [written, readComparison, named, behind, expected]
  simp [name.1, readLiteral_write readable separates]

theorem readConjunction_write {comparisons : List Comparison} (nonempty : comparisons ≠ [])
    (enough : comparisons.length ≤ more)
    (names : ∀ comparison ∈ comparisons, Identifier comparison.name)
    (readable : ∀ comparison ∈ comparisons, comparison.value.readable) :
    readConjunction more (conjunction Literal.write comparisons) = some comparisons := by
  induction comparisons generalizing more with
  | nil => exact (nonempty rfl).elim
  | cons first rest ih =>
    obtain ⟨more, rfl⟩ := Nat.exists_eq_add_of_lt (Nat.lt_of_lt_of_le (Nat.succ_pos _) enough)
    rw [List.length_cons, Nat.zero_add, Nat.add_le_add_iff_right] at enough
    obtain ⟨nameFirst, namesRest⟩ := List.forall_mem_cons.mp names
    obtain ⟨readableFirst, readableRest⟩ := List.forall_mem_cons.mp readable
    by_cases last : rest = []
    · subst last
      have ended : Separates [] := nofun
      have one := readComparison_write nameFirst readableFirst ended
      rw [List.append_nil] at one
      simp [readConjunction, one]
    · have one := readComparison_write nameFirst readableFirst
        (separates_andText (conjunction Literal.write rest))
      have expected : expect andText (andText ++ conjunction Literal.write rest) = some _ :=
        expect_eq_some.mpr rfl
      have others := ih last enough namesRest readableRest
      rw [conjunction_cons _ _ last, List.append_assoc]
      have joined : andText ≠ [] := by decide
      simp [readConjunction, one, expected, others, joined]

theorem length_le_conjunction (write : Literal → Text) (comparisons : List Comparison) :
    comparisons.length ≤ (conjunction write comparisons).length := by
  have one (comparison : Comparison) : 1 ≤ (conjunction write [comparison]).length := by
    simp [conjunction, equals, bytesOf]
    omega
  induction comparisons with
  | nil => exact Nat.zero_le _
  | cons first rest ih =>
    by_cases last : rest = []
    · subst last
      exact one first
    · have single := one first
      rw [conjunction_cons _ _ last, List.length_append, List.length_append, List.length_cons]
      omega

section Cut

variable {cut : Literal → Text} (shorter : ∀ value, (cut value).length ≤ value.write.length)
include shorter

theorem conjunction_length_le (comparisons : List Comparison) :
    (conjunction cut comparisons).length ≤ (conjunction Literal.write comparisons).length ∧
      ((conjunction cut comparisons).length = (conjunction Literal.write comparisons).length →
        ∀ comparison ∈ comparisons, (cut comparison.value).length = comparison.value.write.length) := by
  induction comparisons with
  | nil => exact ⟨Nat.le_refl _, fun _ => nofun⟩
  | cons first rest ih =>
    have single := shorter first.value
    by_cases last : rest = []
    · subst last
      simp only [conjunction, List.length_append, List.forall_mem_singleton]
      omega
    · simp only [conjunction_cons _ _ last, List.length_append, List.forall_mem_cons]
      simp only [conjunction, List.length_append]
      refine ⟨by omega, fun equal => ⟨by omega, ih.2 (by omega)⟩⟩

/-- A condition whose literals may be cut is read back exactly if none of them is and each is
readable. -/
theorem readCondition_conjunction_iff (whole : ∀ value, (cut value).length = value.write.length →
    cut value = value.write) (nonempty : comparisons ≠ [])
    (names : ∀ comparison ∈ comparisons, Identifier comparison.name) :
    readCondition (conjunction cut comparisons) = some comparisons ↔
      ∀ comparison ∈ comparisons, cut comparison.value = comparison.value.write ∧
        comparison.value.readable := by
  obtain ⟨fits, full⟩ := conjunction_length_le shorter comparisons
  constructor
  · intro read comparison member
    obtain ⟨least, readable⟩ := readConjunction_length read
    have equal := Nat.le_antisymm fits least
    exact ⟨whole _ (full equal comparison member), readable equal.symm comparison member⟩
  · intro fine
    rw [conjunction_congr fun comparison member => (fine comparison member).1]
    exact readConjunction_write nonempty (length_le_conjunction _ _) names fun comparison member =>
      (fine comparison member).2

end Cut

end Playground.Sql
