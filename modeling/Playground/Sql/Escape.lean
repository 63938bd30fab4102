import Playground.Sql.Literal

/-! Texts that are escaped before they are put between quotes. -/

namespace Playground.Sql

def doubleQuote : UInt8 := 34

/-- The bytes with a meaning of their own in a literal or in a file are put behind a backslash. -/
def escapeByte (byte : UInt8) : Text :=
  match byte with
  | 0 => [backslash, 48]
  | 10 => [backslash, 110]
  | 13 => [backslash, 114]
  | 26 => [backslash, 90]
  | 34 => [backslash, doubleQuote]
  | 39 => [backslash, quote]
  | 92 => [backslash, backslash]
  | other => [other]

/-- A text as it is put between quotes. -/
def escape (text : Text) : Text := text.flatMap escapeByte

theorem escapeByte_cases (byte : UInt8) :
    (∃ mark, escapeByte byte = [backslash, mark] ∧ unescape mark = [byte] ∧ mark ≠ 0) ∨
      escapeByte byte = [byte] ∧ byte ≠ quote ∧ byte ≠ backslash ∧ byte ≠ 0 := by
  unfold escapeByte
  split
  case h_8 zero _ _ _ _ single escaped => exact .inr ⟨rfl, single, escaped, zero⟩
  all_goals exact .inl ⟨_, rfl, by decide, by decide⟩

theorem unquote_escapeByte (byte : UInt8) (rest : Text) :
    unquote (escapeByte byte ++ rest) = (unquote rest).map fun read => (byte :: read.1, read.2) := by
  rcases escapeByte_cases byte with ⟨mark, written, meant, -⟩ | ⟨written, notQuote, notEscape, -⟩
  · have other : backslash ≠ quote := by decide
    rw [written]
    simp [unquote, other, meant]
  · rw [written]
    cases rest with
    | nil => simp [unquote, notQuote]
    | cons next rest => simp [unquote, notQuote, notEscape]

theorem unquote_escape (value : Text) {rest : Text} (ends : rest.head? ≠ some quote) :
    unquote (escape value ++ quote :: rest) = some (value, rest) := by
  induction value with
  | nil => exact unquote_quote ends
  | cons byte value ih =>
    have split : escape (byte :: value) = escapeByte byte ++ escape value := List.flatMap_cons
    rw [split, List.append_assoc, unquote_escapeByte, ih]
    rfl

theorem zero_notMem_escape (text : Text) : 0 ∉ escape text := by
  intro zero
  obtain ⟨byte, -, within⟩ := List.mem_flatMap.mp zero
  rcases escapeByte_cases byte with ⟨mark, written, -, nonzero⟩ | ⟨written, -, -, nonzero⟩
  · rw [written] at within
    have marked : (0 : UInt8) = backslash ∨ 0 = mark := by simpa using within
    exact marked.elim (by decide) fun same => nonzero same.symm
  · rw [written] at within
    exact nonzero (List.mem_singleton.mp within).symm

theorem escape_length (text : Text) :
    text.length ≤ (escape text).length ∧ (escape text).length ≤ 2 * text.length := by
  induction text with
  | nil => exact ⟨Nat.le_refl _, Nat.le_refl _⟩
  | cons byte text ih =>
    have single : (escapeByte byte).length = 1 ∨ (escapeByte byte).length = 2 := by
      rcases escapeByte_cases byte with ⟨mark, written, -⟩ | ⟨written, -⟩
      · exact .inr (congrArg List.length written)
      · exact .inl (congrArg List.length written)
    have split : escape (byte :: text) = escapeByte byte ++ escape text := List.flatMap_cons
    rw [split, List.length_append, List.length_cons]
    omega

end Playground.Sql
