import Mathlib.Data.List.Basic
import Mathlib.Data.List.TakeWhile
import Mathlib.Tactic.Positivity
import Mathlib.Tactic.Ring

/-! Literals of numbers and texts as a MySQL server reads them, under its default mode in which a
backslash escapes. -/

namespace Playground.Sql

variable {rest : Text}

abbrev Text := List UInt8

def quote : UInt8 := 39
def backslash : UInt8 := 92
def percent : UInt8 := 37
def underscore : UInt8 := 95

/-- What a backslash and the byte behind it stand for. -/
def unescape (byte : UInt8) : Text :=
  match byte with
  | 48 => [0]
  | 98 => [8]
  | 110 => [10]
  | 114 => [13]
  | 116 => [9]
  | 90 => [26]
  -- outside of a pattern these two stand for themselves
  | 37 => [backslash, percent]
  | 95 => [backslash, underscore]
  | other => [other]

/-- The text behind an opening quote, and what follows its closing quote. A quote in the text is
written twice. -/
def unquote : Text → Option (Text × Text)
  | [] => none
  | [byte] => if byte = quote then some ([], []) else none
  | byte :: next :: rest =>
    if byte = quote then
      if next = quote then (unquote rest).map fun read => (quote :: read.1, read.2)
      else some ([], next :: rest)
    else if byte = backslash then (unquote rest).map fun read => (unescape next ++ read.1, read.2)
    else (unquote (next :: rest)).map fun read => (byte :: read.1, read.2)

/-- No quote, and no backslash but before a percent sign or an underscore. -/
def plain : Text → Bool
  | [] => true
  | [byte] => byte ≠ quote ∧ byte ≠ backslash
  | byte :: next :: rest =>
    if byte = backslash then (next = percent ∨ next = underscore) && plain rest
    else byte ≠ quote && plain (next :: rest)

theorem plain_cons (notQuote : byte ≠ quote) (notEscape : byte ≠ backslash) :
    plain (byte :: text) = plain text := by
  cases text with
  | nil => simp [plain, notQuote, notEscape]
  | cons next rest => simp [plain, notQuote, notEscape]

theorem unescape_length (byte : UInt8) :
    (unescape byte).length = 1 ∨
      (byte = percent ∨ byte = underscore) ∧ unescape byte = [backslash, byte] := by
  unfold unescape
  split
  all_goals first
    | exact .inl rfl
    | exact .inr ⟨.inl rfl, rfl⟩
    | exact .inr ⟨.inr rfl, rfl⟩

theorem unescape_plain (fits : next = percent ∨ next = underscore)
    (rest : plain text) : plain (backslash :: next :: text) := by
  simp [plain, fits, rest]

theorem length_of_loses {value tail : Text} (added : Text) (loses : added.length = 1)
    (shorter : value.length + rest.length + 1 ≤ tail.length) :
    (added ++ value).length + rest.length + 1 ≤ tail.length + 2 ∧
      ((added ++ value).length + rest.length + 1 = tail.length + 2 → plain (added ++ value)) := by
  rw [List.length_append]
  exact ⟨by omega, fun equal => by omega⟩

theorem length_of_keeps {value tail : Text} (added : Text) (keeps : plain value → plain (added ++ value))
    (fits : value.length + rest.length + 1 ≤ tail.length ∧
      (value.length + rest.length + 1 = tail.length → plain value)) :
    (added ++ value).length + rest.length + 1 ≤ tail.length + added.length ∧
      ((added ++ value).length + rest.length + 1 = tail.length + added.length → plain (added ++ value)) := by
  obtain ⟨shorter, exact⟩ := fits
  rw [List.length_append]
  exact ⟨by omega, fun equal => keeps (exact (by omega))⟩

/-- A text is at most as long as it is written, and stands for itself if it is as long. -/
theorem unquote_length {text value : Text} (read : unquote text = some (value, rest)) :
    value.length + rest.length + 1 ≤ text.length ∧
      (value.length + rest.length + 1 = text.length → plain value) := by
  induction text using unquote.induct generalizing value rest with
  | case1 => cases read
  | case2 =>
    obtain ⟨rfl, rfl⟩ : [] = value ∧ [] = rest := by simpa [unquote] using read
    exact ⟨Nat.le_refl _, fun _ => rfl⟩
  | case3 byte other => simp [unquote, other] at read
  | case4 tail ih =>
    -- two quotes for one
    rw [unquote, if_pos rfl, if_pos rfl] at read
    obtain ⟨⟨value, rest⟩, inner, same⟩ := Option.map_eq_some_iff.mp read
    cases same
    exact length_of_loses [quote] rfl (ih inner).1
  | case5 next tail other =>
    obtain ⟨rfl, rfl⟩ : [] = value ∧ next :: tail = rest := by simpa [unquote, other] using read
    exact ⟨by simp, fun _ => rfl⟩
  | case6 next tail other ih =>
    rw [unquote, if_neg other, if_pos rfl] at read
    obtain ⟨⟨value, rest⟩, inner, same⟩ := Option.map_eq_some_iff.mp read
    cases same
    rcases unescape_length next with single | ⟨kept, both⟩
    · exact length_of_loses (unescape next) single (ih inner).1
    · rw [both]
      exact length_of_keeps [backslash, next] (unescape_plain kept) (ih inner)
  | case7 byte next tail notQuote notEscape ih =>
    rw [unquote, if_neg notQuote, if_neg notEscape] at read
    obtain ⟨⟨value, rest⟩, inner, same⟩ := Option.map_eq_some_iff.mp read
    cases same
    have keeps : plain value → plain ([byte] ++ value) := (plain_cons notQuote notEscape).trans
    exact length_of_keeps [byte] keeps (ih inner)

theorem unquote_quote (ends : rest.head? ≠ some quote) :
    unquote (quote :: rest) = some ([], rest) := by
  cases rest with
  | nil => rfl
  | cons next rest =>
    have other : next ≠ quote := fun same => ends (congrArg some same)
    simp [unquote, other]

theorem unquote_plain (fits : plain value) (ends : rest.head? ≠ some quote) :
    unquote (value ++ quote :: rest) = some (value, rest) := by
  induction value using plain.induct with
  | case1 => exact unquote_quote ends
  | case2 byte =>
    obtain ⟨notQuote, notEscape⟩ : byte ≠ quote ∧ byte ≠ backslash := by simpa [plain] using fits
    simp [unquote, notQuote, notEscape, unquote_quote ends]
  | case3 next tail ih =>
    obtain ⟨kept, fitsTail⟩ : (next = percent ∨ next = underscore) ∧ plain tail := by
      simpa [plain] using fits
    have escaped : unescape next = [backslash, next] := by
      rcases kept with rfl | rfl
      · rfl
      · rfl
    have other : backslash ≠ quote := by decide
    simp [unquote, other, ih fitsTail, escaped]
  | case4 byte next tail notEscape ih =>
    obtain ⟨notQuote, fitsTail⟩ : byte ≠ quote ∧ plain (next :: tail) := by
      simpa [plain, notEscape] using fits
    have inner := ih fitsTail
    rw [List.cons_append] at inner
    simp [unquote, notQuote, notEscape, inner]

theorem longest_append (inside : ∀ byte ∈ text, kind byte)
    (ends : ∀ byte ∈ rest.head?, ¬ kind byte) :
    (text ++ rest).takeWhile kind = text ∧ (text ++ rest).dropWhile kind = rest := by
  rw [List.takeWhile_append_of_pos inside, List.dropWhile_append_of_pos inside]
  cases rest with
  | nil => exact ⟨List.append_nil text, rfl⟩
  | cons byte rest =>
    have other := ends byte rfl
    rw [List.takeWhile_cons_of_neg other, List.dropWhile_cons_of_neg other]
    exact ⟨List.append_nil text, rfl⟩

theorem append_stop_inj (clear : stop ∉ text)
    (clearToo : stop ∉ other) (same : text ++ stop :: rest = other ++ stop :: tail) :
    text = other ∧ rest = tail := by
  induction text generalizing other with
  | nil =>
    cases other with
    | nil => exact ⟨rfl, (List.cons.inj same).2⟩
    | cons byte other =>
      obtain rfl : stop = byte := (List.cons.inj same).1
      exact absurd List.mem_cons_self clearToo
  | cons byte text ih =>
    cases other with
    | nil =>
      obtain rfl : byte = stop := (List.cons.inj same).1
      exact absurd List.mem_cons_self clear
    | cons byteToo other =>
      obtain ⟨rfl, behind⟩ := List.cons.inj same
      obtain ⟨rfl, tails⟩ := ih (fun member => clear (List.mem_cons_of_mem _ member))
        (fun member => clearToo (List.mem_cons_of_mem _ member)) behind
      exact ⟨rfl, tails⟩

def minus : UInt8 := 45

def isDigit (byte : UInt8) : Bool := 48 ≤ byte ∧ byte ≤ 57

/-- The value of a run of digits. -/
def digitsValue (digits : Text) : Nat := digits.foldl (fun value byte => 10 * value + (byte.toNat - 48)) 0

/-- A numeral at the start of a text, and what is behind it. -/
def readDigits (text : Text) : Option (Nat × Text) :=
  let digits := text.takeWhile isDigit
  if digits.isEmpty then none else some (digitsValue digits, text.dropWhile isDigit)

/-- A numeral with its sign. -/
def readNumber : Text → Option (Int × Text)
  | [] => none
  | byte :: rest =>
    if byte = minus then (readDigits rest).map fun read => (-(read.1 : Int), read.2)
    else (readDigits (byte :: rest)).map fun read => ((read.1 : Int), read.2)

/-- The bytes of an ASCII text. -/
def bytesOf (text : String) : Text := text.toList.map fun char => UInt8.ofNat char.toNat

def decimal (number : Int) : Text := bytesOf (toString number)

def natural (number : Nat) : Text := (Nat.toDigits 10 number).map fun char => UInt8.ofNat char.toNat

theorem decimal_ofNat (number : Nat) : decimal (number : Int) = natural number := by
  have shown : toString (number : Int) = toString number := rfl
  rw [decimal, bytesOf, shown, Nat.toString_eq_ofList_toDigits, String.toList_ofList]
  rfl

theorem decimal_negSucc (number : Nat) : decimal (Int.negSucc number) = minus :: natural (number + 1) := by
  have shown : toString (Int.negSucc number) = "-" ++ toString (number + 1) := rfl
  have digits : (toString (number + 1)).toList = Nat.toDigits 10 (number + 1) := by
    rw [Nat.toString_eq_ofList_toDigits, String.toList_ofList]
  rw [decimal, bytesOf, shown, String.toList_append, digits]
  rfl

theorem digit_byte {char : Char} (digit : char.isDigit) :
    isDigit (UInt8.ofNat char.toNat) ∧ (UInt8.ofNat char.toNat).toNat = char.toNat := by
  obtain ⟨low, high⟩ : 48 ≤ char.toNat ∧ char.toNat ≤ 57 := by
    simpa [Char.isDigit, UInt32.le_iff_toNat_le] using digit
  have byte : (UInt8.ofNat char.toNat).toNat = char.toNat := by
    rw [UInt8.toNat_ofNat']
    omega
  refine ⟨?_, byte⟩
  simp [isDigit, UInt8.le_iff_toNat_le, byte, low, high]

theorem natural_isDigit (number : Nat) : ∀ byte ∈ natural number, isDigit byte := by
  intro byte member
  obtain ⟨char, digit, rfl⟩ := List.mem_map.mp member
  exact (digit_byte (Nat.isDigit_of_mem_toDigits (by decide) (by decide) digit)).1

theorem natural_value (number : Nat) : digitsValue (natural number) = number := by
  have same : digitsValue (natural number) = Nat.ofDigitChars 10 (Nat.toDigits 10 number) 0 := by
    rw [digitsValue, natural, List.foldl_map, Nat.ofDigitChars_eq_foldl]
    refine List.foldl_ext _ _ _ fun value char digit => ?_
    rw [(digit_byte (Nat.isDigit_of_mem_toDigits (by decide) (by decide) digit)).2]
    rfl
  rw [same, Nat.ofDigitChars_ten_toDigits]

theorem foldl_digits_lt {digits : Text} (all : ∀ byte ∈ digits, isDigit byte) (value : Nat) :
    digits.foldl (fun value byte => 10 * value + (byte.toNat - 48)) value < (value + 1) * 10 ^ digits.length := by
  induction digits generalizing value with
  | nil => simp
  | cons byte digits ih =>
    obtain ⟨digit, rest⟩ := List.forall_mem_cons.mp all
    have high : byte.toNat ≤ 57 := by
      have bounds : 48 ≤ byte ∧ byte ≤ 57 := by simpa [isDigit] using digit
      exact UInt8.le_iff_toNat_le.mp bounds.2
    have next := ih rest (10 * value + (byte.toNat - 48))
    calc
      _ < (10 * value + (byte.toNat - 48) + 1) * 10 ^ digits.length := next
      _ ≤ (10 * (value + 1)) * 10 ^ digits.length := Nat.mul_le_mul_right _ (by omega)
      _ = (value + 1) * 10 ^ (byte :: digits).length := by
        rw [List.length_cons, Nat.pow_succ]
        ring

theorem digitsValue_lt {digits : Text} (all : ∀ byte ∈ digits, isDigit byte) :
    digitsValue digits < 10 ^ digits.length := by
  have bound := foldl_digits_lt all 0
  rwa [Nat.zero_add, Nat.one_mul] at bound

theorem natural_ne_nil (number : Nat) : natural number ≠ [] := by
  simp [natural, Nat.toDigits_ne_nil]

theorem natural_length_le_iff (number : Nat) (some : 0 < width) :
    (natural number).length ≤ width ↔ number < 10 ^ width := by
  rw [natural, List.length_map]
  exact Nat.length_toDigits_le_iff (by decide) some

theorem natural_length_le {digits : Text} (all : ∀ byte ∈ digits, isDigit byte) (some : digits ≠ []) :
    (natural (digitsValue digits)).length ≤ digits.length :=
  (natural_length_le_iff _ (List.length_pos_iff.mpr some)).mpr (digitsValue_lt all)

theorem natural_take_value (number : Nat) (cut : width < (natural number).length) :
    digitsValue ((natural number).take width) ≤ number ∧
      (digitsValue ((natural number).take width) = number → width = 0 ∧ number = 0) := by
  cases width with
  | zero => exact ⟨Nat.zero_le _, fun same => ⟨rfl, same.symm⟩⟩
  | succ width =>
    have all : ∀ byte ∈ (natural number).take (width + 1), isDigit byte :=
      fun byte member => natural_isDigit number byte (List.mem_of_mem_take member)
    have below := digitsValue_lt all
    rw [List.length_take_of_le cut.le] at below
    have above : ¬ number < 10 ^ (width + 1) :=
      fun small => Nat.not_le.mpr cut ((natural_length_le_iff number (Nat.succ_pos width)).mpr small)
    omega

theorem decimal_length_le_iff (number : Int) (some : 0 < width) :
    (decimal number).length ≤ width + 1 ↔ -10 ^ width < number ∧ number < 10 ^ (width + 1) := by
  have negative : -(10 ^ width : Int) < 0 := Int.neg_neg_of_pos (by positivity)
  have positive : (0 : Int) < 10 ^ (width + 1) := by positivity
  cases number with
  | ofNat number =>
    have shown : decimal (Int.ofNat number) = natural number := decimal_ofNat number
    have cast : (Int.ofNat number < 10 ^ (width + 1)) ↔ number < 10 ^ (width + 1) := by
      rw [Int.ofNat_eq_natCast]
      exact_mod_cast Iff.rfl
    rw [shown, natural_length_le_iff number (Nat.succ_pos _), cast]
    have above : -(10 ^ width : Int) < Int.ofNat number := Int.lt_of_lt_of_le negative (Int.natCast_nonneg _)
    exact (and_iff_right above).symm
  | negSucc number =>
    have cast : (-(10 ^ width : Int) < Int.negSucc number) ↔ number + 1 < 10 ^ width := by
      rw [Int.negSucc_eq, Int.neg_lt_neg_iff]
      exact_mod_cast Iff.rfl
    rw [decimal_negSucc, List.length_cons, Nat.add_le_add_iff_right, natural_length_le_iff _ some, cast]
    have below : Int.negSucc number < 10 ^ (width + 1) := Int.lt_trans (Int.negSucc_lt_zero _) positive
    exact (and_iff_left below).symm

theorem readDigits_natural (number : Nat) (ends : ∀ byte ∈ rest.head?, ¬ isDigit byte) :
    readDigits (natural number ++ rest) = some (number, rest) := by
  obtain ⟨digits, behind⟩ := longest_append (natural_isDigit number) ends
  rw [readDigits, digits, behind, natural_value]
  simp [natural_ne_nil]

theorem readDigits_length {text : Text} (read : readDigits text = some (number, rest)) :
    (natural number).length + rest.length ≤ text.length := by
  unfold readDigits at read
  dsimp only at read
  split at read
  · cases read
  · next nonempty =>
    obtain ⟨rfl, rfl⟩ : digitsValue (text.takeWhile isDigit) = number ∧ text.dropWhile isDigit = rest := by
      simpa using read
    have digits := natural_length_le (fun _ => List.mem_takeWhile_imp) (by simpa using nonempty)
    have split := congrArg List.length (List.takeWhile_append_dropWhile (p := isDigit) (l := text))
    rw [List.length_append] at split
    omega

theorem readNumber_decimal (number : Int) (ends : ∀ byte ∈ rest.head?, ¬ isDigit byte) :
    readNumber (decimal number ++ rest) = some (number, rest) := by
  cases number with
  | ofNat number =>
    have shown : decimal (Int.ofNat number) = natural number := decimal_ofNat number
    rw [shown]
    obtain ⟨byte, digits, written⟩ := List.exists_cons_of_ne_nil (natural_ne_nil number)
    have read := readDigits_natural number ends
    have digit : isDigit byte := natural_isDigit number byte (written ▸ List.mem_cons_self)
    have other : byte ≠ minus := by
      rintro rfl
      cases digit
    rw [written, List.cons_append] at read ⊢
    simp [readNumber, other, read]
  | negSucc number =>
    rw [decimal_negSucc, List.cons_append]
    simp [readNumber, readDigits_natural (number + 1) ends, Int.negSucc_eq]

theorem decimal_neg_length (number : Nat) :
    (decimal (-(number : Int))).length ≤ (natural number).length + 1 := by
  cases number with
  | zero => exact Nat.le_succ_of_le (Nat.le_of_eq (congrArg List.length (decimal_ofNat 0)))
  | succ number => exact Nat.le_of_eq (congrArg List.length (decimal_negSucc number))

theorem readNumber_length {text : Text} (read : readNumber text = some (number, rest)) :
    (decimal number).length + rest.length ≤ text.length := by
  unfold readNumber at read
  split at read
  · cases read
  · next byte tail =>
    split at read
    · obtain ⟨⟨digits, rest⟩, inner, same⟩ := Option.map_eq_some_iff.mp read
      cases same
      have shorter := readDigits_length inner
      have signed := decimal_neg_length digits
      simp at shorter signed ⊢
      omega
    · obtain ⟨⟨digits, rest⟩, inner, same⟩ := Option.map_eq_some_iff.mp read
      cases same
      rw [decimal_ofNat]
      exact readDigits_length inner

/-- A literal as a statement holds it. -/
inductive Literal where
  | number (value : Int)
  | text (value : Text)
deriving DecidableEq

namespace Literal

/-- A text goes between quotes as it is. -/
def write : Literal → Text
  | .number value => decimal value
  | .text value => quote :: (value ++ [quote])

/-- The literals that are read back from what is written for them. -/
def readable : Literal → Bool
  | .number _ => true
  | .text value => plain value

end Literal

/-- The literal at the start of a text, and what is behind it. -/
def readLiteral : Text → Option (Literal × Text)
  | [] => none
  | byte :: rest =>
    if byte = quote then (unquote rest).map fun read => (.text read.1, read.2)
    else (readNumber (byte :: rest)).map fun read => (.number read.1, read.2)

theorem readLiteral_length {text : Text} {value : Literal}
    (read : readLiteral text = some (value, rest)) :
    value.write.length + rest.length ≤ text.length ∧
      (value.write.length + rest.length = text.length → value.readable) := by
  unfold readLiteral at read
  split at read
  · cases read
  · split at read
    · obtain ⟨⟨bytes, rest⟩, inner, same⟩ := Option.map_eq_some_iff.mp read
      cases same
      obtain ⟨shorter, exact⟩ := unquote_length inner
      refine ⟨?_, fun equal => exact ?_⟩
      · simp [Literal.write]
        omega
      · simp [Literal.write] at equal
        omega
    · obtain ⟨⟨number, rest⟩, inner, same⟩ := Option.map_eq_some_iff.mp read
      cases same
      exact ⟨readNumber_length inner, fun _ => rfl⟩

theorem decimal_head (number : Int) : ∃ byte digits, decimal number = byte :: digits ∧ byte ≠ quote := by
  cases number with
  | ofNat number =>
    obtain ⟨byte, digits, written⟩ := List.exists_cons_of_ne_nil (natural_ne_nil number)
    have digit : isDigit byte := natural_isDigit number byte (written ▸ List.mem_cons_self)
    refine ⟨byte, digits, (decimal_ofNat number).trans written, ?_⟩
    rintro rfl
    cases digit
  | negSucc number => exact ⟨minus, natural (number + 1), decimal_negSucc number, by decide⟩

/-- What may stand behind a literal without becoming a part of it. -/
def Separates (rest : Text) : Prop := ∀ byte ∈ rest.head?, ¬ isDigit byte ∧ byte ≠ quote

theorem readLiteral_write {value : Literal} (readable : value.readable)
    (separates : Separates rest) : readLiteral (value.write ++ rest) = some (value, rest) := by
  cases value with
  | number value =>
    have read : readNumber (decimal value ++ rest) = some (value, rest) :=
      readNumber_decimal value fun byte head => (separates byte head).1
    obtain ⟨byte, digits, written, other⟩ := decimal_head value
    rw [written, List.cons_append] at read
    simp [Literal.write, written, readLiteral, other, read]
  | text value =>
    have ended : rest.head? ≠ some quote := fun head => (separates quote head).2 rfl
    simp [Literal.write, readLiteral, unquote_plain readable ended]

/-- No text in it contains a quote. -/
def Literal.Unquoted : Literal → Prop
  | .number _ => True
  | .text value => quote ∉ value

theorem write_append_inj {first second : Literal} (own : first.Unquoted) (other : second.Unquoted)
    (separates : Separates rest) (ends : Separates tail)
    (same : first.write ++ rest = second.write ++ tail) : first = second ∧ rest = tail := by
  cases first with
  | number one =>
    obtain ⟨byte, digits, written, notQuote⟩ := decimal_head one
    cases second with
    | number two =>
      have read : readNumber (decimal one ++ rest) = some (one, rest) :=
        readNumber_decimal one fun byte head => (separates byte head).1
      have again : readNumber (decimal two ++ tail) = some (two, tail) :=
        readNumber_decimal two fun byte head => (ends byte head).1
      have equal : some (one, rest) = some (two, tail) :=
        read.symm.trans ((congrArg readNumber same).trans again)
      obtain ⟨rfl, rfl⟩ := Prod.ext_iff.mp (Option.some.inj equal)
      exact ⟨rfl, rfl⟩
    | text two =>
      simp only [Literal.write, written, List.cons_append, List.cons.injEq] at same
      exact absurd same.1 notQuote
  | text one =>
    cases second with
    | number two =>
      obtain ⟨byte, digits, written, notQuote⟩ := decimal_head two
      simp only [Literal.write, written, List.cons_append, List.cons.injEq] at same
      exact absurd same.1.symm notQuote
    | text two =>
      have same : one ++ quote :: rest = two ++ quote :: tail := by
        simpa [Literal.write] using same
      obtain ⟨rfl, rfl⟩ := append_stop_inj own other same
      exact ⟨rfl, rfl⟩

def joinedTail (separator : Text) (literals : List Literal) : Text :=
  if literals = [] then [] else separator ++ separator.intercalate (literals.map Literal.write)

theorem joined_cons (separator : Text) (first : Literal) (rest : List Literal) :
    separator.intercalate ((first :: rest).map Literal.write) = first.write ++ joinedTail separator rest := by
  unfold joinedTail
  split
  · next empty => simp [empty]
  · next more =>
    rw [List.map_cons, List.intercalate_cons_of_ne_nil (by simpa using more), List.append_assoc]

theorem write_ne_nil (literal : Literal) : literal.write ≠ [] := by
  cases literal with
  | number value =>
    obtain ⟨byte, digits, written, -⟩ := decimal_head value
    simp [Literal.write, written]
  | text value => simp [Literal.write]

/-- Joined literals are told apart if no text holds a quote and the separator ends a literal. -/
theorem joined_inj {separator : Text} (some : separator ≠ [])
    (separates : ∀ rest, Separates (separator ++ rest))
    {literals others : List Literal} (own : ∀ literal ∈ literals, literal.Unquoted)
    (foreign : ∀ literal ∈ others, literal.Unquoted)
    (same : separator.intercalate (literals.map Literal.write) =
      separator.intercalate (others.map Literal.write)) : literals = others := by
  have ends (literals : List Literal) : Separates (joinedTail separator literals) := by
    unfold joinedTail
    split
    · exact nofun
    · exact separates _
  induction literals generalizing others with
  | nil =>
    cases others with
    | nil => rfl
    | cons other others =>
      rw [joined_cons] at same
      exact absurd (List.append_eq_nil_iff.mp same.symm).1 (write_ne_nil other)
  | cons literal literals ih =>
    cases others with
    | nil =>
      rw [joined_cons] at same
      exact absurd (List.append_eq_nil_iff.mp same).1 (write_ne_nil literal)
    | cons other others =>
      obtain ⟨clear, ownRest⟩ := List.forall_mem_cons.mp own
      obtain ⟨clearToo, foreignRest⟩ := List.forall_mem_cons.mp foreign
      rw [joined_cons, joined_cons] at same
      obtain ⟨rfl, tails⟩ := write_append_inj clear clearToo (ends _) (ends _) same
      -- a tail is empty exactly if nothing follows
      by_cases last : literals = []
      · by_cases lastToo : others = []
        · rw [last, lastToo]
        · simp [joinedTail, last, lastToo, some] at tails
      · by_cases lastToo : others = []
        · simp [joinedTail, last, lastToo, some] at tails
        · have rest : separator.intercalate (literals.map Literal.write) =
              separator.intercalate (others.map Literal.write) := by
            simpa [joinedTail, last, lastToo] using tails
          rw [ih ownRest foreignRest rest]

end Playground.Sql
