import InputReplay.Toml.Document
import InputReplay.Toml.Statement
import Mathlib.Data.Nat.Digits.Defs
import Mathlib.Tactic.IntervalCases

/-! What a written document holds under a name reads back. A number is read off its decimal digits,
and a string, whatever its characters, from between its quotes. Either way the rest of the text is
left as it is. -/

namespace InputReplay.Toml
open Text

theorem run_up_to {p : Char → Bool} {s : List Char} (inside : ∀ c ∈ s, p c = true) {stop : Char}
    (stops : p stop = false) (rest : List Char) :
    (s ++ stop :: rest).takeWhile p = s ∧ (s ++ stop :: rest).dropWhile p = stop :: rest := by
  rw [List.takeWhile_append_of_pos inside, List.dropWhile_append_of_pos inside]
  simp [stops]

theorem isDigit_toDigits (n : Nat) : ∀ c ∈ Nat.toDigits 10 n, c.isDigit = true :=
  fun _ member => Nat.isDigit_of_mem_toDigits (by decide) (by decide) member

theorem head?_toDigits_ne_zero {n : Nat} (pos : 0 < n) :
    (Nat.toDigits 10 n).head? ≠ some '0' := by
  induction n using Nat.strong_induction_on with
  | _ n ih =>
    by_cases small : n < 10
    · rw [Nat.toDigits_of_lt_base small]
      interval_cases n <;> decide
    · have front : (Nat.toDigits 10 n).head? = (Nat.toDigits 10 (n / 10)).head? := by
        rw [Nat.toDigits_of_base_le (by decide) (by omega), List.head?_append,
          List.head?_eq_some_head Nat.toDigits_ne_nil, Option.some_or]
      rw [front]
      exact ih (n / 10) (by omega) (by omega)

theorem ungrouped_of_digits {s : List Char} (nonempty : s ≠ [])
    (digits : ∀ c ∈ s, c.isDigit = true) : ungrouped Char.isDigit s = some s := by
  induction s with
  | nil => exact absurd rfl nonempty
  | cons c rest ih =>
    obtain ⟨first, others⟩ := List.forall_mem_cons.mp digits
    cases rest with
    | nil => simp [ungrouped, first]
    | cons d rest =>
      have apart : d ≠ '_' := by
        rintro rfl
        exact absurd (others _ List.mem_cons_self) (by decide)
      simp [ungrouped, first, apart, ih (List.cons_ne_nil _ _) others]

theorem wholeDigits?_toDigits (n : Nat) :
    wholeDigits? (Nat.toDigits 10 n) = some (Nat.toDigits 10 n) := by
  rw [wholeDigits?, ungrouped_of_digits Nat.toDigits_ne_nil (isDigit_toDigits n)]
  rcases Nat.eq_zero_or_pos n with rfl | pos
  · rfl
  · simp [head?_toDigits_ne_zero pos]

structure IsNumeral (s : List Char) : Prop where
  nonempty : s ≠ []
  head : ∀ c ∈ s.head?, c.isDigit = true ∨ c = '-'
  tail : ∀ c ∈ s.tail, c.isDigit = true

theorem isNumeral_digits (n : Int) : IsNumeral (Plain.digits n) := by
  cases n with
  | ofNat n =>
    have digits := isDigit_toDigits n
    exact ⟨Nat.toDigits_ne_nil, fun c head => .inl (digits c (List.mem_of_mem_head? head)),
      fun c member => digits c (List.mem_of_mem_tail member)⟩
  | negSucc n =>
    exact ⟨List.cons_ne_nil _ _, fun c head => .inr (Option.some.inj head).symm,
      isDigit_toDigits (n + 1)⟩

namespace IsNumeral

variable {s : List Char}

theorem isScalarChar (numeral : IsNumeral s) : ∀ c ∈ s, isScalarChar c = true := by
  have of_digit (c : Char) (digit : c.isDigit = true) : Toml.isScalarChar c = true := by
    simp [Toml.isScalarChar, Char.isAlphanum, digit]
  intro c member
  cases s with
  | nil => cases member
  | cons first rest =>
    rcases List.mem_cons.mp member with rfl | later
    · rcases numeral.head c rfl with digit | rfl
      · exact of_digit c digit
      · rfl
    · exact of_digit c (numeral.tail c later)

theorem not_mem_tail (numeral : IsNumeral s) {c : Char} (other : c.isDigit = false) :
    c ∉ s.tail :=
  fun member => absurd (numeral.tail c member) (by simp [other])

theorem isMoment_eq_false (numeral : IsNumeral s) : isMoment s = false := by
  have noDate : afterDate? s = none := by
    unfold afterDate?
    split
    · exact absurd (by simp) (numeral.not_mem_tail (c := '-') (by decide))
    · rfl
  have noTime : afterTime? s = none := by
    unfold afterTime?
    split
    · exact absurd (by simp) (numeral.not_mem_tail (c := ':') (by decide))
    · rfl
  simp [isMoment, noDate, noTime]

theorem integer?_eq_decimal? (numeral : IsNumeral s) : integer? s = decimal? s := by
  have unmarked {mark : Char} (other : mark.isDigit = false) (rest : List Char) :
      s ≠ '0' :: mark :: rest := by
    rintro rfl
    exact numeral.not_mem_tail other List.mem_cons_self
  unfold integer?
  split
  · exact absurd rfl (unmarked (by decide) _)
  · exact absurd rfl (unmarked (by decide) _)
  · exact absurd rfl (unmarked (by decide) _)
  · rfl

end IsNumeral

theorem splitSign_toDigits (n : Nat) :
    splitSign (Nat.toDigits 10 n) = (false, Nat.toDigits 10 n) := by
  have digits := isDigit_toDigits n
  unfold splitSign
  split
  case h_3 => rfl
  all_goals
    rename_i rest signed
    rw [signed] at digits
    exact absurd (digits _ List.mem_cons_self) (by decide)

theorem ofList_digits (n : Int) : String.ofList (Plain.digits n) = toString n := by
  cases n with
  | ofNat n => rfl
  | negSucc n =>
    show String.ofList ('-' :: Nat.toDigits 10 (n + 1)) = Int.repr (Int.negSucc n)
    simp [Int.repr, Nat.repr]

theorem decimal?_digits {n : Int}
    (fits : -9223372036854775808 ≤ n ∧ n ≤ 9223372036854775807) :
    decimal? (Plain.digits n) = some n := by
  have fitted : fitted? n = some n := by simp [fitted?, fits]
  cases n with
  | ofNat m =>
    simpa [decimal?, Plain.digits, splitSign_toDigits, wholeDigits?_toDigits] using fitted
  | negSucc m =>
    have negative : -((m + 1 : Nat) : Int) = Int.negSucc m := rfl
    simp only [decimal?, Plain.digits, splitSign, wholeDigits?_toDigits, Option.bind_eq_bind,
      Option.bind_some, Nat.ofDigitChars_ten_toDigits, if_true, negative, fitted]

theorem ofToken?_digits {n : Int}
    (fits : -9223372036854775808 ≤ n ∧ n ≤ 9223372036854775807) :
    ofToken? (Plain.digits n) = some (.int n) := by
  have numeral := isNumeral_digits n
  have noTrue : Plain.digits n ≠ ['t', 'r', 'u', 'e'] := by
    intro same
    exact numeral.not_mem_tail (c := 'r') (by decide) (by simp [same])
  have noFalse : Plain.digits n ≠ ['f', 'a', 'l', 's', 'e'] := by
    intro same
    exact numeral.not_mem_tail (c := 'a') (by decide) (by simp [same])
  simp [ofToken?, noTrue, noFalse, numeral.isMoment_eq_false, numeral.integer?_eq_decimal?,
    decimal?_digits fits]

theorem scalar_digits {n : Int} (fits : -9223372036854775808 ≤ n ∧ n ≤ 9223372036854775807)
    (rest : List Char) :
    scalar (Plain.digits n ++ '\n' :: rest) = some (.int n, '\n' :: rest) := by
  have stops : isScalarChar '\n' = false := by decide
  obtain ⟨token, left⟩ := run_up_to (isNumeral_digits n).isScalarChar stops rest
  simp only [scalar, token, left, ofToken?_digits fits]
  rfl

def code (n : Nat) : List Char :=
  List.replicate (4 - (hexDigits n).length) '0' ++ hexDigits n

theorem codePoint?_code : ∀ n ∈ 127 :: List.range 32,
    (code n).length = 4 ∧ codePoint? (code n) = some (Char.ofNat n) := by
  decide

theorem toNat_mem_of_not_isPlain {c : Char} (hidden : isPlain c = false) :
    c.toNat ∈ 127 :: List.range 32 := by
  simp only [isPlain, Bool.or_eq_false_iff, Bool.and_eq_false_iff, decide_eq_false_iff_not,
    Char.le_def, UInt32.le_iff_toNat_le] at hidden
  have first : ' '.val.toNat = 32 := rfl
  have last : '~'.val.toNat = 126 := rfl
  have val : c.val.toNat = c.toNat := rfl
  rw [List.mem_cons, List.mem_range]
  omega

theorem basic_code {digits : List Char} {c : Char} (four : digits.length = 4)
    (stands : codePoint? digits = some c) (rest : List Char) :
    basic ('\\' :: 'u' :: (digits ++ rest)) = push c (basic rest) := by
  match digits, four with
  | [a, b, d, e], _ => simp [basic, stands]

theorem basic_plain {c : Char} (plain : isPlain c = true) (noQuote : c ≠ '"')
    (noEscape : c ≠ '\\') (rest : List Char) : basic (c :: rest) = push c (basic rest) := by
  rw [basic.eq_def]
  split
  all_goals simp_all

theorem basic_escaped (c : Char) (rest : List Char) :
    basic (escaped c ++ rest) = push c (basic rest) := by
  unfold escaped
  split
  case h_8 noQuote noEscape =>
    split
    case isTrue plain => exact basic_plain plain noQuote noEscape rest
    case isFalse hidden =>
      -- only control characters are hidden, so four digits are enough
      obtain ⟨four, stands⟩ :=
        codePoint?_code c.toNat (toNat_mem_of_not_isPlain (Bool.eq_false_iff.mpr hidden))
      rw [Char.ofNat_toNat] at stands
      rw [← basic_code four stands rest]
      simp [code]
  all_goals rfl

theorem basic_flatMap_escaped (s rest : List Char) :
    basic (s.flatMap escaped ++ '"' :: rest) = some (s, rest) := by
  induction s with
  | nil => rfl
  | cons c s ih =>
    rw [List.flatMap_cons, List.append_assoc, basic_escaped, ih]
    rfl

/-- Characters that need no escape: no ASCII control characters, double quotes or backslashes. -/
def IsVerbatim (s : List Char) : Prop := ∀ c ∈ s, ' ' ≤ c ∧ c ≠ '\x7f' ∧ c ≠ '"' ∧ c ≠ '\\'

instance (s : List Char) : Decidable (IsVerbatim s) :=
  decidable_of_iff (s.all fun c => ' ' ≤ c && c != '\x7f' && c != '"' && c != '\\')
    (by simp [IsVerbatim, and_assoc])

theorem escaped_eq_self {c : Char} (low : ' ' ≤ c) (noDelete : c ≠ '\x7f') (noQuote : c ≠ '"')
    (noEscape : c ≠ '\\') : escaped c = [c] := by
  have plain : isPlain c = true := by
    by_contra hidden
    have listed := toNat_mem_of_not_isPlain (Bool.eq_false_iff.mpr hidden)
    have above : 32 ≤ c.toNat := UInt32.le_iff_toNat_le.mp low
    have last : c.toNat = 127 := by
      rw [List.mem_cons, List.mem_range] at listed
      omega
    exact noDelete (by rw [← Char.ofNat_toNat c, last])
  unfold escaped
  split
  case h_6 => exact absurd rfl noQuote
  case h_7 => exact absurd rfl noEscape
  case h_8 => exact if_pos plain
  all_goals exact absurd low (by decide)

theorem quoted_of_isVerbatim {s : List Char} (verbatim : IsVerbatim s) :
    quoted s = '"' :: s ++ ['"'] := by
  have same : s.flatMap escaped = s := by
    induction s with
    | nil => rfl
    | cons c s ih =>
      obtain ⟨⟨low, noDelete, noQuote, noEscape⟩, others⟩ := List.forall_mem_cons.mp verbatim
      rw [List.flatMap_cons, escaped_eq_self low noDelete noQuote noEscape, ih others]
      rfl
  rw [quoted, same]

theorem lineString_quoted (s rest : List Char) :
    lineString (quoted s ++ rest) = some (String.ofList s, rest) := by
  have reads := basic_flatMap_escaped s rest
  simp [quoted, lineString, reads]

theorem escaped_eq_cons (c : Char) : ∃ d ds, escaped c = d :: ds ∧ d ≠ '"' := by
  unfold escaped
  split
  case h_8 noQuote _ =>
    split
    · exact ⟨_, _, rfl, noQuote⟩
    · exact ⟨_, _, rfl, by decide⟩
  all_goals exact ⟨_, _, rfl, by decide⟩

theorem string_quoted (s rest : List Char) :
    string (quoted s ++ '\n' :: rest) = some (String.ofList s, '\n' :: rest) := by
  -- written quotes are never three in a row, so this is no string of several lines
  have oneLine (after : List Char) : quoted s ++ '\n' :: rest ≠ '"' :: '"' :: '"' :: after := by
    cases s with
    | nil => simp [quoted]
    | cons c s =>
      obtain ⟨d, ds, written, other⟩ := escaped_eq_cons c
      simp [quoted, written, other]
  have double (after : List Char) : quoted s ++ '\n' :: rest ≠ '\'' :: '\'' :: '\'' :: after := by
    simp [quoted]
  unfold string
  split
  · exact absurd ‹_› (oneLine _)
  · exact absurd ‹_› (double _)
  · exact lineString_quoted s ('\n' :: rest)

namespace Plain

def Fits : Plain → Prop
  | int n => -9223372036854775808 ≤ n ∧ n ≤ 9223372036854775807
  | string _ => True

@[simp] theorem fits_u16 (n : UInt16) : (int n.toNat).Fits := by
  have bound := n.toNat_lt
  simp only [Fits]
  omega

@[simp] theorem fits_u32 (n : UInt32) : (int n.toNat).Fits := by
  have bound := n.toNat_lt
  simp only [Fits]
  omega

@[simp] theorem fits_i32 (n : Int32) : (int n.toInt).Fits := by
  have low := n.le_toInt
  have high := n.toInt_lt
  simp only [Fits]
  omega

theorem chars_eq_cons (p : Plain) :
    ∃ c cs, p.chars = c :: cs ∧ (c.isDigit = true ∨ c = '-' ∨ c = '"') := by
  cases p with
  | int n =>
    have numeral := isNumeral_digits n
    obtain ⟨c, cs, eq⟩ := List.exists_cons_of_ne_nil numeral.nonempty
    have head := numeral.head c (by rw [eq]; rfl)
    exact ⟨c, cs, eq, head.imp_right Or.inl⟩
  | string s => exact ⟨'"', _, rfl, .inr (.inr rfl)⟩

end Plain

theorem skipBlanks_chars (p : Plain) (rest : List Char) :
    skipBlanks (p.chars ++ rest) = p.chars ++ rest := by
  obtain ⟨c, cs, eq, start⟩ := p.chars_eq_cons
  rw [eq]
  have noBlank : c ≠ ' ' ∧ c ≠ '\t' := by
    constructor <;> rintro rfl <;> exact absurd start (by decide)
  simp [skipBlanks, noBlank]

theorem ofList_entryChars (name : String) (p : Plain) :
    String.ofList (entryChars (name, p)) = name ++ " = " ++ String.ofList p.chars ++ "\n" := by
  apply String.toList_inj.mp
  simp [entryChars]

theorem value_eq_unbracketed {c : Char} (noSeq : c ≠ '[') (noTable : c ≠ '\x7b') (room : Nat)
    (rest : List Char) : value room (c :: rest) = unbracketed (c :: rest) := by
  cases room <;> simp [value, noSeq, noTable]

theorem unbracketed_chars {p : Plain} (fits : p.Fits) (rest : List Char) :
    unbracketed (p.chars ++ '\n' :: rest) = some (p.toValue, '\n' :: rest) := by
  cases p with
  | int n =>
    obtain ⟨c, cs, eq⟩ := List.exists_cons_of_ne_nil (isNumeral_digits n).nonempty
    have start := (isNumeral_digits n).head c (by rw [eq]; rfl)
    have noQuote : c ≠ '"' ∧ c ≠ '\'' := by
      constructor <;> rintro rfl <;> exact absurd start (by decide)
    have reads := scalar_digits fits rest
    rw [eq] at reads
    simpa [Plain.chars, Plain.toValue, unbracketed, eq, noQuote] using reads
  | string s =>
    have reads := string_quoted s.toList rest
    rw [String.ofList_toList] at reads
    simpa [Plain.chars, Plain.toValue, unbracketed, quoted] using reads

theorem value_chars {p : Plain} (fits : p.Fits) (room : Nat) (rest : List Char) :
    value room (p.chars ++ '\n' :: rest) = some (p.toValue, '\n' :: rest) := by
  rw [← unbracketed_chars fits rest]
  obtain ⟨c, cs, eq, start⟩ := p.chars_eq_cons
  rw [eq]
  apply value_eq_unbracketed
  all_goals
    rintro rfl
    exact absurd start (by decide)

end InputReplay.Toml
