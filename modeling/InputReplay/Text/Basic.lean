/-! Texts: structured values on one line, as `Name { field: value, .. }`, `Name(value)` and
`Some(value)`; numbers in hexadecimal and decimal digits; places counted in bytes of the UTF-8 form;
and readers, which take a value off the front of the characters and give the rest, or fail. -/

namespace InputReplay.Text

/-- A named group of labelled parts, in the order given. -/
def group (name : String) (parts : List (String × String)) : String :=
  name ++ " \x7b " ++ ", ".intercalate (parts.map fun p => p.1 ++ ": " ++ p.2) ++ " \x7d"

def applied (name part : String) : String :=
  name ++ "(" ++ part ++ ")"

def optional : Option String → String
  | none => "None"
  | some text => applied "Some" text

/-- Upper-case hexadecimal digits of `n`, most significant first. -/
def hexDigits (n : Nat) : List Char :=
  (Nat.toDigits 16 n).map Char.toUpper

def hex (n : Nat) : String :=
  "0x" ++ String.ofList (hexDigits n)

/-- As `hex`, with leading zeros up to `width` digits. -/
def hexPadded (width n : Nat) : String :=
  let digits := hexDigits n
  "0x" ++ String.ofList (List.replicate (width - digits.length) '0' ++ digits)

def hexValue? (c : Char) : Option Nat :=
  if '0' ≤ c && c ≤ '9' then some (c.toNat - 48)
  else if 'a' ≤ c && c ≤ 'f' then some (c.toNat - 87)
  else if 'A' ≤ c && c ≤ 'F' then some (c.toNat - 55)
  else none

def ofHexDigits? (digits : List Char) : Option Nat :=
  digits.foldlM (fun n c => (hexValue? c).map (16 * n + ·)) 0

def codePoint? (digits : List Char) : Option Char := do
  let n ← ofHexDigits? digits
  if n.isValidChar then some (Char.ofNat n) else none

/-- The number that a text of digits alone stands for. -/
def natural? (s : List Char) : Option Nat :=
  if !s.isEmpty && s.all Char.isDigit then some (Nat.ofDigitChars 10 s 0) else none

/-- What follows the first `n` bytes. A character that they cut goes with them. -/
def dropBytes : Nat → List Char → List Char
  | _, [] => []
  | n, c :: rest => if n = 0 then c :: rest else dropBytes (n - c.utf8Size) rest

/-- The first `n` bytes. A character that they cut stays whole. -/
def takeBytes : Nat → List Char → List Char
  | _, [] => []
  | n, c :: rest => if n = 0 then [] else c :: takeBytes (n - c.utf8Size) rest

abbrev Reader (α : Type) := List Char → Option (α × List Char)

/-- How items stand in brackets: what may be skipped around them, and whether a comma may follow
the last one. -/
structure Bracket where
  skip : List Char → List Char
  close : Char
  trailing : Bool

namespace Reader

variable {α : Type}

/-- Items divided by commas, up to the closing bracket. At most `bound` items are read. -/
def items (b : Bracket) (item : Reader α) : Nat → Reader (List α)
  | 0, _ => none
  | bound + 1, s =>
    match item (b.skip s) with
    | none => none
    | some (a, rest) =>
      match b.skip rest with
      | ',' :: rest =>
        if b.trailing && (b.skip rest).head? == some b.close then some ([a], (b.skip rest).tail)
        else (items b item bound rest).map fun r => (a :: r.1, r.2)
      | c :: rest => if c = b.close then some ([a], rest) else none
      | [] => none

/-- The rest of a list whose opening bracket has been read. -/
def enclosed (b : Bracket) (item : Reader α) : Reader (List α) := fun s =>
  if (b.skip s).head? == some b.close then some ([], (b.skip s).tail)
  else items b item s.length s

end Reader

end InputReplay.Text
