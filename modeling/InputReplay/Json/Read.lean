import InputReplay.Text.Basic
import InputReplay.Value.Basic

/-! Reading JSON text. Objects are put in ascending order of their names, and of several members
with one name the last counts. A number is an integer if it is written as one, is not `-0`, and
fits 64 bits, signed or unsigned; any other number is a floating-point number. -/

namespace InputReplay.Json
open Text

def isSpace (c : Char) : Bool :=
  c == ' ' || c == '\t' || c == '\n' || c == '\r'

/-- What follows leading white space. -/
def skip (s : List Char) : List Char := s.dropWhile isSpace

def escape? : Char → Option Nat
  | '"' => some 34
  | '\\' => some 92
  | '/' => some 47
  | 'b' => some 8
  | 'f' => some 12
  | 'n' => some 10
  | 'r' => some 13
  | 't' => some 9
  | _ => none

/-- The code points and 16-bit units of a string up to its closing quote. -/
def units : Reader (List Nat)
  | '"' :: rest => some ([], rest)
  | '\\' :: 'u' :: a :: b :: c :: d :: rest => do
    let u ← ofHexDigits? [a, b, c, d]
    let (us, rest) ← units rest
    return (u :: us, rest)
  | '\\' :: c :: rest => do
    let u ← escape? c
    let (us, rest) ← units rest
    return (u :: us, rest)
  | c :: rest => do
    if c.toNat < 32 then none
    let (us, rest) ← units rest
    return (c.toNat :: us, rest)
  | [] => none

def isHigh (u : Nat) : Bool := 0xD800 ≤ u && u < 0xDC00
def isLow (u : Nat) : Bool := 0xDC00 ≤ u && u < 0xE000

/-- Characters of units: a high and a low half together are one character, and no half stands
alone. -/
def chars : List Nat → Option (List Char)
  | [] => some []
  | u :: us =>
    if isHigh u then
      match us with
      | v :: us =>
        if isLow v then
          (chars us).map (Char.ofNat (0x10000 + (u - 0xD800) * 0x400 + (v - 0xDC00)) :: ·)
        else none
      | [] => none
    else if isLow u then none
    else (chars us).map (Char.ofNat u :: ·)

def string : Reader String := fun s => do
  let (us, rest) ← units s
  return (String.ofList (← chars us), rest)

/-- Digits added to a number as long as it fits 64 bits, and the digits left over. -/
def absorb (n : Nat) : List Char → Nat × List Char
  | [] => (n, [])
  | c :: digits =>
    let next := n * 10 + (c.toNat - 48)
    if next < UInt64.size then absorb next digits else (n, c :: digits)

/-- `x * 10 ^ exponent`, the power taken from a table that ends at 308. Too large a result is
refused. -/
def scaled (x : Float) : Nat → Int → Option Float
  | 0, _ => some x
  | fuel + 1, exponent =>
    if exponent.natAbs ≤ 308 then
      let power := Float.ofScientific 1 false exponent.natAbs
      let y := if 0 ≤ exponent then x * power else x / power
      if y.isInf then none else some y
    else if x == 0.0 then some x
    else if 0 ≤ exponent then none
    else scaled (x / Float.ofScientific 1 false 308) fuel (exponent + 308)

def float (negative : Bool) (whole fraction : List Char) (exponent : Int) : Option Float := do
  let (n, left) := absorb 0 whole
  let (n, cut) := absorb n fraction
  let shift : Int := left.length - (fraction.length - cut.length) + exponent
  let x ← scaled n.toUInt64.toFloat (shift.natAbs / 308 + 1) shift
  return if negative then -x else x

def integer (negative : Bool) (digits : List Char) : Option Value :=
  let n := Nat.ofDigitChars 10 digits 0
  if negative then
    if 0 < n ∧ n ≤ UInt64.size / 2 then some (.int (-n)) else (float true digits [] 0).map .float
  else
    if n < UInt64.size then some (.int n) else (float false digits [] 0).map .float

def exponent? : List Char → Option Int
  | '+' :: digits => (natural? digits).map fun n => n
  | '-' :: digits => (natural? digits).map fun n => -n
  | digits => (natural? digits).map fun n => n

/-- A number without its sign. No digit follows a leading zero. -/
def magnitude (negative : Bool) (s : List Char) : Option Value := do
  let whole := s.takeWhile Char.isDigit
  let rest := s.dropWhile Char.isDigit
  if whole.isEmpty || (whole.head? == some '0' && whole.length != 1) then none
  let (fraction, rest) ← match rest with
    | '.' :: rest =>
      let fraction := rest.takeWhile Char.isDigit
      if fraction.isEmpty then none else some (some fraction, rest.dropWhile Char.isDigit)
    | rest => some (none, rest)
  let exponent ← match rest with
    | [] => some none
    | c :: rest => if c == 'e' || c == 'E' then (exponent? rest).map some else none
  match fraction, exponent with
  | none, none => integer negative whole
  | fraction, exponent =>
    return .float (← float negative whole (fraction.getD []) (exponent.getD 0))

def number (s : List Char) : Option Value :=
  match s with
  | '-' :: rest => magnitude true rest
  | _ => magnitude false s

def isBare (c : Char) : Bool :=
  c.isAlphanum || c == '+' || c == '-' || c == '.'

def bare : List Char → Option Value
  | ['n', 'u', 'l', 'l'] => some .null
  | ['t', 'r', 'u', 'e'] => some (.bool true)
  | ['f', 'a', 'l', 's', 'e'] => some (.bool false)
  | s => number s

/-- Entries with one more, in ascending order of names. An entry of the same name is replaced. -/
def insert (name : String) (v : Value) : List (String × Value) → List (String × Value)
  | [] => [(name, v)]
  | (other, w) :: entries =>
    if name < other then (name, v) :: (other, w) :: entries
    else if name = other then (name, v) :: entries
    else (other, w) :: insert name v entries

/-- The map of an object's members, as written. -/
def object (members : List (String × Value)) : Value :=
  .map (members.foldl (fun entries m => insert m.1 m.2 entries) [])

def member (value : Reader Value) : Reader (String × Value) := fun s =>
  match skip s with
  | '"' :: rest => do
    let (name, rest) ← string rest
    match skip rest with
    | ':' :: rest => do
      let (v, rest) ← value rest
      return ((name, v), rest)
    | _ => none
  | _ => none

/-- A value with brackets nested less deep than `depth`. -/
def value : Nat → Reader Value
  | 0, _ => none
  | depth + 1, s =>
    match skip s with
    | '"' :: rest => (string rest).map fun r => (.string r.1, r.2)
    | '[' :: rest =>
      (Reader.enclosed ⟨skip, ']', false⟩ (value depth) rest).map fun r => (.seq r.1, r.2)
    | '\x7b' :: rest =>
      (Reader.enclosed ⟨skip, '\x7d', false⟩ (member (value depth)) rest).map
        fun r => (object r.1, r.2)
    | s => (bare (s.takeWhile isBare)).map fun v => (v, s.dropWhile isBare)

def read (text : String) : Option Value :=
  let s := text.toList
  match value (s.length + 1) s with
  | some (v, rest) => if (skip rest).isEmpty then some v else none
  | none => none

end InputReplay.Json
