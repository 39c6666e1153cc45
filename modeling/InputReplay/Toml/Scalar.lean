import InputReplay.Text.Basic
import InputReplay.Value.Basic

/-! Values of TOML documents that stand without quotes or brackets: truth values, numbers, dates and
times. Such a value is the longest run of characters that can be part of one. -/

namespace InputReplay.Toml
open Text

def twoDigits? (a b : Char) : Option Nat :=
  if a.isDigit && b.isDigit then some (Nat.ofDigitChars 10 [a, b] 0) else none

def isLeap (year : Nat) : Bool :=
  year % 4 == 0 && (year % 100 != 0 || year % 400 == 0)

def daysIn (year month : Nat) : Nat :=
  if month = 2 then if isLeap year then 29 else 28
  else if month = 4 || month = 6 || month = 9 || month = 11 then 30
  else 31

def afterDate? : List Char → Option (List Char)
  | a :: b :: c :: d :: '-' :: e :: f :: '-' :: g :: h :: rest => do
    let century ← twoDigits? a b
    let year ← twoDigits? c d
    let month ← twoDigits? e f
    let day ← twoDigits? g h
    if 1 ≤ month && month ≤ 12 && 1 ≤ day && day ≤ daysIn (100 * century + year) month
    then some rest else none
  | _ => none

def afterTime? : List Char → Option (List Char)
  | a :: b :: ':' :: c :: d :: ':' :: e :: f :: rest => do
    let hour ← twoDigits? a b
    let minute ← twoDigits? c d
    let second ← twoDigits? e f
    if hour ≤ 23 && minute ≤ 59 && second ≤ 60 then
      match rest with
      | '.' :: places =>
        if (places.takeWhile Char.isDigit).isEmpty then none
        else some (places.dropWhile Char.isDigit)
      | rest => some rest
    else none
  | _ => none

/-- Whether a text is empty or the distance of a clock from universal time. -/
def isOffset : List Char → Bool
  | [] => true
  | ['Z'] | ['z'] => true
  | [sign, a, b, ':', c, d] =>
    (sign == '+' || sign == '-') &&
      match twoDigits? a b, twoDigits? c d with
      | some hour, some minute => hour ≤ 23 && minute ≤ 59
      | _, _ => false
  | _ => false

def isClock (s : List Char) : Bool :=
  match afterTime? s with
  | some rest => isOffset rest
  | none => false

/-- Whether a text is a date, a time of day, or a date with a time behind a `T`. -/
def isMoment (s : List Char) : Bool :=
  match afterDate? s with
  | some [] => true
  | some (mark :: clock) => (mark == 'T' || mark == 't') && isClock clock
  | none => afterTime? s == some []

def isScalarChar (c : Char) : Bool :=
  c.isAlphanum || c == '_' || c == '+' || c == '-' || c == '.' || c == ':'

/-- Digits without the underscores between them. Every underscore stands between two digits. -/
def ungrouped (digit : Char → Bool) : List Char → Option (List Char)
  | [] => none
  | [c] => if digit c then some [c] else none
  | c :: '_' :: rest => if digit c then (ungrouped digit rest).map (c :: ·) else none
  | c :: rest => if digit c then (ungrouped digit rest).map (c :: ·) else none

def splitSign : List Char → Bool × List Char
  | '+' :: rest => (false, rest)
  | '-' :: rest => (true, rest)
  | s => (false, s)

/-- Decimal digits of a whole number; only 0 begins with 0. -/
def wholeDigits? (s : List Char) : Option (List Char) := do
  let digits ← ungrouped Char.isDigit s
  if digits.head? == some '0' && digits.length != 1 then none else some digits

/-- An integer, if it fits 64 bits with a sign. -/
def fitted? (n : Int) : Option Int :=
  if -9223372036854775808 ≤ n && n ≤ 9223372036854775807 then some n else none

def decimal? (s : List Char) : Option Int := do
  let (negative, s) := splitSign s
  let n := Nat.ofDigitChars 10 (← wholeDigits? s) 0
  fitted? (if negative then -n else n)

def isDigitOf (base : Nat) (c : Char) : Bool :=
  match hexValue? c with
  | some n => n < base
  | none => false

/-- A number in another base, which takes no sign. -/
def based? (base : Nat) (s : List Char) : Option Int := do
  let digits ← ungrouped (isDigitOf base) s
  fitted? (digits.foldl (fun n c => base * n + (hexValue? c).getD 0) 0)

def integer? : List Char → Option Int
  | '0' :: 'x' :: rest => based? 16 rest
  | '0' :: 'o' :: rest => based? 8 rest
  | '0' :: 'b' :: rest => based? 2 rest
  | s => decimal? s

/-- The floating-point number nearest to `digits * 10 ^ exponent`. Beyond 400 places from the point
it is infinite or zero. -/
def nearest (digits : List Char) (exponent : Int) : Float :=
  let n := Nat.ofDigitChars 10 digits 0
  let places := (Nat.toDigits 10 n).length + exponent
  if n = 0 || places < -400 then 0.0
  else if 400 < places then Float.ofScientific 1 false 400
  else Float.ofScientific n (exponent < 0) exponent.natAbs

def exponent? : List Char → Option Int
  | [] => some 0
  | c :: rest =>
    if c == 'e' || c == 'E' then do
      let (negative, s) := splitSign rest
      let n := Nat.ofDigitChars 10 (← ungrouped Char.isDigit s) 0
      return if negative then -n else n
    else none

def fractional? (s : List Char) : Option Float := do
  let isWhole (c : Char) : Bool := c.isDigit || c == '_'
  let whole ← wholeDigits? (s.takeWhile isWhole)
  match s.dropWhile isWhole with
  | '.' :: rest =>
    let places ← ungrouped Char.isDigit (rest.takeWhile isWhole)
    let exponent ← exponent? (rest.dropWhile isWhole)
    return nearest (whole ++ places) (exponent - places.length)
  | rest =>
    if rest.isEmpty then none else return nearest whole (← exponent? rest)

/-- Positive numbers beyond the range are refused, negative ones become the infinity. -/
def float? (s : List Char) : Option Float :=
  let signed (negative : Bool) (x : Float) : Float := if negative then -x else x
  match splitSign s with
  | (negative, ['i', 'n', 'f']) => some (signed negative (1.0 / 0.0))
  | (negative, ['n', 'a', 'n']) => some (signed negative (0.0 / 0.0))
  | (negative, rest) => do
    let x ← fractional? rest
    if x.isInf && !negative then none else some (signed negative x)

/-- The value that a run of scalar characters stands for. -/
def ofToken? (s : List Char) : Option Value :=
  if s = ['t', 'r', 'u', 'e'] then some (.bool true)
  else if s = ['f', 'a', 'l', 's', 'e'] then some (.bool false)
  else if isMoment s then some .moment
  else
    match integer? s with
    | some n => some (.int n)
    | none => (float? s).map .float

end InputReplay.Toml
