/-! The shortest decimal that reads back as a given binary number. All reals nearer to the number
than to its neighbours read back as it. Decimals of one digit are tried first, then of two, and so
on; of two that fit, the nearer is taken. How the digits are laid out is a matter of style. -/

namespace InputReplay.Decimal

/-- A positive number `mantissa * 2 ^ exponent`. It is `narrow` when the neighbour below is half as
far away as the one above. -/
structure Binary where
  mantissa : Nat
  exponent : Int
  narrow : Bool

/-- The number `digits * 10 ^ exponent`. -/
structure Numeral where
  digits : Nat
  exponent : Int
  deriving DecidableEq

inductive Tie
  | even
  | up

namespace Binary

/-- Where the decimal point stands: the number is below `10 ^ point` and not below a tenth of it.
Scaled by `10 ^ 400` every number of 64 bits is at least one. -/
def point (b : Binary) : Int :=
  let scaled := (b.mantissa * Nat.pow 10 400) <<< b.exponent.toNat >>> (-b.exponent).toNat
  (Nat.toDigits 10 scaled).length - 400

/-- The decimal with unit `10 ^ unit` that is taken for the number, if one reads back as it. The
bounds are in quarters of the binary unit; they belong to the interval if the mantissa is even. -/
def onGrid? (b : Binary) (tie : Tie) (unit : Int) : Option Numeral :=
  let step := Nat.pow 10 unit.toNat <<< (2 - b.exponent).toNat
  let quarter := Nat.pow 10 (-unit).toNat <<< (b.exponent - 2).toNat
  let lower := (4 * b.mantissa - if b.narrow then 1 else 2) * quarter
  let upper := (4 * b.mantissa + 2) * quarter
  let value := 4 * b.mantissa * quarter
  let fits (n : Nat) : Bool :=
    if b.mantissa % 2 = 0 then lower ≤ n * step && n * step ≤ upper
    else lower < n * step && n * step < upper
  let below := value / step
  let above := below + 1
  let takeAbove : Bool :=
    fits above &&
      (!fits below || above * step - value < value - below * step ||
        above * step - value == value - below * step &&
          match tie with
          | .even => above % 2 == 0
          | .up => true)
  if takeAbove then some ⟨above, unit⟩ else if fits below then some ⟨below, unit⟩ else none

/-- Seventeen digits always suffice for numbers of 64 bits. -/
def shortest (b : Binary) (tie : Tie) : Numeral :=
  ((List.range 17).findSome? fun (n : Nat) => b.onGrid? tie (b.point - (n + 1))).getD ⟨0, 0⟩

end Binary

inductive Parts
  | nan
  | infinity (negative : Bool)
  | zero (negative : Bool)
  | finite (negative : Bool) (magnitude : Binary)

def Parts.ofFloat (x : Float) : Parts :=
  let bits := x.toBits.toNat
  let negative := bits >>> 63 == 1
  let exponent : Nat := (bits >>> 52) % 2048
  let fraction := bits % (1 <<< 52)
  if exponent = 2047 then
    if fraction = 0 then infinity negative else nan
  else if exponent = 0 then
    if fraction = 0 then zero negative else finite negative ⟨fraction, -1074, false⟩
  else
    finite negative ⟨(1 <<< 52) + fraction, (exponent : Int) - 1075, fraction == 0 && exponent != 1⟩

/-- A style writes a number positionally when its point stands where `positional` admits, and
otherwise with an exponent. Positional numbers always show the point. -/
structure Style where
  positional : Int → Bool
  tie : Tie

def positionalText (digits : List Char) (point : Int) : List Char :=
  if point ≤ 0 then '0' :: '.' :: (List.replicate (-point).toNat '0' ++ digits)
  else if digits.length ≤ point.toNat then
    digits ++ List.replicate (point.toNat - digits.length) '0' ++ ['.', '0']
  else digits.take point.toNat ++ '.' :: digits.drop point.toNat

/-- One digit before the point, and the exponent behind an `e`, always with its sign. -/
def exponentText (digits : List Char) (point : Int) : List Char :=
  let exponent := point - 1
  let sign := if exponent < 0 then '-' else '+'
  let mark := 'e' :: sign :: Nat.toDigits 10 exponent.natAbs
  match digits with
  | first :: second :: rest => first :: '.' :: second :: rest ++ mark
  | _ => digits ++ mark

namespace Style

def numeralText (s : Style) (d : Numeral) : List Char :=
  let written := Nat.toDigits 10 d.digits
  let point := written.length + d.exponent
  let digits := (written.reverse.dropWhile (· == '0')).reverse
  if s.positional point then positionalText digits point else exponentText digits point

def text (s : Style) (x : Float) : String :=
  let sign (negative : Bool) : String := if negative then "-" else ""
  match Parts.ofFloat x with
  | .nan => "NaN"
  | .infinity negative => sign negative ++ "inf"
  | .zero negative => sign negative ++ "0.0"
  | .finite negative magnitude =>
    sign negative ++ String.ofList (s.numeralText (magnitude.shortest s.tie))

end Style

end InputReplay.Decimal
