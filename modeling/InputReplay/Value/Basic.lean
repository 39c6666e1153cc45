import InputReplay.Decimal
import InputReplay.Text.Quoted

/-! Trees of plain values, as JSON texts and TOML documents hold them, and why typed data cannot be
read out of them, in words. Of several entries with one name in a map, the first is its value. -/

namespace InputReplay

inductive Value
  | null
  | bool (b : Bool)
  | int (n : Int)
  | float (x : Float)
  | string (s : String)
  | seq (items : List Value)
  | map (entries : List (String × Value))
  /-- A date or a time. It is not looked into: readers of records see a map without known names. -/
  | moment
  deriving Inhabited

namespace Value

def get? (name : String) : Value → Option Value
  | map entries => entries.lookup name
  | _ => none

/-- An absent number is null. -/
def optional : Option Int → Value
  | some n => int n
  | none => null

end Value

inductive Width
  | u16
  | u32
  | i32
  deriving DecidableEq

namespace Width

def name : Width → String
  | u16 => "u16"
  | u32 => "u32"
  | i32 => "i32"

def lower : Width → Int
  | u16 | u32 => 0
  | i32 => -2147483648

def upper : Width → Int
  | u16 => 65535
  | u32 => 4294967295
  | i32 => 2147483647

def admits (w : Width) (n : Int) : Bool :=
  w.lower ≤ n && n ≤ w.upper

end Width

/-- What a reader wanted. -/
inductive Expected
  | word (width : Width)
  | string
  | sequence
  | record (name : String) (fields : Nat)
  | fewer
  | choice
  | unit
  | payload
  | labelledPayload
  deriving DecidableEq

namespace Expected

/-- The thing wanted, where a value of another type was found. -/
def name : Expected → String
  | word width => width.name
  | string => "a string"
  | sequence => "a sequence"
  | record name _ => "struct " ++ name
  | fewer => "fewer elements in array"
  | choice => "string or map"
  | unit => "unit"
  | payload => "newtype variant"
  | labelledPayload => "struct variant"

/-- The thing wanted, where a sequence of another length was found. -/
def sized : Expected → String
  | record name fields =>
    "struct " ++ name ++ " with " ++ toString fields ++
      if fields = 1 then " element" else " elements"
  | other => other.name

end Expected

inductive DecodeError
  | wrongType (found : Value) (expected : Expected)
  /-- The bare name of an alternative that carries data. -/
  | bareName (expected : Expected)
  | outOfRange (n : Int) (width : Width)
  | missing (field : String)
  | badLength (length : Nat) (expected : Expected)
  | unknownName (name : String) (known : List String)
  | notOneEntry

/-- How a kind of text is read: whether sequences longer than a record are let pass, and how
messages write floating-point numbers. -/
structure Format where
  surplus : Bool
  float : Decimal.Style

namespace Format

/-- JSON values. Numbers from `0.00001` to below `1e16` are written positionally, and a tie goes to
the even neighbour. -/
def json : Format := ⟨false, ⟨fun point => -5 < point && point ≤ 16, .even⟩⟩

/-- TOML documents. Numbers are always written positionally, and a tie goes up. -/
def toml : Format := ⟨true, ⟨fun _ => true, .up⟩⟩

def describe (f : Format) : Value → String
  | .null => "null"
  | .bool b => "boolean " ++ Text.ticked (toString b)
  | .int n => "integer " ++ Text.ticked (toString n)
  | .float x => "floating point " ++ Text.ticked (f.float.text x)
  | .string s => "string " ++ Text.quote s
  | .seq _ => "sequence"
  | .map _ | .moment => "map"

end Format

namespace DecodeError

def alternatives (known : List String) : String :=
  match known.map Text.ticked with
  | [] => "there are no variants"
  | [a] => "expected " ++ a
  | [a, b] => "expected " ++ a ++ " or " ++ b
  | names => "expected one of " ++ ", ".intercalate names

def message (f : Format) : DecodeError → String
  | wrongType found expected =>
    "invalid type: " ++ f.describe found ++ ", expected " ++ expected.name
  | bareName expected => "invalid type: unit variant, expected " ++ expected.name
  | outOfRange n width =>
    "invalid value: integer " ++ Text.ticked (toString n) ++ ", expected " ++ width.name
  | missing field => "missing field " ++ Text.ticked field
  | badLength length expected =>
    "invalid length " ++ toString length ++ ", expected " ++ expected.sized
  | unknownName name known =>
    "unknown variant " ++ Text.ticked name ++ ", " ++ alternatives known
  | notOneEntry => "invalid value: map, expected map with a single key"

end DecodeError

end InputReplay
