import InputReplay.Pattern.Fault
import InputReplay.Text.Classes
import InputReplay.Text.Basic
import InputReplay.Text.Quoted

/-! Log filters: directives divided by commas. A directive is a level, a target, or a target and a
level with an equals sign between them; a target may name a span in square brackets, and the span
matches on its fields in braces. Only whether a filter can be used is decided here. -/

namespace InputReplay

namespace FieldMatch
open Text

def unsigned : List Char → List Char
  | '+' :: rest | '-' :: rest => rest
  | s => s

def isExponent : List Char → Bool
  | [] => true
  | c :: rest => c.toLower == 'e' && (natural? (unsigned rest)).isSome

/-- Whether a text is a floating-point number, infinite or none, in any case. A point needs a digit
on one side at least. -/
def isNumber (s : List Char) : Bool :=
  let s := unsigned s
  let rest := s.dropWhile Char.isDigit
  let places := if rest.head? == some '.' then rest.tail.takeWhile Char.isDigit else []
  let exponent := if rest.head? == some '.' then rest.tail.dropWhile Char.isDigit else rest
  ["inf", "infinity", "nan"].contains (String.ofList (s.map Char.toLower)) ||
    (!(s.takeWhile Char.isDigit ++ places).isEmpty && isExponent exponent)

/-- The value up to a second equals sign, if there is one. What stands after that is not read. -/
def value? (field : List Char) : Option (List Char) :=
  match field.dropWhile (· != '=') with
  | [] => none
  | _ :: rest => some (rest.takeWhile (· != '='))

def fault? (field : List Char) : Option PatternError :=
  (value? field).bind fun value => if isNumber value then none else Pattern.fault? value

end FieldMatch

inductive FilterError
  | directive
  | field (cause : PatternError)
  | level
  deriving DecidableEq

def FilterError.message : FilterError → String
  | directive => "invalid filter directive"
  | field cause => "invalid field filter: " ++ cause.message
  | level =>
    "error parsing level filter: expected one of \"off\", \"error\", \"warn\", \"info\", " ++
      "\"debug\", \"trace\", or a number 0-5"

namespace Filter

def levelNames : List String := ["off", "error", "warn", "info", "debug", "trace"]

/-- Whether a text is a level: a name in any case, a number from 0 to 5, or nothing. -/
def isLevel (s : List Char) : Bool :=
  let unsigned := if s.head? == some '+' then s.tail else s
  s.isEmpty || levelNames.contains (String.ofList (s.map Char.toLower)) ||
    (Text.natural? unsigned).any (· ≤ 5)

/-- The part of a directive that a reader is in. A match on a field starts at a byte. -/
inductive Place
  | start
  | target
  | span
  | field (first : Nat)
  | fields
  | afterSpan

/-- What is wrong with the rest of a directive, from byte `n` on. The directive is gone through
without the white space around it, but levels and matches on fields are read at the same bytes of
the text as it is `written`. So behind leading white space no level is recognised. -/
def faultFrom (written : List Char) : Place → Nat → List Char → Option FilterError
  | .start, n, '[' :: rest => faultFrom written .span (n + 1) rest
  | .start, n, c :: rest =>
    if c == '-' || c == ':' || c == '_' || Text.isAlphanumeric c then
      faultFrom written .target (n + c.utf8Size) rest
    else some .directive
  | .target, _, [] | .afterSpan, _, [] => none
  | .target, n, '=' :: _ | .afterSpan, n, '=' :: _ =>
    if isLevel (Text.dropBytes (n + 1) written) then none else some .level
  | .target, n, '[' :: rest => faultFrom written .span (n + 1) rest
  | .target, n, c :: rest => faultFrom written .target (n + c.utf8Size) rest
  | .span, n, ']' :: rest => faultFrom written .afterSpan (n + 1) rest
  | .span, n, '\x7b' :: rest => faultFrom written (.field (n + 1)) (n + 1) rest
  | .span, n, c :: rest => faultFrom written .span (n + c.utf8Size) rest
  | .field first, n, '\x7d' :: rest =>
    if n = first then some .directive
    else
      match FieldMatch.fault? (Text.takeBytes (n - first) (Text.dropBytes first written)) with
      | some cause => some (.field cause)
      | none => faultFrom written .fields (n + 1) rest
  | .field first, n, c :: rest => faultFrom written (.field first) (n + c.utf8Size) rest
  | .fields, n, ']' :: rest => faultFrom written .afterSpan (n + 1) rest
  | .start, _, [] | .span, _, [] | .field _, _, [] | .fields, _, [] | .fields, _, _ :: _
  | .afterSpan, _, _ :: _ => some .directive

def trimmed (s : List Char) : List Char :=
  ((s.dropWhile Text.isBlank).reverse.dropWhile Text.isBlank).reverse

def directiveFault? (s : List Char) : Option FilterError :=
  faultFrom s .start 0 (trimmed s)

/-- The first thing wrong with a filter. Empty directives are skipped. -/
def fault? (filter : String) : Option FilterError :=
  ((filter.splitOn ",").filter (· != "")).findSome? fun s => directiveFault? s.toList

end Filter

inductive LoggingError
  | badFilter (filter : String) (cause : FilterError)
  | occupied
  deriving DecidableEq

def LoggingError.message (e : LoggingError) : String :=
  "failed to initialise logging: " ++
    match e with
    | badFilter filter cause => "invalid filter " ++ Text.quote filter ++ ": " ++ cause.message
    | occupied => "a global default trace dispatcher has already been set"

/-- Sets up the log of a process. A usable filter from the environment goes before the configured
one. A log that is already set up stays. -/
def setUpLogging (occupied : Bool) (environment : Option String) (configured : String) :
    Except LoggingError Unit :=
  let cause :=
    match environment.map Filter.fault? with
    | some none => none
    | _ => Filter.fault? configured
  match cause with
  | some cause => .error (.badFilter configured cause)
  | none => if occupied then .error .occupied else .ok ()

end InputReplay
