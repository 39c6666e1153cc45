import InputReplay.Text.Classes
import InputReplay.Text.Basic

/-! The smallest parts of a pattern, their escapes, and the modes that they are read in. -/

namespace InputReplay.Pattern
open Text

/-- The modes in force at a place of a pattern. A pattern matches whole characters, or bytes when it
is not `unicode`; blanks and comments mean nothing while it is `spaced`. -/
structure Modes where
  caseless : Bool
  unicode : Bool
  spaced : Bool

/-- Where `skipSpace` stands: between things, or in a comment. -/
inductive Space
  | outside
  | comment

/-- What follows leading blanks and comments. A comment goes up to the end of its line. -/
def skipSpace : Space → List Char → List Char
  | _, [] => []
  | .outside, c :: rest =>
    if isBlank c then skipSpace .outside rest
    else if c == '#' then skipSpace .comment rest
    else c :: rest
  | .comment, c :: rest => skipSpace (if c == '\n' then .outside else .comment) rest

namespace Modes

def initial : Modes := ⟨false, true, false⟩

def skip (m : Modes) (s : List Char) : List Char :=
  if m.spaced then skipSpace .outside s else s

/-- The next character that may mean something. Only the mark of a comment is passed over, not what
the comment says. -/
def peek (m : Modes) (s : List Char) : Option Char :=
  if m.spaced then
    match s.dropWhile isBlank with
    | '#' :: rest => (rest.dropWhile isBlank).head?
    | rest => rest.head?
  else s.head?

/-- Letters that switch modes: none twice, and something after the hyphen. -/
def areSwitches (letters : List Char) : Bool :=
  letters.all ['i', 'm', 's', 'U', 'R', 'u', 'x', '-'].contains && decide letters.Nodup &&
    letters.getLast? != some '-'

/-- Letters before the hyphen switch modes on, letters after it switch them off. -/
def switched (m : Modes) (letters : List Char) : Modes :=
  let on := letters.takeWhile (· != '-')
  let off := letters.dropWhile (· != '-')
  let mode (letter : Char) (current : Bool) : Bool :=
    on.contains letter || (current && !off.contains letter)
  ⟨mode 'i' m.caseless, mode 'u' m.unicode, mode 'x' m.spaced⟩

end Modes

inductive Atom
  /-- A character, which may be given as a byte of two hexadecimal digits. -/
  | literal (c : Char) (isByte : Bool)
  /-- Any character but a line feed. -/
  | dot
  /-- An end of the text or of a line. -/
  | anchor
  | wordEdge
  /-- A digit, a blank or a part of a word, or anything else. -/
  | kind (negated : Bool)
  deriving DecidableEq

namespace Modes

/-- Whether kinds of characters are known. There are tables for ASCII alone, and a match never ends
inside a character, so only bytes of known kinds can be asked for. -/
def admitsKind (m : Modes) (negated : Bool) : Bool :=
  !m.unicode && !negated

/-- Whether a pattern may hold an atom. The case of characters is known for bytes alone. -/
def admits (m : Modes) : Atom → Bool
  | .literal c isByte => if m.unicode then !m.caseless else !isByte || c.toNat < 128
  | .dot => m.unicode
  | .anchor | .wordEdge => true
  | .kind negated => m.admitsKind negated

/-- Whether a set may hold an atom. A set of bytes holds ASCII alone. -/
def admitsInSet (m : Modes) : Atom → Bool
  | .literal c _ => if m.unicode then !m.caseless else c.toNat < 128
  | .kind negated => m.admitsKind negated
  | .dot | .anchor | .wordEdge => false

end Modes

def hexDigits? (m : Modes) : Nat → Reader (List Char)
  | 0, s => some ([], s)
  | _ + 1, [] => none
  | n + 1, c :: rest =>
    if (hexValue? c).isSome then (hexDigits? m n (m.skip rest)).map fun r => (c :: r.1, r.2)
    else none

def hexLiteral (m : Modes) (n : Nat) : Reader Atom := fun s => do
  let (digits, rest) ← hexDigits? m n (m.skip s)
  return (.literal (← codePoint? digits) (n == 2), rest)

/-- What follows a backslash. Letters and digits stand for themselves only without it, all other
ASCII characters also behind it. -/
def escape (m : Modes) : Reader Atom
  | [] => none
  | 'x' :: rest => hexLiteral m 2 rest
  | 'u' :: rest => hexLiteral m 4 rest
  | 'U' :: rest => hexLiteral m 8 rest
  | 'd' :: rest | 's' :: rest | 'w' :: rest => some (.kind false, rest)
  | 'D' :: rest | 'S' :: rest | 'W' :: rest => some (.kind true, rest)
  | 'a' :: rest => some (.literal '\x07' false, rest)
  | 'f' :: rest => some (.literal '\x0c' false, rest)
  | 'n' :: rest => some (.literal '\n' false, rest)
  | 'r' :: rest => some (.literal '\r' false, rest)
  | 't' :: rest => some (.literal '\t' false, rest)
  | 'v' :: rest => some (.literal '\x0b' false, rest)
  | 'A' :: rest | 'z' :: rest => some (.anchor, rest)
  | 'b' :: rest | 'B' :: rest | '<' :: rest | '>' :: rest => some (.wordEdge, rest)
  | c :: rest => if c.toNat < 128 && !c.isAlphanum then some (.literal c false, rest) else none

end InputReplay.Pattern
