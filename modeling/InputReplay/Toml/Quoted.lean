import InputReplay.Text.Basic

/-! Strings of TOML documents: with escapes between double quotes, or as they are between single
quotes, on one line or, between three quotes, on several. A line end in a string is a line feed,
however it is written. -/

namespace InputReplay.Toml
open Text

/-- Whether a character may stand in a string as it is, quotes and escapes apart. -/
def isPlain (c : Char) : Bool :=
  c == '\t' || (' ' ≤ c && c ≤ '~') || 128 ≤ c.toNat

def escape? : Char → Option Char
  | 'b' => some '\x08'
  | 't' => some '\t'
  | 'n' => some '\n'
  | 'f' => some '\x0c'
  | 'r' => some '\r'
  | '"' => some '"'
  | '\\' => some '\\'
  | _ => none

def push (c : Char) (r : Option (List Char × List Char)) : Option (List Char × List Char) :=
  r.map fun r => (c :: r.1, r.2)

/-- The rest of a string in double quotes. -/
def basic : Reader (List Char)
  | [] => none
  | '"' :: rest => some ([], rest)
  | '\\' :: 'u' :: a :: b :: c :: d :: rest => do push (← codePoint? [a, b, c, d]) (basic rest)
  | '\\' :: 'U' :: a :: b :: c :: d :: e :: f :: g :: h :: rest => do
    push (← codePoint? [a, b, c, d, e, f, g, h]) (basic rest)
  | '\\' :: c :: rest => do push (← escape? c) (basic rest)
  | c :: rest => if isPlain c && c != '\\' then push c (basic rest) else none

def literal : Reader (List Char)
  | [] => none
  | '\'' :: rest => some ([], rest)
  | c :: rest => if isPlain c then push c (literal rest) else none

/-- Where a reader of several lines stands: in the text, behind a backslash that must end its line,
or in the blanks after such a line. -/
inductive Margin
  | text
  | escaped
  | folded
  deriving DecidableEq

/-- The rest of a string of several lines with escapes. One or two quotes belong to the text, also
right before the closing three. A backslash at the end of a line takes away the line end and all
blanks and line ends after it. -/
def basicLines : Margin → Reader (List Char)
  | _, [] => none
  | m, ' ' :: rest => if m = .text then push ' ' (basicLines .text rest) else basicLines m rest
  | m, '\t' :: rest => if m = .text then push '\t' (basicLines .text rest) else basicLines m rest
  | m, '\n' :: rest =>
    if m = .text then push '\n' (basicLines .text rest) else basicLines .folded rest
  | m, '\r' :: '\n' :: rest =>
    if m = .text then push '\n' (basicLines .text rest) else basicLines .folded rest
  | .escaped, _ => none
  | _, '"' :: '"' :: '"' :: '"' :: '"' :: rest => some (['"', '"'], rest)
  | _, '"' :: '"' :: '"' :: '"' :: rest => some (['"'], rest)
  | _, '"' :: '"' :: '"' :: rest => some ([], rest)
  | _, '\\' :: 'u' :: a :: b :: c :: d :: rest => do
    push (← codePoint? [a, b, c, d]) (basicLines .text rest)
  | _, '\\' :: 'U' :: a :: b :: c :: d :: e :: f :: g :: h :: rest => do
    push (← codePoint? [a, b, c, d, e, f, g, h]) (basicLines .text rest)
  | _, '\\' :: ' ' :: rest => basicLines .escaped rest
  | _, '\\' :: '\t' :: rest => basicLines .escaped rest
  | _, '\\' :: '\n' :: rest => basicLines .folded rest
  | _, '\\' :: '\r' :: '\n' :: rest => basicLines .folded rest
  | _, '\\' :: c :: rest => do push (← escape? c) (basicLines .text rest)
  | _, c :: rest => if isPlain c && c != '\\' then push c (basicLines .text rest) else none

def literalLines : Reader (List Char)
  | [] => none
  | '\n' :: rest => push '\n' (literalLines rest)
  | '\r' :: '\n' :: rest => push '\n' (literalLines rest)
  | '\'' :: '\'' :: '\'' :: '\'' :: '\'' :: rest => some (['\'', '\''], rest)
  | '\'' :: '\'' :: '\'' :: '\'' :: rest => some (['\''], rest)
  | '\'' :: '\'' :: '\'' :: rest => some ([], rest)
  | c :: rest => if isPlain c then push c (literalLines rest) else none

/-- A line end right after the opening quotes is not part of the text. -/
def dropFirstBreak : List Char → List Char
  | '\n' :: rest => rest
  | '\r' :: '\n' :: rest => rest
  | s => s

def lineString : Reader String
  | '"' :: rest => (basic rest).map fun r => (String.ofList r.1, r.2)
  | '\'' :: rest => (literal rest).map fun r => (String.ofList r.1, r.2)
  | _ => none

/-- A string of either kind. -/
def string : Reader String
  | '"' :: '"' :: '"' :: rest =>
    (basicLines .text (dropFirstBreak rest)).map fun r => (String.ofList r.1, r.2)
  | '\'' :: '\'' :: '\'' :: rest =>
    (literalLines (dropFirstBreak rest)).map fun r => (String.ofList r.1, r.2)
  | s => lineString s

def escaped : Char → List Char
  | '\x08' => ['\\', 'b']
  | '\t' => ['\\', 't']
  | '\n' => ['\\', 'n']
  | '\x0c' => ['\\', 'f']
  | '\r' => ['\\', 'r']
  | '"' => ['\\', '"']
  | '\\' => ['\\', '\\']
  | c =>
    if isPlain c then [c]
    else
      let digits := hexDigits c.toNat
      ['\\', 'u'] ++ List.replicate (4 - digits.length) '0' ++ digits

/-- A string in double quotes on one line. -/
def quoted (s : List Char) : List Char :=
  '"' :: s.flatMap escaped ++ ['"']

end InputReplay.Toml
