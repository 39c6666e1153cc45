import InputReplay.Text.Basic
import InputReplay.Toml.Quoted
import InputReplay.Toml.Scalar
import InputReplay.Toml.Tree

/-! The statements of a TOML document: assignments, and the headers of tables and of elements of
lists of tables. -/

namespace InputReplay.Toml
open Text

def isCommentChar (c : Char) : Bool :=
  c == '\t' || (' ' ≤ c && c ≤ '~') || 128 ≤ c.toNat

def skipBlanks (s : List Char) : List Char :=
  s.dropWhile fun c => c == ' ' || c == '\t'

/-- Where `skipLines` stands: between things, or in a comment. -/
inductive Place
  | outside
  | comment
  deriving DecidableEq

/-- What follows leading blanks, line ends and comments. A comment that holds a control character
is left unread from there on. -/
def skipFrom : Place → List Char → List Char
  | _, [] => []
  | _, '\n' :: rest => skipFrom .outside rest
  | _, '\r' :: '\n' :: rest => skipFrom .outside rest
  | .outside, ' ' :: rest => skipFrom .outside rest
  | .outside, '\t' :: rest => skipFrom .outside rest
  | .outside, '#' :: rest => skipFrom .comment rest
  | .outside, s => s
  | .comment, c :: rest => if isCommentChar c then skipFrom .comment rest else c :: rest

def skipLines (s : List Char) : List Char := skipFrom .outside s

/-- What follows the end of a line, or nothing at the end of the text. -/
def lineBreak : List Char → Option (List Char)
  | [] => some []
  | '\n' :: rest => some rest
  | '\r' :: '\n' :: rest => some rest
  | _ => none

/-- What follows the rest of a line that may hold a comment but nothing else. -/
def lineEnd (s : List Char) : Option (List Char) :=
  match skipBlanks s with
  | '#' :: rest => lineBreak (rest.dropWhile isCommentChar)
  | rest => lineBreak rest

/-- A key with the tables it goes through. -/
structure Path where
  parents : List String
  name : String
  deriving DecidableEq

def Path.names (p : Path) : List String := p.parents ++ [p.name]

inductive Statement
  | assign (path : Path) (v : Value)
  | table (path : Path)
  | element (path : Path)

/-- How many names a key may have, and how many brackets may stand in one another. -/
def nestingLimit : Nat := 79

def isBareKeyChar (c : Char) : Bool :=
  c.isAlphanum || c == '_' || c == '-'

def keyName : Reader String := fun s =>
  match s with
  | '"' :: _ | '\'' :: _ => lineString s
  | _ =>
    let name := s.takeWhile isBareKeyChar
    if name.isEmpty then none else some (String.ofList name, s.dropWhile isBareKeyChar)

/-- A key of at most `bound` names with dots between them. -/
def keyOf : Nat → Reader Path
  | 0, _ => none
  | bound + 1, s =>
    match keyName (skipBlanks s) with
    | none => none
    | some (name, rest) =>
      match skipBlanks rest with
      | '.' :: rest =>
        (keyOf bound rest).map fun r => (⟨name :: r.1.parents, r.1.name⟩, r.2)
      | rest => some (⟨[], name⟩, rest)

def key : Reader Path := keyOf nestingLimit

def binding (value : Reader Value) : Reader (Path × Value) := fun s =>
  match key s with
  | some (path, '=' :: rest) => (value (skipBlanks rest)).map fun r => ((path, r.1), r.2)
  | _ => none

def inlineTable (bindings : List (Path × Value)) : Option Value :=
  (bindings.foldlM
    (fun entries b => Entries.assign b.1.parents b.1.name b.2 .header entries) []).map
      Entries.toValue

/-- A value without quotes or brackets. A blank may divide a date from a time. -/
def scalar : Reader Value := fun s =>
  let token := s.takeWhile isScalarChar
  let rest := s.dropWhile isScalarChar
  match ofToken? token with
  | none => none
  | some v =>
    match rest with
    | ' ' :: clock =>
      if afterDate? token == some [] && isClock (clock.takeWhile isScalarChar) then
        some (v, clock.dropWhile isScalarChar)
      else some (v, rest)
    | _ => some (v, rest)

def unbracketed : Reader Value := fun s =>
  match s with
  | '"' :: _ | '\'' :: _ => (string s).map fun r => (.string r.1, r.2)
  | _ => scalar s

/-- A value with at most `room` brackets in one another. -/
def value : Nat → Reader Value
  | 0, s => unbracketed s
  | room + 1, s =>
    match s with
    | '[' :: rest =>
      (Reader.enclosed ⟨skipLines, ']', true⟩ (value room) rest).map fun r => (.seq r.1, r.2)
    | '\x7b' :: rest =>
      match Reader.enclosed ⟨skipBlanks, '\x7d', false⟩ (binding (value room)) rest with
      | none => none
      | some (bindings, rest) => (inlineTable bindings).map fun v => (v, rest)
    | s => unbracketed s

/-- One statement up to the end of its line. -/
def statement : Reader Statement := fun s =>
  match s with
  | '[' :: '[' :: rest =>
    match key rest with
    | some (path, ']' :: ']' :: rest) => (lineEnd rest).map (.element path, ·)
    | _ => none
  | '[' :: rest =>
    match key rest with
    | some (path, ']' :: rest) => (lineEnd rest).map (.table path, ·)
    | _ => none
  | s =>
    match binding (value nestingLimit) s with
    | some ((path, v), rest) => (lineEnd rest).map (.assign path v, ·)
    | none => none

def statements : Nat → List Char → Option (List Statement)
  | 0, s => if (skipLines s).isEmpty then some [] else none
  | bound + 1, s =>
    match skipLines s with
    | [] => some []
    | s =>
      match statement s with
      | none => none
      | some (first, rest) => (statements bound rest).map (first :: ·)

end InputReplay.Toml
