import InputReplay.Toml.Quoted
import InputReplay.Toml.Statement
import InputReplay.Value.Basic
import InputReplay.Value.Decode

/-! Writing and reading TOML documents. A written document has its plain entries first, then tables one
level deep, each behind a blank line and its header; a table without entries keeps its header. A text
that is no document fails without a word; one that holds the wrong data fails with what is wrong. -/

namespace InputReplay

namespace Toml

/-- What an entry of a written document may hold. -/
inductive Plain
  | int (n : Int)
  | string (s : String)
  deriving DecidableEq

structure Table where
  name : String
  entries : List (String × Plain)
  deriving DecidableEq

structure Document where
  entries : List (String × Plain)
  tables : List Table
  deriving DecidableEq

namespace Plain

def toValue : Plain → Value
  | int n => .int n
  | string s => .string s

def digits : Int → List Char
  | .ofNat n => Nat.toDigits 10 n
  | .negSucc n => '-' :: Nat.toDigits 10 (n + 1)

def chars : Plain → List Char
  | int n => digits n
  | string s => quoted s.toList

end Plain

def entryChars (e : String × Plain) : List Char :=
  e.1.toList ++ ' ' :: '=' :: ' ' :: (e.2.chars ++ ['\n'])

def Table.chars (t : Table) : List Char :=
  '[' :: (t.name.toList ++ ']' :: '\n' :: t.entries.flatMap entryChars)

def Table.toValue (t : Table) : Value :=
  .map (t.entries.map fun e => (e.1, e.2.toValue))

namespace Document

/-- A blank line stands before a table unless it comes first. -/
def chars (d : Document) : List Char :=
  d.entries.flatMap entryChars ++
    match d.entries, d.tables with
    | [], first :: rest => first.chars ++ rest.flatMap fun t => '\n' :: t.chars
    | _, tables => tables.flatMap fun t => '\n' :: t.chars

def text (d : Document) : String := String.ofList d.chars

/-- The value that a document stands for. -/
def toValue (d : Document) : Value :=
  .map (d.entries.map (fun e => (e.1, e.2.toValue)) ++ d.tables.map fun t => (t.name, t.toValue))

end Document

/-- The tables so far, and the path of the table that assignments go to. -/
structure Draft where
  entries : Entries
  current : List String

namespace Draft

def empty : Draft := ⟨[], []⟩

def apply (d : Draft) : Statement → Option Draft
  | .assign path v =>
    (Entries.alter .implied (Entries.assign path.parents path.name v) d.current .header
      d.entries).map fun entries => { d with entries := entries }
  | .table path =>
    (Entries.alter .implied (Entries.openTable path.name) path.parents .header d.entries).map
      fun entries => ⟨entries, path.names⟩
  | .element path =>
    (Entries.alter .implied (Entries.openElement path.name) path.parents .header d.entries).map
      fun entries => ⟨entries, path.names⟩

end Draft

/-- A byte order mark at the start is not part of the document. -/
def dropMark : List Char → List Char
  | '\ufeff' :: rest => rest
  | s => s

/-- The map that a text stands for. -/
def read (text : String) : Option Value := do
  let s := dropMark text.toList
  let draft ← (← statements s.length s).foldlM Draft.apply .empty
  return draft.entries.toValue

end Toml

inductive ParseError
  | malformed
  | decode (cause : DecodeError)

namespace ParseError

/-- Only wrong data is put in words. -/
def message? : ParseError → Option String
  | malformed => none
  | decode cause => some (cause.message .toml)

end ParseError

def Decoder.ofToml {α : Type} (read : Decoder α) (text : String) : Except ParseError α :=
  match Toml.read text with
  | none => .error .malformed
  | some v => (read .toml v).mapError .decode

end InputReplay
