import InputReplay.Value.Basic

/-! The tables of a TOML document while it is read. A table remembers how it came to be, because
that decides what may still be said about it: a header may name a table once, unless it was only
implied by the header of a table inside it; dotted keys add to tables made by dotted keys alone. -/

namespace InputReplay.Toml

/-- How a table came to be: by a header, by the header of a table inside it, or by dotted keys. -/
inductive Origin
  | header
  | implied
  | dotted
  deriving DecidableEq

/-- What a key stands for: a finished value, a table, or a list of tables of which the last is
still open. -/
inductive Node
  | leaf (v : Value)
  | table (origin : Origin) (entries : List (String × Node))
  | tables (elements : List (List (String × Node)))

abbrev Entries := List (String × Node)

mutual

def Node.toValue : Node → Value
  | .leaf v => v
  | .table _ entries => .map (valuesOfEntries entries)
  | .tables elements => .seq (valuesOfTables elements)

def valuesOfEntries : List (String × Node) → List (String × Value)
  | [] => []
  | (name, node) :: rest => (name, node.toValue) :: valuesOfEntries rest

def valuesOfTables : List (List (String × Node)) → List Value
  | [] => []
  | entries :: rest => .map (valuesOfEntries entries) :: valuesOfTables rest

end

namespace Entries

def toValue (entries : Entries) : Value := .map (valuesOfEntries entries)

def put (name : String) (node : Node) (entries : Entries) : Entries :=
  entries.map fun e => if e.1 = name then (name, node) else e

/-- A change to a table of some origin, unless it is not allowed. -/
abbrev Change := Origin → Entries → Option Entries

/-- Changes the table at the end of a path. Tables missing on the way are made as `made` says; of a
list of tables the last is entered. A path of dotted keys enters no table that has a header. -/
def alter (made : Origin) (change : Change) : List String → Change
  | [], origin, entries => change origin entries
  | name :: path, _, entries =>
    match entries.lookup name with
    | none =>
      (alter made change path made []).map fun inner => entries ++ [(name, .table made inner)]
    | some (.leaf _) => none
    | some (.table origin inner) =>
      if made = .dotted ∧ origin = .header then none
      else (alter made change path origin inner).map fun inner =>
        entries.put name (.table origin inner)
    | some (.tables elements) =>
      match elements.getLast? with
      | none => none
      | some last =>
        (alter made change path .header last).map fun inner =>
          entries.put name (.tables (elements.dropLast ++ [inner]))

/-- A value under a new name. Dotted keys write only to tables that dotted keys made. -/
def assign (path : List String) (name : String) (v : Value) : Change :=
  alter .dotted
    (fun origin entries =>
      if (origin == .dotted) == path.isEmpty then none
      else if (entries.lookup name).isSome then none
      else some (entries ++ [(name, .leaf v)]))
    path

/-- A table with a header. It comes last in its parent, also if it was implied before. -/
def openTable (name : String) : Change := fun _ entries =>
  match entries.lookup name with
  | none => some (entries ++ [(name, .table .header [])])
  | some (.table .implied inner) =>
    some (entries.filter (·.1 != name) ++ [(name, .table .header inner)])
  | some _ => none

def openElement (name : String) : Change := fun _ entries =>
  match entries.lookup name with
  | none => some (entries ++ [(name, .tables [[]])])
  | some (.tables elements) => some (entries.put name (.tables (elements ++ [[]])))
  | some _ => none

end Entries
end InputReplay.Toml
