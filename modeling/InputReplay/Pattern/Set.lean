import InputReplay.Pattern.Atom

/-! Sets of characters: items in square brackets, which may be combined by operators. -/

namespace InputReplay.Pattern
open Text

def maxDepth : Nat := 250

/-- The depth of parts side by side. They add a level, but for one part alone or none. -/
def joined : List Nat → Nat
  | [] => 0
  | [depth] => depth
  | depths => depths.foldl max 0 + 1

/-- A set that has no closing bracket yet, with the depths of the items of its last operand and of
all operands before that. While it is `fresh`, hyphens stand for themselves. -/
structure OpenSet where
  items : List Nat
  before : Option Nat
  fresh : Bool

namespace OpenSet

def depth (o : OpenSet) : Nat :=
  match o.before with
  | none => joined o.items
  | some before => max before (joined o.items) + 1

def add (o : OpenSet) (item : Nat) : OpenSet :=
  ⟨item :: o.items, o.before, false⟩

def operator (o : OpenSet) : OpenSet := ⟨[], some o.depth, false⟩

/-- Whether the next closing bracket stands for itself. -/
def takesBracket (o : OpenSet) : Bool := o.fresh && o.items.isEmpty

end OpenSet

def classNames : List String :=
  ["alnum", "alpha", "ascii", "blank", "cntrl", "digit", "graph", "lower", "print", "punct",
   "space", "upper", "word", "xdigit"]

/-- The rest of a named class, such as `:alpha:]`, and whether it is negated. -/
def namedClass : Reader Bool
  | ':' :: s =>
    let negated := s.head? == some '^'
    let s := if negated then s.tail else s
    match s.dropWhile (· != ':') with
    | ':' :: ']' :: rest =>
      if classNames.contains (String.ofList (s.takeWhile (· != ':'))) then some (negated, rest)
      else none
    | _ => none
  | _ => none

/-- Whether a set may hold a named class. Outside it are bytes that are no characters. -/
def Modes.admitsClass (m : Modes) (negated : Bool) : Bool :=
  if m.unicode then !m.caseless else !negated

/-- The start of a set whose opening bracket has been read. A set of bytes cannot be negated. -/
def openSet (m : Modes) : Reader OpenSet := fun s =>
  match m.skip s with
  | '^' :: rest => if m.unicode then some (⟨[], none, true⟩, rest) else none
  | rest => some (⟨[], none, true⟩, rest)

def setAtom (m : Modes) : Reader Atom
  | [] => none
  | '\\' :: rest => escape m rest
  | c :: rest => some (.literal c false, rest)

def setItem (m : Modes) : Reader Unit := fun s => do
  let (first, rest) ← setAtom m s
  let alone := if m.admitsInSet first then some ((), rest) else none
  match m.skip rest with
  | '-' :: after =>
    if m.peek after == some ']' || m.peek after == some '-' then alone
    else
      match first, ← setAtom m (m.skip after) with
      | .literal low isByte, (.literal high isByte', rest) =>
        if low ≤ high && m.admitsInSet (.literal low isByte) &&
            m.admitsInSet (.literal high isByte') then
          some ((), rest)
        else none
      | _, _ => none
  | _ => alone

inductive SetToken
  | item
  /-- A hyphen at the front of a set. -/
  | hyphen
  | operator
  | opening (inner : OpenSet)
  | closing

def plain (m : Modes) (c : Char) (token : SetToken) (rest : List Char) :
    Option (SetToken × List Char) :=
  if m.admitsInSet (.literal c false) then some (token, rest) else none

def setToken (m : Modes) (o : OpenSet) : Reader SetToken
  | '[' :: rest =>
    match namedClass rest with
    | some (negated, rest) => if m.admitsClass negated then some (.item, rest) else none
    | none => (openSet m rest).map fun r => (.opening r.1, r.2)
  | ']' :: rest => if o.takesBracket then plain m ']' .item rest else some (.closing, rest)
  | '&' :: '&' :: rest | '~' :: '~' :: rest => some (.operator, rest)
  | s =>
    match s, o.fresh with
    | '-' :: rest, true => plain m '-' .hyphen rest
    | '-' :: '-' :: rest, false => some (.operator, rest)
    | s, _ => (setItem m s).map fun r => (.item, r.2)

/-- The rest of a set inside other sets, with its depth. At most `bound` things are read. -/
def setRest (m : Modes) : Nat → OpenSet → List OpenSet → Reader Nat
  | 0, _, _, _ => none
  | bound + 1, o, outer, s =>
    match setToken m o (m.skip s), outer with
    | none, _ => none
    | some (.item, rest), _ => setRest m bound (o.add 0) outer rest
    | some (.hyphen, rest), _ => setRest m bound { o.add 0 with fresh := true } outer rest
    | some (.operator, rest), _ => setRest m bound o.operator outer rest
    | some (.opening inner, rest), _ => setRest m bound inner (o :: outer) rest
    | some (.closing, rest), [] => some (o.depth + 1, rest)
    | some (.closing, rest), up :: outer => setRest m bound (up.add (o.depth + 1)) outer rest

/-- The rest of a set whose opening bracket has been read, with its depth. -/
def set (m : Modes) : Reader Nat := fun s => do
  let (o, rest) ← openSet m s
  setRest m (s.length + 1) o [] rest

end InputReplay.Pattern
