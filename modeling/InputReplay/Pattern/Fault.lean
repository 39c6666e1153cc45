import InputReplay.Pattern.Set
import InputReplay.Text.Classes

/-! Patterns for texts: characters, sets and assertions, which may be repeated, put side by side,
offered as alternatives and grouped. Only whether a pattern can be used is decided here. Counted
repetitions and the long form of code points end in a closing brace, which no pattern here can hold.
-/

namespace InputReplay

inductive PatternError
  | malformed
  | wordEdge
  deriving DecidableEq

def PatternError.message : PatternError → String
  | malformed => "error building NFA"
  | wordEdge =>
    "unsupported regex feature for DFAs: cannot build DFAs for regexes with Unicode word " ++
      "boundaries; switch to ASCII word boundaries, or heuristically enable Unicode word " ++
      "boundaries or use a different regex engine"

namespace Pattern
open Text

/-- A part of an alternative. A switch of modes cannot be repeated. -/
structure Part where
  depth : Nat
  repeatable : Bool

/-- A group that has not been closed, with the parts of its last alternative, latest first, and the
depths of the alternatives before it. -/
structure OpenGroup where
  modes : Modes
  parts : List Part
  alternatives : List Nat

namespace OpenGroup

def start (modes : Modes) : OpenGroup := ⟨modes, [], []⟩

def finished (g : OpenGroup) : List Nat := joined (g.parts.map (·.depth)) :: g.alternatives

def depth (g : OpenGroup) : Nat := joined g.finished

def add (g : OpenGroup) (depth : Nat) (repeatable : Bool) : OpenGroup :=
  { g with parts := ⟨depth, repeatable⟩ :: g.parts }

end OpenGroup

/-- A pattern that has been read in part. `edges` says whether it asks for edges of words that are
not ASCII. -/
structure Progress where
  group : OpenGroup
  outer : List OpenGroup
  names : List (List Char)
  edges : Bool

namespace Progress

def start : Progress := ⟨.start .initial, [], [], false⟩

def opened (p : Progress) (modes : Modes) : Progress :=
  { p with group := .start modes, outer := p.group :: p.outer }

def add (p : Progress) (depth : Nat) (repeatable : Bool) : Progress :=
  { p with group := p.group.add depth repeatable }

def addAtom (p : Progress) (a : Atom) : Option Progress :=
  if p.group.modes.admits a then
    some { p.add 0 true with edges := p.edges || (a == .wordEdge && p.group.modes.unicode) }
  else none

def repeated (p : Progress) : Option Progress :=
  match p.group.parts with
  | ⟨depth, true⟩ :: parts =>
    some { p with group := { p.group with parts := ⟨depth + 1, true⟩ :: parts } }
  | _ => none

def nextAlternative (p : Progress) : Progress :=
  { p with group := { p.group with parts := [], alternatives := p.group.finished } }

def closed (p : Progress) : Option Progress :=
  match p.outer with
  | [] => none
  | up :: outer => some { p with group := up.add (p.group.depth + 1) true, outer }

end Progress

def isName : List Char → Bool
  | [] => false
  | c :: rest =>
    (c == '_' || isAlphabetic c) &&
      rest.all fun c => ['_', '.', '[', ']'].contains c || isAlphanumeric c

def openNamed (p : Progress) : Reader Progress := fun s =>
  let name := s.takeWhile (· != '>')
  match s.dropWhile (· != '>') with
  | [] => none
  | _ :: rest =>
    if isName name && !p.names.contains name then
      some ({ p.opened p.group.modes with names := name :: p.names }, rest)
    else none

/-- Letters that switch modes, for the rest of the present group or for a new one. -/
def openSwitched (p : Progress) : Reader Progress := fun s =>
  let inside (c : Char) : Bool := c != ':' && c != ')'
  let letters := s.takeWhile inside
  let modes := p.group.modes.switched letters
  if Modes.areSwitches letters then
    match s.dropWhile inside with
    | ':' :: rest => some (p.opened modes, rest)
    | ')' :: rest =>
      if letters.isEmpty then none
      else some ({ p with group := { p.group.add 0 false with modes } }, rest)
    | _ => none
  else none

def openGroup (p : Progress) : Reader Progress
  | '?' :: 'P' :: '<' :: rest | '?' :: '<' :: rest => openNamed p rest
  | '?' :: rest => openSwitched p rest
  | rest => some (p.opened p.group.modes, rest)

/-- A question mark right after a repetition, which makes it lazy, goes with it. -/
def dropLazy : List Char → List Char
  | '?' :: rest => rest
  | s => s

/-- The next thing of a pattern. -/
def next (p : Progress) : Reader Progress
  | [] => none
  | '(' :: rest => openGroup p (p.group.modes.skip rest)
  | ')' :: rest => p.closed.map fun p => (p, rest)
  | '|' :: rest => some (p.nextAlternative, rest)
  | '[' :: rest => (set p.group.modes rest).map fun r => (p.add r.1 true, r.2)
  | '?' :: rest | '*' :: rest | '+' :: rest => p.repeated.map fun p => (p, dropLazy rest)
  | '\x7b' :: _ => none
  | '.' :: rest => (p.addAtom .dot).map fun p => (p, rest)
  | '^' :: rest | '$' :: rest => (p.addAtom .anchor).map fun p => (p, rest)
  | '\\' :: rest => do
    let (a, rest) ← escape p.group.modes rest
    return (← p.addAtom a, rest)
  | c :: rest => (p.addAtom (.literal c false)).map fun p => (p, rest)

/-- The rest of a pattern up to its end. At most `bound` things are read. -/
def finish : Nat → Progress → List Char → Option Progress
  | 0, _, _ => none
  | bound + 1, p, s =>
    let rest := p.group.modes.skip s
    if rest.isEmpty then if p.outer.isEmpty then some p else none
    else (next p rest).bind fun r => finish bound r.1 r.2

def fault? (s : List Char) : Option PatternError :=
  match finish (s.length + 1) .start s with
  | none => some .malformed
  | some p =>
    if maxDepth < p.group.depth then some .malformed
    else if p.edges then some .wordEdge
    else none

end Pattern
end InputReplay
