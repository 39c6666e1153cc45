import InputReplay.Value.Basic

/-! Reading typed data out of a value: readers for words, strings, sequences, records and
alternatives. A record is laid out once, as a list of fields, and reads from a map by names and from a
sequence by positions. An alternative is a bare name, or an entry of its name with data. -/

namespace InputReplay

abbrev Decoder (α : Type) := Format → Value → Except DecodeError α

namespace Decoder

variable {α : Type}

/-- An integer of a given width. A floating-point number is never one. -/
def integer (width : Width) : Decoder Int
  | _, .int n => if width.admits n then .ok n else .error (.outOfRange n width)
  | _, v => .error (.wrongType v (.word width))

def u16 : Decoder UInt16 := fun f v => (integer .u16 f v).map fun n => n.toNat.toUInt16
def u32 : Decoder UInt32 := fun f v => (integer .u32 f v).map fun n => n.toNat.toUInt32
def i32 : Decoder Int32 := fun f v => (integer .i32 f v).map Int32.ofInt

/-- Null reads as absent. -/
def nullable (read : Decoder α) : Decoder (Option α)
  | _, .null => .ok none
  | f, v => (read f v).map some

def string : Decoder String
  | _, .string s => .ok s
  | _, v => .error (.wrongType v .string)

def list (read : Decoder α) : Decoder (List α)
  | f, .seq items => items.mapM (read f)
  | _, v => .error (.wrongType v .sequence)

end Decoder

/-- Where a field may be left out. -/
inductive Presence
  | required
  | optionalByName
  | optional
  deriving DecidableEq

/-- A named part of a record: reading its value gives a change to the record. -/
structure Field (α : Type) where
  name : String
  presence : Presence
  read : Decoder (α → α)

namespace Field

variable {α β : Type}

def make (name : String) (presence : Presence) (read : Decoder β) (set : β → α → α) : Field α :=
  ⟨name, presence, fun f v => (read f v).map set⟩

/-- The change that the entry of the field's name asks for; none if it is absent or faulty. -/
def change (field : Field α) (f : Format) (entries : List (String × Value)) : α → α :=
  match entries.lookup field.name with
  | none => id
  | some v =>
    match field.read f v with
    | .ok set => set
    | .error _ => id

end Field

/-- The layout of a record: its name, its fields in order, and the record in which everything that
may be left out is. -/
structure RecordLayout (α : Type) where
  name : String
  blank : α
  fields : List (Field α)

namespace RecordLayout

variable {α : Type}

def expected (l : RecordLayout α) : Expected := .record l.name l.fields.length

/-- What is wrong with the value under a name. Unknown names are ignored. -/
def fault? (l : RecordLayout α) (f : Format) (entries : List (String × Value)) (name : String) :
    Option DecodeError :=
  match l.fields.find? (·.name == name), entries.lookup name with
  | some field, some v =>
    match field.read f v with
    | .ok _ => none
    | .error e => some e
  | _, _ => none

/-- The first faulty entry is reported, in the order of the entries; after that, the first absent
field that is required, in the order of the layout. -/
def ofEntries (l : RecordLayout α) (f : Format) (entries : List (String × Value)) :
    Except DecodeError α :=
  match entries.findSome? fun entry => l.fault? f entries entry.1 with
  | some e => .error e
  | none =>
    match l.fields.find? fun x => x.presence == .required && (entries.lookup x.name).isNone with
    | some field => .error (.missing field.name)
    | none => .ok (l.fields.foldl (fun a field => field.change f entries a) l.blank)

/-- Fields from `index` on, by position. -/
def ofItemsFrom (l : RecordLayout α) (f : Format) (length : Nat) :
    List (Field α) → List Value → Nat → α → Except DecodeError α
  | [], items, _, a =>
    if items.isEmpty || f.surplus then .ok a else .error (.badLength length .fewer)
  | field :: fields, [], index, a =>
    if field.presence == .optional then l.ofItemsFrom f length fields [] (index + 1) a
    else .error (.badLength index l.expected)
  | field :: fields, v :: items, index, a =>
    match field.read f v with
    | .error e => .error e
    | .ok set => l.ofItemsFrom f length fields items (index + 1) (set a)

def ofItems (l : RecordLayout α) (f : Format) (items : List Value) : Except DecodeError α :=
  l.ofItemsFrom f items.length l.fields items 0 l.blank

def read (l : RecordLayout α) : Decoder α
  | f, .map entries => l.ofEntries f entries
  | f, .moment => l.ofEntries f []
  | f, .seq items => l.ofItems f items
  | _, v => .error (.wrongType v l.expected)

end RecordLayout

inductive Alternative (α : Type)
  | bare (value : α)
  | payload (read : Decoder α)
  /-- As `payload`, but the data must be given by names. -/
  | labelled (read : Decoder α)

/-- Alternatives by name, in the order in which messages list them. -/
structure Choice (α : Type) where
  alternatives : List (String × Alternative α)

namespace Choice

variable {α : Type}

def ofName (c : Choice α) (name : String) : Except DecodeError α :=
  match c.alternatives.lookup name with
  | none => .error (.unknownName name (c.alternatives.map Prod.fst))
  | some (.bare value) => .ok value
  | some (.payload _) => .error (.bareName .payload)
  | some (.labelled _) => .error (.bareName .labelledPayload)

/-- The alternative of a name with its data. Null stands for no data. -/
def ofEntry (c : Choice α) (f : Format) (name : String) (data : Value) : Except DecodeError α :=
  match c.alternatives.lookup name with
  | none => .error (.unknownName name (c.alternatives.map Prod.fst))
  | some (.bare value) =>
    match data with
    | .null => .ok value
    | other => .error (.wrongType other .unit)
  | some (.payload read) => read f data
  | some (.labelled read) =>
    match data with
    | .map entries => read f (.map entries)
    | other => .error (.wrongType other .labelledPayload)

def read (c : Choice α) : Decoder α
  | _, .string name => c.ofName name
  | f, .map [(name, data)] => c.ofEntry f name data
  | _, .map _ => .error .notOneEntry
  | _, v => .error (.wrongType v .choice)

end Choice
end InputReplay
