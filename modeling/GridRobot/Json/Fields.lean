import GridRobot.Json.Value

/-! # Reading structures from JSON

A structure is written as an object of its fields in any order, or as the array of its fields in
their own order, where fields at the end may be missing. Members that are no field are passed over,
whatever they hold; a field given twice and a key that stands for no text are refused. -/

namespace GridRobot.Json

/-- The fields of a structure that are present, by name, each at most once. -/
abbrev Fields := List (String × Json)

/-- The members of an object, if every key stands for a text. -/
def namedMembers? (members : List (Option String × Json)) : Option Fields :=
  members.mapM fun (key, value) => key.map fun name => (name, value)

/-- The fields of a structure with fields of these names. -/
def fields? (names : List String) : Json → Option Fields
  | array items => if items.length ≤ names.length then some (names.zip items) else none
  | object members => do
    let members ← namedMembers? members
    let known := members.filter fun member => names.contains member.1
    if (known.map Prod.fst).Nodup then some known else none
  | _ => none

namespace Fields

variable {α : Type}

/-- A field that must be present. -/
def required (fields : Fields) (name : String) (read? : Json → Option α) : Option α :=
  (fields.lookup name).bind read?

/-- A field that may be missing or null. -/
def optional (fields : Fields) (name : String) (read? : Json → Option α) : Option (Option α) :=
  match fields.lookup name with
  | none => some none
  | some null => some none
  | some value => (read? value).map some

/-- A field that has a default when it is missing, but not when it is null. -/
def defaulted (fields : Fields) (name : String) (default : α) (read? : Json → Option α) :
    Option α :=
  match fields.lookup name with
  | none => some default
  | some value => read? value

end Fields

/-! ## Single values -/

def integer? : Json → Option Int
  | number n => n.integer?
  | _ => none

/-- A whole number of at least zero, below a bound. -/
def naturalBelow? (bound : Nat) (j : Json) : Option Nat := do
  let z ← j.integer?
  if 0 ≤ z ∧ z < bound then some z.toNat else none

def uint8? (j : Json) : Option UInt8 :=
  (j.naturalBelow? UInt8.size).map Nat.toUInt8

def uint32? (j : Json) : Option UInt32 :=
  (j.naturalBelow? UInt32.size).map Nat.toUInt32

/-- An index or a count: a whole number of 64 bits. -/
def count? (j : Json) : Option Nat :=
  j.naturalBelow? UInt64.size

def bool? : Json → Option Bool
  | bool b => some b
  | _ => none

/-- A text of exactly one character. -/
def char? : Json → Option Char
  | string (some s) =>
    match s.toList with
    | [c] => some c
    | _ => none
  | _ => none

/-- The name of a choice: a text, or an object with that name as its only key and null as its
value. -/
def choice? : Json → Option String
  | string s => s
  | object [(name, null)] => name
  | _ => none

def list? {α : Type} (read? : Json → Option α) : Json → Option (List α)
  | array items => items.mapM read?
  | _ => none

end GridRobot.Json
