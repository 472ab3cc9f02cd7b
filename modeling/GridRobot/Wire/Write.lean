import GridRobot.Json.Value
import GridRobot.Run

/-! # Values as JSON

How the values of this library are written. The fields of a structure come in their own order, and
an orientation or a fuel that is absent is left out. -/

namespace GridRobot

namespace Json

/-- An object of members in order. -/
def ofMembers (members : List (String × Json)) : Json :=
  object (members.map fun (key, value) => (some key, value))

def ofString (s : String) : Json :=
  string (some s)

def ofInt (z : Int) : Json :=
  number (.ofInt z)

def ofNat (n : Nat) : Json :=
  ofInt n

/-- A member that is left out if there is no value. -/
def memberIfSome {α : Type} (name : String) (write : α → Json) (value : Option α) :
    List (String × Json) :=
  match value with
  | none => []
  | some a => [(name, write a)]

end Json

def Coordinate.toJson (c : Coordinate) : Json :=
  .ofInt c.val

def Position.toJson (p : Position) : Json :=
  .ofMembers [("x", p.x.toJson), ("y", p.y.toJson)]

def Orientation.toJson (o : Orientation) : Json :=
  .ofString o.name

def Generation.toJson (g : Generation) : Json :=
  .ofString g.name

/-- A character is a text of that character. -/
def Json.ofChar (c : Char) : Json :=
  .ofString (String.singleton c)

def Json.ofUInt32 (n : UInt32) : Json :=
  .ofNat n.toNat

/-- An instruction has its mnemonic under `op`, then what else it carries. -/
def Instruction.toJson : Instruction → Json
  | boost value =>
    .ofMembers [("op", .ofString (boost value).mnemonic), ("value", .ofNat value.toNat)]
  | unknown c => .ofMembers [("op", .ofString (unknown c).mnemonic), ("character", .ofChar c)]
  | i => .ofMembers [("op", .ofString i.mnemonic)]

def Warning.toJson (w : Warning) : Json :=
  .ofMembers [("index", .ofNat w.index), ("character", .ofChar w.character)]

/-- The fields of a reading that are present. -/
def Reading.members (r : Reading) : List (String × Json) :=
  ("position", r.position.toJson)
    :: Json.memberIfSome "orientation" Orientation.toJson r.orientation
    ++ Json.memberIfSome "fuel" Json.ofUInt32 r.fuel

/-- A step has its index and instruction before what the robot showed. -/
def Step.toJson (s : Step) : Json :=
  .ofMembers (("index", .ofNat s.index) :: ("instruction", s.instruction.toJson)
    :: s.toReading.members)

/-- A report has its counts before its lists. -/
def Report.toJson (r : Report) : Json :=
  .ofMembers [("executed", .ofNat r.executed), ("ignored", .ofNat r.ignored),
    ("warnings", .array (r.warnings.map Warning.toJson)),
    ("steps", .array (r.steps.map Step.toJson))]

/-- A run has its generation before, and its report after, what the robot showed. -/
def Run.toJson (r : Run) : Json :=
  .ofMembers (("generation", r.generation.toJson) :: r.toReading.members
    ++ [("report", r.report.toJson)])

def Config.toJson (c : Config) : Json :=
  .ofMembers [("initial_fuel", .ofUInt32 c.initialFuel), ("max_boost", .ofUInt32 c.maxBoost),
    ("record_trace", .bool c.recordTrace)]

end GridRobot
