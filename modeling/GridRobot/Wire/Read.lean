import GridRobot.Json.Fields
import GridRobot.Json.Holdable
import GridRobot.Run

/-! # Values from JSON

How the values of this library are read. An instruction is told by its tag, which may come last, so
its members are held until then; `room` says how many arrays and objects may lie within each other
there, the instruction's own included. -/

namespace GridRobot

/-- A number in the range of coordinates. -/
def Coordinate.ofJson? (j : Json) : Option Coordinate :=
  j.integer?.bind Coordinate.ofInt?

/-- Both fields must be present. -/
def Position.ofJson? (j : Json) : Option Position := do
  let fields ← j.fields? ["x", "y"]
  let x ← fields.required "x" Coordinate.ofJson?
  let y ← fields.required "y" Coordinate.ofJson?
  return ⟨x, y⟩

def Orientation.ofJson? (j : Json) : Option Orientation :=
  j.choice?.bind Orientation.ofName?

def Generation.ofJson? (j : Json) : Option Generation :=
  j.choice?.bind Generation.ofName?

namespace Instruction

/-- The only member of that name. -/
def sole? (name : String) (members : Json.Fields) : Option Json :=
  match members.filter fun member => member.1 == name with
  | [(_, value)] => some value
  | _ => none

/-- The instruction of a tag whose other members are given by name. -/
def ofMembers? (tag : String) (members : Json.Fields) : Option Instruction :=
  match tag with
  | "FORWARD" => some forward
  | "BACKWARD" => some backward
  | "LEFT" => some left
  | "RIGHT" => some right
  | "BOOST" => (sole? "value" members).bind fun value => value.uint8?.map boost
  | "UNKNOWN" => (sole? "character" members).bind fun c => c.char?.map unknown
  | _ => none

/-- The instruction of a tag that is followed by exactly its fields. -/
def ofItems? (tag : String) (items : List Json) : Option Instruction :=
  match tag, items with
  | "FORWARD", [] => some forward
  | "BACKWARD", [] => some backward
  | "LEFT", [] => some left
  | "RIGHT", [] => some right
  | "BOOST", [value] => value.uint8?.map boost
  | "UNKNOWN", [c] => c.char?.map unknown
  | _, _ => none

/-- An object with its tag once under `op` and everything else fit to be held, or an array of the
tag and the fields. -/
def ofJson? (room : Nat) : Json → Option Instruction
  | .array (.string (some tag) :: items) => ofItems? tag items
  | .object members => do
    let members ← Json.namedMembers? members
    let others := members.filter fun member => member.1 != "op"
    match sole? "op" members with
    | some (.string (some tag)) =>
      if others.all fun member => member.2.isHoldable (room - 1) then ofMembers? tag others
      else none
    | _ => none
  | _ => none

end Instruction

/-- Both fields must be present. -/
def Warning.ofJson? (j : Json) : Option Warning := do
  let fields ← j.fields? ["index", "character"]
  let index ← fields.required "index" Json.count?
  let character ← fields.required "character" Json.char?
  return { index, character }

/-- The orientation and the fuel may be missing or null. -/
def Step.ofJson? (room : Nat) (j : Json) : Option Step := do
  let fields ← j.fields? ["index", "instruction", "position", "orientation", "fuel"]
  let index ← fields.required "index" Json.count?
  let instruction ← fields.required "instruction" (Instruction.ofJson? (room - 1))
  let position ← fields.required "position" Position.ofJson?
  let orientation ← fields.optional "orientation" Orientation.ofJson?
  let fuel ← fields.optional "fuel" Json.uint32?
  return { index, instruction, position, orientation, fuel }

/-- All fields must be present. -/
def Report.ofJson? (room : Nat) (j : Json) : Option Report := do
  let fields ← j.fields? ["executed", "ignored", "warnings", "steps"]
  let executed ← fields.required "executed" Json.count?
  let ignored ← fields.required "ignored" Json.count?
  let warnings ← fields.required "warnings" (Json.list? Warning.ofJson?)
  let steps ← fields.required "steps" (Json.list? (Step.ofJson? (room - 2)))
  return { executed, ignored, warnings, steps }

/-- The orientation and the fuel may be missing or null. -/
def Run.ofJson? (room : Nat) (j : Json) : Option Run := do
  let fields ← j.fields? ["generation", "position", "orientation", "fuel", "report"]
  let generation ← fields.required "generation" Generation.ofJson?
  let position ← fields.required "position" Position.ofJson?
  let orientation ← fields.optional "orientation" Orientation.ofJson?
  let fuel ← fields.optional "fuel" Json.uint32?
  let report ← fields.required "report" (Report.ofJson? (room - 1))
  return { generation, position, orientation, fuel, report }

/-- A field that is missing has its default. -/
def Config.ofJson? (j : Json) : Option Config := do
  let fields ← j.fields? ["initial_fuel", "max_boost", "record_trace"]
  let initialFuel ← fields.defaulted "initial_fuel" defaultFuel Json.uint32?
  let maxBoost ← fields.defaulted "max_boost" defaultMaxBoost Json.uint32?
  let recordTrace ← fields.defaulted "record_trace" false Json.bool?
  return { initialFuel, maxBoost, recordTrace }

end GridRobot
