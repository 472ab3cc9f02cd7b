import GridRobot.Config
import GridRobot.Generation
import GridRobot.Report

/-! # Events

What is worth a line in the log. Events are values, so that whoever makes them decides nothing
about where, or whether, they are written. -/

namespace GridRobot

inductive Level where
  | trace
  | debug
  | info
  | warn
  deriving DecidableEq, Repr

/-- The end of an execution, as each generation sums it up. -/
inductive Summary where
  | mk1 (executed warnings : Nat) (position : Position)
  | mk2 (executed ignored : Nat) (position : Position) (orientation : Orientation)
  | mk3 (executed ignored : Nat) (position : Position) (fuelUsed fuel : UInt32)
  deriving DecidableEq, Repr

inductive Event where
  | stepped (generation : Generation) (step : Step)
  | badInstruction (warning : Warning)
  | finished (summary : Summary)
  | scriptLine (number : Nat) (instructions : String)
  | configLoaded (path : String) (config : Config)
  deriving DecidableEq, Repr

/-- A value, and the events on the way to it. -/
structure Logged (α : Type) where
  value : α
  events : List Event

namespace Level

/-- The name of a level, right-aligned to five characters. -/
def label : Level → String
  | trace => "TRACE"
  | debug => "DEBUG"
  | info => " INFO"
  | warn => " WARN"

/-- A user sees warnings; one who asks for more sees all but the traces. -/
def isShown (verbose : Bool) : Level → Bool
  | trace => false
  | debug => verbose
  | info => verbose
  | warn => true

end Level

/-! ## Fields of a line -/

def Event.field (name value : String) : String :=
  " " ++ name ++ "=" ++ value

/-- The fields of a reading that are present. -/
def Reading.fields (r : Reading) : String :=
  Event.field "position" r.position.display
    ++ (match r.orientation with
        | some o => Event.field "orientation" o.name
        | none => "")
    ++ (match r.fuel with
        | some fuel => Event.field "fuel" fuel.toNat.repr
        | none => "")

namespace Summary

def generation : Summary → Generation
  | mk1 .. => .mk1
  | mk2 .. => .mk2
  | mk3 .. => .mk3

def fields : Summary → String
  | mk1 executed warnings position =>
    Event.field "executed" executed.repr ++ Event.field "warnings" warnings.repr
      ++ Event.field "position" position.display
  | mk2 executed ignored position orientation =>
    Event.field "executed" executed.repr ++ Event.field "ignored" ignored.repr
      ++ Event.field "position" position.display ++ Event.field "orientation" orientation.name
  | mk3 executed ignored position fuelUsed fuel =>
    Event.field "executed" executed.repr ++ Event.field "ignored" ignored.repr
      ++ Event.field "position" position.display ++ Event.field "fuel_used" fuelUsed.toNat.repr
      ++ Event.field "fuel" fuel.toNat.repr

end Summary

namespace Event

def level : Event → Level
  | stepped .. => .trace
  | badInstruction _ => .warn
  | finished _ => .debug
  | scriptLine .. => .debug
  | configLoaded .. => .info

def robotTarget (generation : Generation) : String :=
  "robocraft_vm::robot::" ++ generation.name

/-- Where in the program an event belongs. -/
def target : Event → String
  | stepped generation _ => robotTarget generation
  | badInstruction _ => robotTarget .mk1
  | finished summary => robotTarget summary.generation
  | scriptLine .. => "robocraft"
  | configLoaded .. => "robocraft"

def message : Event → String
  | stepped generation step =>
    generation.name ++ " step" ++ field "index" step.index.repr
      ++ field "instruction" step.instruction.display ++ step.toReading.fields
  | badInstruction warning =>
    "bad instruction" ++ field "index" warning.index.repr
      ++ field "character" (Text.quotedChar warning.character)
  | finished summary =>
    summary.generation.name ++ " executed instructions" ++ summary.fields
  | scriptLine number instructions =>
    "executing script line" ++ field "line_no" number.repr
      ++ field "instructions" (Text.quotedString instructions)
  | configLoaded path config =>
    "loaded robot config" ++ field "path" (Text.quotedString path)
      ++ field "config" config.display

def line (e : Event) : String :=
  e.level.label ++ " " ++ e.target ++ ": " ++ e.message

end Event
end GridRobot
