import GridRobot.Json.Printer
import GridRobot.Wire.Read
import GridRobot.Wire.Write

/-! # Documents

The values that have a written form of their own, compact or pretty, and can be read back from
either. -/

namespace GridRobot

/-- Values that are written as JSON and read from it. -/
class Document (α : Type) where
  toJson : α → Json
  ofJson? : Json → Option α

namespace Document

variable {α : Type} [Document α]

def compact (a : α) : String :=
  (toJson a).compact

def pretty (a : α) : String :=
  (toJson a).pretty

def parse? (α : Type) [Document α] (text : String) : Option α :=
  (Json.parse? text).bind ofJson?

end Document

instance : Document Instruction := ⟨Instruction.toJson, Instruction.ofJson? Json.greatestDepth⟩
instance : Document Orientation := ⟨Orientation.toJson, Orientation.ofJson?⟩
instance : Document Generation := ⟨Generation.toJson, Generation.ofJson?⟩
instance : Document Position := ⟨Position.toJson, Position.ofJson?⟩
instance : Document Warning := ⟨Warning.toJson, Warning.ofJson?⟩
instance : Document Step := ⟨Step.toJson, Step.ofJson? Json.greatestDepth⟩
instance : Document Report := ⟨Report.toJson, Report.ofJson? Json.greatestDepth⟩
instance : Document Run := ⟨Run.toJson, Run.ofJson? Json.greatestDepth⟩
instance : Document Config := ⟨Config.toJson, Config.ofJson?⟩

/-- Lists are arrays. -/
instance {α : Type} [Document α] : Document (List α) :=
  ⟨fun as => .array (as.map Document.toJson), Json.list? Document.ofJson?⟩

end GridRobot
