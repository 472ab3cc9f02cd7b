import GridRobot.Instruction
import GridRobot.Position

/-! # Reports

What a robot shows of itself, and the report on how it followed one instruction text: counts of the
instructions that it took and of those that it ignored, warnings, and the recorded steps. -/

namespace GridRobot

/-- What a robot shows of itself. The first generation has no facing, and only the third has
fuel. -/
structure Reading where
  position : Position
  orientation : Option Orientation := none
  fuel : Option UInt32 := none
  deriving DecidableEq, Repr

/-- A character that a robot could not interpret, with its index in the instruction text. -/
structure Warning where
  index : Nat
  character : Char
  deriving DecidableEq, Repr

def Warning.display (w : Warning) : String :=
  "bad instruction " ++ Text.quotedChar w.character ++ " at index " ++ w.index.repr

/-- What a robot showed right after it took one instruction, which stood at `index`. -/
structure Step extends Reading where
  index : Nat
  instruction : Instruction
  deriving DecidableEq, Repr

structure Report where
  /-- Number of instructions taken. -/
  executed : Nat := 0
  /-- Number of characters outside the generation's instruction set. -/
  ignored : Nat := 0
  warnings : List Warning := []
  steps : List Step := []
  deriving DecidableEq, Repr, Inhabited

namespace Report

def hasWarnings (r : Report) : Bool :=
  !r.warnings.isEmpty

/-! A report is made from the end of the text back, so each instruction comes before those that
the report already covers. -/

/-- An instruction was taken; its step is kept if steps are recorded. -/
def taken (r : Report) (recordTrace : Bool) (step : Step) : Report :=
  { r with
    executed := r.executed + 1
    steps := if recordTrace then step :: r.steps else r.steps }

/-- A character was ignored in silence. -/
def skipped (r : Report) : Report :=
  { r with ignored := r.ignored + 1 }

/-- A character was ignored with a warning. -/
def warned (r : Report) (w : Warning) : Report :=
  { r with ignored := r.ignored + 1, warnings := w :: r.warnings }

end Report
end GridRobot
