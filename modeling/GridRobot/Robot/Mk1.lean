import GridRobot.Robot.Model

/-! # The first generation

Moves on fixed axes, has no facing and knows no bounds: forward and backward change `x`, left and
right change `y`. Every other character is worth a warning. -/

namespace GridRobot

structure Mk1 where
  position : Position
  recordTrace : Bool
  deriving DecidableEq, Repr

namespace Mk1

/-- A fresh robot, wherever it is set. -/
def spawn (position : Position) (config : Config) : Mk1 :=
  ⟨position, config.recordTrace⟩

/-- What the robot shows: its position. -/
def reading (r : Mk1) : Reading :=
  { position := r.position }

/-- The unit step of an instruction. -/
def move? : Instruction → Option (Int × Int)
  | .forward => some (1, 0)
  | .backward => some (-1, 0)
  | .left => some (0, 1)
  | .right => some (0, -1)
  | .boost _ => none
  | .unknown _ => none

def step (r : Mk1) (i : Instruction) : Option Mk1 :=
  (move? i).map fun (dx, dy) => { r with position := r.position.offset dx dy }

def interpreter : Interpreter Mk1 where
  generation := .mk1
  step := step
  reading := reading

def execute (r : Mk1) (instructions : String) : Execution Mk1 :=
  let t := interpreter.follow r.recordTrace r 0 instructions.toList
  let summary := Summary.mk1 t.report.executed t.report.warnings.length t.final.position
  ⟨t.final, t.report, t.events ++ [.finished summary]⟩

instance : RobotModel Mk1 where
  spawn := spawn
  generation _ := .mk1
  reading := reading
  execute := execute

end Mk1
end GridRobot
