import GridRobot.Robot.Model

/-! # The second generation

Turns in place, moves one unit along its facing or against it, and after each move is back in the
quadrant where no coordinate is negative. Every other character is ignored. -/

namespace GridRobot

structure Mk2 where
  position : Position
  orientation : Orientation
  recordTrace : Bool
  deriving DecidableEq, Repr

namespace Mk2

/-- A fresh robot, set in the quadrant and facing forward. -/
def spawn (position : Position) (config : Config) : Mk2 :=
  ⟨position.clamped, .forward, config.recordTrace⟩

/-- What the robot shows: its position and its facing. -/
def reading (r : Mk2) : Reading :=
  { position := r.position, orientation := some r.orientation }

def drive (r : Mk2) (distance : Int) : Mk2 :=
  { r with position := r.position.drive r.orientation distance }

def step (r : Mk2) : Instruction → Option Mk2
  | .left => some { r with orientation := r.orientation.rotateLeft }
  | .right => some { r with orientation := r.orientation.rotateRight }
  | .forward => some (r.drive 1)
  | .backward => some (r.drive (-1))
  | .boost _ => none
  | .unknown _ => none

def interpreter : Interpreter Mk2 where
  generation := .mk2
  step := step
  reading := reading

def execute (r : Mk2) (instructions : String) : Execution Mk2 :=
  let t := interpreter.follow r.recordTrace r 0 instructions.toList
  let summary :=
    Summary.mk2 t.report.executed t.report.ignored t.final.position t.final.orientation
  ⟨t.final, t.report, t.events ++ [.finished summary]⟩

instance : RobotModel Mk2 where
  spawn := spawn
  generation _ := .mk2
  reading := reading
  execute := execute

end Mk2
end GridRobot
