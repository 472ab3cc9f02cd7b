import GridRobot.Robot.Model

/-! # The third generation

Turns and moves like the second, and burns fuel to boost its forward moves. A digit asks for a
boost; the fuel is burned at once, as far as the ceiling and the tank allow, and the next forward
move goes as far as fuel was burned. A backward move is never boosted and uses the boost up. No
boost outlives the text in which it was asked for. -/

namespace GridRobot

structure Mk3 where
  position : Position
  orientation : Orientation
  fuel : UInt32
  maxBoost : UInt32
  recordTrace : Bool
  deriving DecidableEq, Repr

/-- The boost, while one text is followed. -/
structure Boost where
  /-- Some digit of the text came before. -/
  engaged : Bool := false
  /-- Distance of the next forward move, once engaged. -/
  magnitude : UInt32 := 0
  deriving DecidableEq, Repr

namespace Boost

def distance (b : Boost) : UInt32 :=
  if b.engaged then b.magnitude else 1

/-- The boost after a move, which uses it up. -/
def settled (b : Boost) : Boost :=
  { b with magnitude := 1 }

end Boost

/-- A robot of the third generation in the midst of a text. -/
structure BoostedMk3 where
  robot : Mk3
  boost : Boost := {}
  deriving DecidableEq, Repr

namespace Mk3

/-- A fresh robot, set in the quadrant, facing forward, with a full tank. -/
def spawn (position : Position) (config : Config) : Mk3 :=
  ⟨position.clamped, .forward, config.initialFuel, config.maxBoost, config.recordTrace⟩

/-- What the robot shows: its position, its facing and its fuel. -/
def reading (r : Mk3) : Reading :=
  { position := r.position, orientation := some r.orientation, fuel := some r.fuel }

def drive (r : Mk3) (distance : Int) : Mk3 :=
  { r with position := r.position.drive r.orientation distance }

/-- How much fuel is burned when a boost is asked for: no more than the ceiling and the tank
allow. -/
def burned (r : Mk3) (requested : UInt8) : UInt32 :=
  min (min requested.toUInt32 r.maxBoost) r.fuel

end Mk3

namespace BoostedMk3

/-- The state after a digit: fuel is burned now, whether or not a forward move follows. -/
def engage (s : BoostedMk3) (requested : UInt8) : BoostedMk3 :=
  let magnitude := s.robot.burned requested
  ⟨{ s.robot with fuel := s.robot.fuel - magnitude }, ⟨true, magnitude⟩⟩

def step (s : BoostedMk3) : Instruction → Option BoostedMk3
  | .boost value => some (s.engage value)
  | .left => some { s with robot := { s.robot with orientation := s.robot.orientation.rotateLeft } }
  | .right =>
    some { s with robot := { s.robot with orientation := s.robot.orientation.rotateRight } }
  | .forward => some ⟨s.robot.drive s.boost.distance.toNat, s.boost.settled⟩
  | .backward => some ⟨s.robot.drive (-1), s.boost.settled⟩
  | .unknown _ => none

def interpreter : Interpreter BoostedMk3 where
  generation := .mk3
  step := step
  reading s := s.robot.reading

end BoostedMk3

namespace Mk3

/-- Follows an instruction text, from no boost at all. -/
def execute (r : Mk3) (instructions : String) : Execution Mk3 :=
  let t := BoostedMk3.interpreter.follow r.recordTrace { robot := r } 0 instructions.toList
  let after := t.final.robot
  let summary :=
    Summary.mk3 t.report.executed t.report.ignored after.position (r.fuel - after.fuel) after.fuel
  ⟨after, t.report, t.events ++ [.finished summary]⟩

instance : RobotModel Mk3 where
  spawn := spawn
  generation _ := .mk3
  reading := reading
  execute := execute

end Mk3
end GridRobot
