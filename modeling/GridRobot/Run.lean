import GridRobot.Robot

/-! # Runs

A run is the outcome of one execution: the generation of the robot, what it shows afterwards, and
its report. `control` and `Run.attempt` make a fresh robot, have it follow one instruction text,
and read off where it ended up. -/

namespace GridRobot

/-- The outcome of one execution. -/
structure Run extends Reading where
  generation : Generation
  report : Report
  deriving DecidableEq, Repr

namespace Run

/-- What a robot shows, together with the report that it made. -/
def capture (robot : Robot) (report : Report) : Run :=
  { robot.reading with generation := robot.generation, report }

/-- Has a fresh robot of that configuration follow a text. A configuration that makes no sense is
refused. -/
def attempt (generation : Generation) (config : Config) (start : Position)
    (instructions : String) : Except Fault (Logged Run) := do
  config.validate
  let execution := (Robot.spawn generation start config).execute instructions
  return ⟨capture execution.robot execution.report, execution.events⟩

end Run

/-- Where a fresh robot of the default configuration ends up. -/
def control (generation : Generation) (start : Position) (instructions : String) : Position :=
  ((Robot.spawn generation start {}).execute instructions).robot.position

end GridRobot
