import GridRobot.Proofs.Script.Resuming

/-! # One outcome at every entry point

A robot follows a text as one of a known generation, as one of any generation, in a run of its own,
or on a line of a script. `entryPoints_agree` says that it comes to the same. A script only adds
that the text must get through the stripping of its line, and the texts that do are those on which
stripping has no effect (`exists_source_iff`). -/

namespace GridRobot

/-! ## Known generations -/

/-- The robots of a generation. -/
def Generation.Model : Generation → Type
  | mk1 => Mk1
  | mk2 => Mk2
  | mk3 => Mk3

instance : (generation : Generation) → RobotModel generation.Model
  | .mk1 => inferInstanceAs (RobotModel Mk1)
  | .mk2 => inferInstanceAs (RobotModel Mk2)
  | .mk3 => inferInstanceAs (RobotModel Mk3)

namespace Robot

/-- A robot of a known generation, taken as one of any generation. -/
def ofModel : (generation : Generation) → generation.Model → Robot
  | .mk1 => mk1
  | .mk2 => mk2
  | .mk3 => mk3

variable (generation : Generation) (r : generation.Model)

theorem ofModel_spawn (start : Position) (config : Config) :
    ofModel generation (RobotModel.spawn start config) = spawn generation start config := by
  cases generation <;> rfl

theorem reading_ofModel : (ofModel generation r).reading = RobotModel.reading r := by
  cases generation <;> rfl

theorem execute_ofModel (text : String) :
    (ofModel generation r).execute text
      = widen (ofModel generation) (RobotModel.execute r text) := by
  cases generation <;> rfl

end Robot

theorem control_eq_destination (generation : Generation) (start : Position) (text : String) :
    control generation start text = RobotModel.destination generation.Model start text := by
  rw [control, ← Robot.ofModel_spawn, Robot.execute_ofModel, Robot.position]
  exact congrArg Reading.position (Robot.reading_ofModel generation _)

/-! ## Scripts of one line -/

namespace Script

theorem effectiveLines_of_strip_eq {text : String} (nonempty : text ≠ "")
    (oneLine : '\n' ∉ text.toList) (stripped : strip text.toList = text.toList) :
    effectiveLines text = [(1, text)] := by
  rw [effectiveLines_eq, List.splitOn_eq_singleton oneLine, numbered_cons, effective?, stripped,
    if_neg (by simpa using nonempty), String.ofList_toList]
  rfl

/-- A text is what some script comes down to, if and only if stripping has no effect on it. -/
theorem exists_source_iff (text : String) :
    (∃ source number, effectiveLines source = [(number, text)])
      ↔ text ≠ "" ∧ '\n' ∉ text.toList ∧ strip text.toList = text.toList := by
  constructor
  · rintro ⟨source, number, lines⟩
    exact of_mem_effectiveLines (lines ▸ List.mem_singleton_self _)
  · rintro ⟨nonempty, oneLine, stripped⟩
    exact ⟨text, 1, effectiveLines_of_strip_eq nonempty oneLine stripped⟩

theorem attempt_of_line (generation : Generation) {config : Config} (allowed : config.maxBoost ≤ 9)
    (start : Position) {source text : String} {number : Nat}
    (line : effectiveLines source = [(number, text)]) :
    let robot := Robot.spawn generation start config
    attempt generation config start source
      = .ok ⟨[(number, robot.runOf text)],
        .scriptLine number text :: (robot.execute text).events⟩ := by
  intro robot
  rw [attempt_of_le generation allowed, line, follow, follow, List.append_nil]
  rfl

end Script

/-! ## Agreement -/

/-- **Agreement.** A fresh robot of the default configuration ends up at the same place, however it
is told to follow a text. Under every configuration that makes sense, a run and a script of one
line have the same outcome, which is what the robot shows after one call. -/
theorem entryPoints_agree (generation : Generation) (start : Position) (text : String) :
    let destination := control generation start text
    let placed := RobotModel.place generation.Model start
    RobotModel.destination generation.Model start text = destination
      ∧ (RobotModel.reading (RobotModel.execute placed text).robot).position = destination
      ∧ (∃ run, Run.attempt generation {} start text = .ok run ∧ run.value.position = destination)
      ∧ (∀ source number, Script.effectiveLines source = [(number, text)] →
        ∃ runs run, Script.attempt generation {} start source = .ok runs
          ∧ runs.value = [(number, run)] ∧ run.position = destination)
      ∧ ((∃ source number, Script.effectiveLines source = [(number, text)])
        ↔ text ≠ "" ∧ '\n' ∉ text.toList ∧ Script.strip text.toList = text.toList)
      ∧ ∀ config : Config, config.maxBoost ≤ 9 →
          let execution := (Robot.spawn generation start config).execute text
          let run := Run.capture execution.robot execution.report
          Run.attempt generation config start text = .ok ⟨run, execution.events⟩
            ∧ ∀ source number, Script.effectiveLines source = [(number, text)] →
                Script.attempt generation config start source
                  = .ok ⟨[(number, run)], .scriptLine number text :: execution.events⟩ := by
  intro destination placed
  have allowed : ({} : Config).maxBoost ≤ 9 := by decide
  -- Where a placed robot ends up is what `RobotModel.destination` stands for.
  have static : RobotModel.destination generation.Model start text = destination :=
    (control_eq_destination generation start text).symm
  refine ⟨static, static, ?_, ?_, Script.exists_source_iff text, ?_⟩
  · exact ⟨_, Run.attempt_of_le generation allowed start text, rfl⟩
  · intro source number line
    exact ⟨_, _, Script.attempt_of_line generation allowed start line, rfl, rfl⟩
  · intro config allowed execution run
    refine ⟨Run.attempt_of_le generation allowed start text, ?_⟩
    intro source number line
    exact Script.attempt_of_line generation allowed start line

/-- A line with blanks, a comment and a carriage return, and a start outside of the quadrant. -/
theorem entryPoints_agree_commented :
    let config : Config := { initialFuel := 12, maxBoost := 9 }
    let start : Position := ⟨.zero, { val := -4 }⟩
    let source := "# up\r\n\t9F 5F  # and on\r\n\n"
    let run := (Robot.spawn .mk3 start config).runOf "9F 5F"
    config.maxBoost ≤ 9
      ∧ Script.effectiveLines source = [(2, "9F 5F")]
      ∧ run.toReading = ⟨⟨.zero, { val := 12 }⟩, some .forward, some 0⟩
      ∧ (∃ events, Script.attempt .mk3 config start source = .ok ⟨[(2, run)], events⟩)
      ∧ (∃ runs run, Script.attempt .mk3 {} start source = .ok runs
        ∧ runs.value = [(2, run)] ∧ run.position = control .mk3 start "9F 5F") := by
  intro config start source run
  have line : Script.effectiveLines source = [(2, "9F 5F")] := by decide
  obtain ⟨-, -, -, script, -, allowing⟩ := entryPoints_agree .mk3 start "9F 5F"
  obtain ⟨-, scripted⟩ := allowing config (by decide)
  exact ⟨by decide, line, by decide, ⟨_, scripted source 2 line⟩, script source 2 line⟩

end GridRobot
