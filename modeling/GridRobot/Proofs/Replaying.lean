import GridRobot.Proofs.Partition

/-! # Replaying a text

Characters that a generation does not understand change nothing in a robot, so a text without them
(`Generation.essence`) leads to the same robot, and the report on it is the report on the whole text
condensed: nothing ignored, no warnings, and the steps counted anew (`Report.condensed`). A robot
that records its steps keeps exactly the characters of the essence, so its trace can be followed
again as a text (`execute_essence`). -/

namespace GridRobot

/-! ## Steps counted anew -/

/-- Steps with their own places in the list as indices. -/
def renumbered (steps : List Step) : List Step :=
  steps.mapIdx fun index step => { step with index }

theorem renumbered_delayed (n : Nat) (steps : List Step) :
    renumbered (steps.map (.delayed n)) = renumbered steps := by
  apply List.ext_getElem?
  intro index
  simp [renumbered, Step.delayed, Function.comp_def]

theorem renumbered_cons (step : Step) (steps : List Step) :
    renumbered (step :: steps)
      = { step with index := 0 } :: (renumbered steps).map (.delayed 1) := by
  rw [renumbered, List.mapIdx_cons]
  congr 1
  apply List.ext_getElem?
  intro index
  simp [renumbered, Step.delayed, Function.comp_def]

/-- What is left of a report when nothing was ignored. -/
def Report.condensed (r : Report) : Report where
  executed := r.executed
  steps := renumbered r.steps

/-! ## Without what is ignored -/

namespace Interpreter

variable {σ : Type} {i : Interpreter σ} (takes : i.TakesUnderstood)

include takes

theorem run_filter (state : σ) (cs : List Char) :
    i.run state (cs.filter i.generation.names) = i.run state cs := by
  induction cs generalizing state with
  | nil => rfl
  | cons c cs ih =>
    cases named : i.generation.names c with
    | true => rw [List.filter_cons_of_pos named, run_cons, run_cons, ih]
    | false =>
      have ignored : i.generation.understands (.decode c) = false := by
        rw [← named, Generation.names_eq_understands]
      rw [List.filter_cons_of_neg (Bool.eq_false_iff.mp named), run_cons,
        advance_of_ignored takes ignored, ih]

theorem report_filter (recordTrace : Bool) (state : σ) (cs : List Char) :
    i.report recordTrace state (cs.filter i.generation.names)
      = (i.report recordTrace state cs).condensed := by
  induction cs generalizing state with
  | nil => rfl
  | cons c cs ih =>
    rw [report_cons takes recordTrace state c cs]
    cases named : i.generation.names c with
    | true =>
      have understood : i.generation.understands (.decode c) = true := by
        rw [← named, Generation.names_eq_understands]
      rw [List.filter_cons_of_pos named, report_cons takes, ih,
        Generation.noted_of_understood _ _ understood]
      cases recordTrace with
      -- The first step has index zero already, and the later ones follow it.
      | true =>
        ext1 <;> simp [Report.condensed, Report.delayed, renumbered_cons, renumbered_delayed]
      | false =>
        ext1 <;> simp [Report.condensed, Report.delayed, renumbered, report_steps_of_untraced takes]
    | false =>
      have ignored : i.generation.understands (.decode c) = false := by
        rw [← named, Generation.names_eq_understands]
      rw [List.filter_cons_of_neg (Bool.eq_false_iff.mp named), advance_of_ignored takes ignored,
        ih, Generation.noted_of_ignored _ _ ignored]
      ext1 <;> simp [Report.condensed, Report.delayed, renumbered_delayed]

end Interpreter

/-! ## Robots of any generation -/

/-- What a generation understands of a text. -/
def Generation.essence (generation : Generation) (text : String) : String :=
  String.ofList (text.toList.filter generation.names)

namespace Robot

variable (robot : Robot) (text : String)

theorem execute_essence_robot :
    (robot.execute (robot.generation.essence text)).robot = (robot.execute text).robot := by
  cases robot with
  | mk1 r =>
    apply congrArg mk1
    rw [Mk1.execute_robot, Mk1.execute_robot, Generation.essence, String.toList_ofList]
    exact Interpreter.run_filter Mk1.takesUnderstood r text.toList
  | mk2 r =>
    apply congrArg mk2
    rw [Mk2.execute_robot, Mk2.execute_robot, Generation.essence, String.toList_ofList]
    exact Interpreter.run_filter Mk2.takesUnderstood r text.toList
  | mk3 r =>
    apply congrArg mk3
    rw [Mk3.execute_robot, Mk3.execute_robot, Generation.essence, String.toList_ofList]
    exact congrArg BoostedMk3.robot
      (Interpreter.run_filter BoostedMk3.takesUnderstood { robot := r } text.toList)

theorem execute_essence_report :
    (robot.execute (robot.generation.essence text)).report
      = (robot.execute text).report.condensed := by
  obtain ⟨σ, i, start, plays⟩ := robot.exists_plays
  rw [plays.report, plays.report, Generation.essence, String.toList_ofList, ← plays.generation,
    Interpreter.report_filter plays.takes]

/-- The steps hold the text of what was understood. -/
theorem execute_steps_essence (traced : robot.recordTrace = true) :
    String.ofList ((robot.execute text).report.steps.map fun step => step.instruction.toChar)
      = robot.generation.essence text := by
  have characters := congrArg (List.map Prod.fst) (robot.execute_steps_located text traced)
  rw [List.map_map, map_fst_located] at characters
  exact congrArg String.ofList characters

/-- What is not understood may stand anywhere, also between a boost and the move that uses it. -/
theorem execute_inserted (before noise after : String)
    (ignored : ∀ c ∈ noise.toList, robot.generation.names c = false) :
    (robot.execute (before ++ noise ++ after)).robot = (robot.execute (before ++ after)).robot := by
  have nothing : noise.toList.filter robot.generation.names = [] :=
    List.filter_eq_nil_iff.mpr fun c member => Bool.eq_false_iff.mp (ignored c member)
  have same : robot.generation.essence (before ++ noise ++ after)
      = robot.generation.essence (before ++ after) := by
    simp only [Generation.essence, String.toList_append, List.filter_append, nothing,
      List.append_nil]
  rw [← execute_essence_robot, same, execute_essence_robot]

end Robot

/-- **Replay.** What a generation understands of a text leads to the same robot as the text, with
the same count and the same steps, counted anew, and with nothing ignored. A recorded trace holds
just that text. So noise may be put in anywhere. -/
theorem execute_essence (robot : Robot) (text : String) :
    let whole := robot.execute text
    let essence := robot.generation.essence text
    let replay := robot.execute essence
    replay.robot = whole.robot
      ∧ replay.report.executed = whole.report.executed
      ∧ replay.report.ignored = 0
      ∧ replay.report.warnings = []
      ∧ replay.report.steps = whole.report.steps.mapIdx (fun index step => { step with index })
      ∧ (robot.recordTrace = true →
          String.ofList (whole.report.steps.map fun step => step.instruction.toChar) = essence)
      ∧ ∀ before noise after : String,
          (∀ c ∈ noise.toList, robot.generation.names c = false) →
          (robot.execute (before ++ noise ++ after)).robot
            = (robot.execute (before ++ after)).robot := by
  intro whole essence replay
  have report : replay.report = whole.report.condensed := robot.execute_essence_report text
  rw [report]
  exact ⟨robot.execute_essence_robot text, rfl, rfl, rfl, rfl, robot.execute_steps_essence text,
    robot.execute_inserted⟩

/-- Between the digit and its move stand blanks, a letter of several bytes and small letters. -/
theorem execute_essence_interrupted :
    let whole := tracedMk3.execute "f3 é\tbFL"
    let replay := tracedMk3.execute "3FL"
    tracedMk3.recordTrace = true
      ∧ tracedMk3.generation.essence "f3 é\tbFL" = "3FL"
      ∧ whole.robot.position = ⟨.zero, { val := 3 }⟩
      ∧ replay.robot = whole.robot
      ∧ whole.report.steps.map Step.index = [1, 6, 7]
      ∧ replay.report.steps.map Step.index = [0, 1, 2]
      ∧ String.ofList (whole.report.steps.map fun step => step.instruction.toChar) = "3FL"
      ∧ (∀ c ∈ " é\tb".toList, tracedMk3.generation.names c = false)
      ∧ (tracedMk3.execute ("f3" ++ " é\tb" ++ "FL")).robot
        = (tracedMk3.execute ("f3" ++ "FL")).robot := by
  intro whole replay
  have essence : tracedMk3.generation.essence "f3 é\tbFL" = "3FL" := by decide
  have noise : ∀ c ∈ " é\tb".toList, tracedMk3.generation.names c = false := by
    simp [tracedMk3, Robot.generation, Generation.names, Generation.instructionTable, entryNames]
  have replayed := execute_essence tracedMk3 "f3 é\tbFL"
  rw [essence] at replayed
  obtain ⟨robot, -, -, -, -, characters, inserted⟩ := replayed
  exact ⟨rfl, essence, by decide, robot, by decide, by decide, characters rfl, noise,
    inserted "f3" " é\tb" "FL" noise⟩

end GridRobot
