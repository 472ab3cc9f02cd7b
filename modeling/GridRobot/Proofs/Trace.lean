import GridRobot.Proofs.Reporting
import Mathlib

/-! # Recorded steps

A robot that records its steps keeps one for each character that its generation understands, and
each of them shows what another robot would show that had followed the text only as far as that
character (`execute_steps`). The text on which the other robot stops is a call of its own, so this
ties every record of one execution to the end of another. -/

namespace GridRobot

/-! ## Which characters leave a step -/

/-- The characters that a generation understands, each with its index in the text. -/
def Generation.understood (generation : Generation) (cs : List Char) : List (Char × Nat) :=
  located (fun c => generation.understands (.decode c)) cs

theorem zipIdx_pairwise (cs : List Char) : cs.zipIdx.Pairwise fun p q => p.2 < q.2 := by
  rw [← List.pairwise_map (f := Prod.snd) (R := (· < ·)), List.zipIdx_map_snd]
  exact List.pairwise_lt_range'

theorem located_pairwise (p : Char → Bool) (cs : List Char) :
    (located p cs).Pairwise fun p q => p.2 < q.2 :=
  (zipIdx_pairwise cs).filter _

/-! ## The steps of a text -/

namespace Interpreter

variable {σ : Type} {i : Interpreter σ} (takes : i.TakesUnderstood)

include takes

/-- One step for each character understood. Its reading is that of the state after the text up to
and with the character. -/
theorem report_steps (state : σ) (cs : List Char) :
    (i.report true state cs).steps
      = (i.generation.understood cs).map fun (c, index) =>
          { i.reading (i.run state (cs.take (index + 1))) with
            index, instruction := .decode c } := by
  induction cs generalizing state with
  | nil => rfl
  | cons c cs ih =>
    have later : ((i.report true (i.advance state c) cs).delayed 1).steps
        = ((i.generation.understood cs).map fun (d, index) => (d, index + 1)).map
            fun (d, index) =>
              { i.reading (i.run state ((c :: cs).take (index + 1))) with
                index, instruction := .decode d } := by
      rw [Report.delayed, ih, List.map_map, List.map_map]
      rfl
    rw [report_cons takes, Report.steps_append, Generation.understood, located_cons,
      List.map_append, later]
    cases understood : i.generation.understands (.decode c) with
    | true => rw [Generation.noted_of_understood _ _ understood]; rfl
    | false => rw [Generation.noted_of_ignored _ _ understood]; rfl

theorem report_steps_of_untraced (state : σ) (cs : List Char) :
    (i.report false state cs).steps = [] := by
  induction cs generalizing state with
  | nil => rfl
  | cons c cs ih =>
    have later : ((i.report false (i.advance state c) cs).delayed 1).steps = [] := by
      rw [Report.delayed, ih, List.map_nil]
    rw [report_cons takes, Report.steps_append, later, List.append_nil]
    cases understood : i.generation.understands (.decode c) with
    | true => rw [Generation.noted_of_understood _ _ understood]; rfl
    | false => rw [Generation.noted_of_ignored _ _ understood]

theorem report_concat (recordTrace : Bool) (state : σ) (cs : List Char) (c : Char) :
    i.report recordTrace state (cs ++ [c])
      = i.report recordTrace state cs
        ++ i.generation.noted recordTrace (i.reading (i.run state (cs ++ [c]))) cs.length c := by
  have last : i.report recordTrace (i.run state cs) [c]
      = i.generation.noted recordTrace (i.reading (i.run state (cs ++ [c]))) 0 c := by
    rw [report_cons takes, run_append]
    exact Report.append_empty _
  rw [report_append takes, last, ← Generation.noted_delayed, Nat.zero_add]

/-- The last step shows the state that the whole text leads to: what comes after it is ignored. -/
theorem report_getLast_step (state : σ) (cs : List Char) :
    ∀ step ∈ (i.report true state cs).steps.getLast?,
      step.toReading = i.reading (i.run state cs) := by
  -- From the end of the text, since what is last there is either the last step or changes nothing.
  induction cs using List.reverseRecOn with
  | nil => simp [report, follow]
  | append_singleton cs c ih =>
    rw [report_concat takes, Report.steps_append]
    cases understood : i.generation.understands (.decode c) with
    | true =>
      rw [Generation.noted_of_understood _ _ understood, if_pos rfl, List.getLast?_concat]
      rintro _ ⟨⟩
      rfl
    | false =>
      rw [Generation.noted_of_ignored _ _ understood, List.append_nil, run_append, run_cons,
        run_nil, advance_of_ignored takes understood]
      exact ih

end Interpreter

/-! ## The steps of an execution -/

namespace Robot

theorem reading_orientation_isSome (robot : Robot) :
    robot.reading.orientation.isSome ↔ robot.generation ≠ .mk1 := by
  cases robot <;> simp [reading, generation, Mk1.reading, Mk2.reading, Mk3.reading]

theorem reading_fuel_isSome (robot : Robot) :
    robot.reading.fuel.isSome ↔ robot.generation = .mk3 := by
  cases robot <;> simp [reading, generation, Mk1.reading, Mk2.reading, Mk3.reading]

/-- The robot after the first `n` characters of a text, followed in one call. -/
def afterFirst (robot : Robot) (n : Nat) (text : String) : Robot :=
  (robot.execute (String.ofList (text.toList.take n))).robot

theorem execute_report_steps (robot : Robot) (traced : robot.recordTrace = true) (text : String) :
    (robot.execute text).report.steps
      = (robot.generation.understood text.toList).map fun (c, index) =>
          { (robot.afterFirst (index + 1) text).reading with index, instruction := .decode c } := by
  obtain ⟨σ, i, start, plays⟩ := robot.exists_plays
  rw [plays.report, traced, Interpreter.report_steps plays.takes, plays.generation]
  simp only [afterFirst, plays.reading, String.toList_ofList]

theorem execute_steps_of_untraced (robot : Robot) (untraced : robot.recordTrace = false)
    (text : String) : (robot.execute text).report.steps = [] := by
  obtain ⟨σ, i, start, plays⟩ := robot.exists_plays
  rw [plays.report, untraced, Interpreter.report_steps_of_untraced plays.takes]

end Robot

/-- **Faithful trace.** There is one step for each character understood, and it shows what a robot
shows that stopped there. -/
theorem execute_steps (robot : Robot) (traced : robot.recordTrace = true) (text : String) :
    let steps := (robot.execute text).report.steps
    steps
        = (robot.generation.understood text.toList).map (fun (c, index) =>
            { (robot.afterFirst (index + 1) text).reading with index, instruction := .decode c })
      ∧ steps.Pairwise (fun s t => s.index < t.index)
      ∧ (∀ step ∈ steps.getLast?, step.toReading = (robot.execute text).robot.reading)
      ∧ ∀ step ∈ steps, (step.orientation.isSome ↔ robot.generation ≠ .mk1)
          ∧ (step.fuel.isSome ↔ robot.generation = .mk3) := by
  intro steps
  have each := robot.execute_report_steps traced text
  refine ⟨each, ?_, ?_, ?_⟩
  · change (robot.execute text).report.steps.Pairwise _
    rw [each, List.pairwise_map]
    exact located_pairwise _ text.toList
  · obtain ⟨σ, i, start, plays⟩ := robot.exists_plays
    intro step last
    change step ∈ (robot.execute text).report.steps.getLast? at last
    rw [plays.report, traced] at last
    rw [plays.reading]
    exact Interpreter.report_getLast_step plays.takes start text.toList step last
  · intro step member
    change step ∈ (robot.execute text).report.steps at member
    rw [each] at member
    obtain ⟨⟨c, index⟩, -, rfl⟩ := List.mem_map.mp member
    have same : (robot.afterFirst (index + 1) text).generation = robot.generation :=
      robot.execute_generation _
    rw [← same]
    exact ⟨Robot.reading_orientation_isSome _, Robot.reading_fuel_isSome _⟩

/-- A robot of the third generation that records its steps. -/
def tracedMk3 : Robot :=
  .mk3 ⟨.origin, .forward, 9, 5, true⟩

/-- Characters that are not understood stand before and between the steps. -/
theorem execute_steps_tracedMk3 :
    tracedMk3.recordTrace = true
      ∧ tracedMk3.generation.understood "é7xFR".toList = [('7', 1), ('F', 3), ('R', 4)]
      ∧ (tracedMk3.execute "é7xFR").report.steps
        = [('7', 1), ('F', 3), ('R', 4)].map fun (c, index) =>
            { (tracedMk3.afterFirst (index + 1) "é7xFR").reading with
              index, instruction := .decode c } := by
  have characters : tracedMk3.generation.understood "é7xFR".toList
      = [('7', 1), ('F', 3), ('R', 4)] := by decide
  have steps := (execute_steps tracedMk3 rfl "é7xFR").1
  rw [characters] at steps
  exact ⟨rfl, characters, steps⟩

end GridRobot
