import GridRobot.Proofs.Script.Resuming
import GridRobot.Proofs.Splitting

/-! # A script joined into one text

The lines of a script may be joined and followed in a single call on a fresh robot. What the calls
count adds up to what the single call counts, the fuel burned and the facing come out the same, and
so does the position, unless some line but the last leaves a boost pending (`attempt_joined`). All
of it follows by induction on the lines from what a single split keeps. -/

namespace GridRobot

namespace Robot

theorem execute_empty (robot : Robot) : (robot.execute "").robot = robot := by
  cases robot <;> rfl

/-! ## One call for all texts -/

theorem execute_join_facing_fuel (robot : Robot) (texts : List String) :
    (robot.execute (String.join texts)).robot.reading.orientation
        = (afterAll execute robot texts).reading.orientation
      ∧ (robot.execute (String.join texts)).robot.reading.fuel
        = (afterAll execute robot texts).reading.fuel := by
  induction texts generalizing robot with
  | nil => rw [String.join_nil, execute_empty, afterAll_nil]; exact ⟨rfl, rfl⟩
  | cons text texts ih =>
    rw [String.join_cons, execute_append_orientation, execute_append_fuel, afterAll_cons]
    exact ih (robot.execute text).robot

theorem execute_join_robot (robot : Robot) {texts : List String}
    (free : robot.generation = .mk3 → ∀ text ∈ texts.dropLast, leavesBoost text.toList = false) :
    (robot.execute (String.join texts)).robot = afterAll execute robot texts := by
  induction texts generalizing robot with
  | nil => rw [String.join_nil, execute_empty, afterAll_nil]
  | cons text texts ih =>
    rw [String.join_cons, afterAll_cons, execute_append_robot, ih]
    · rw [execute_generation]
      intro boosts other member
      have more : texts ≠ [] := List.ne_nil_of_mem (List.mem_of_mem_dropLast member)
      apply free boosts other
      rw [List.dropLast_cons_of_ne_nil more]
      exact List.mem_cons_of_mem text member
    -- The joined rest is empty if this is the last line, and then it takes no boost.
    · intro boosts
      cases texts with
      | nil => exact .inr rfl
      | cons next texts => exact .inl (free boosts text List.mem_cons_self)

theorem runs_counts (robot : Robot) (texts : List String) :
    ((robot.runs texts).map fun run => run.report.executed).sum
        = (robot.execute (String.join texts)).report.executed
      ∧ ((robot.runs texts).map fun run => run.report.ignored).sum
        = (robot.execute (String.join texts)).report.ignored := by
  induction texts generalizing robot with
  | nil => cases robot <;> exact ⟨rfl, rfl⟩
  | cons text texts ih =>
    obtain ⟨executed, ignored⟩ := ih (robot.execute text).robot
    have split := robot.execute_append_untraced text (String.join texts)
    rw [String.join_cons, runs, List.map_cons, List.map_cons, List.sum_cons, List.sum_cons,
      executed, ignored]
    exact ⟨(congrArg Report.executed split).symm, (congrArg Report.ignored split).symm⟩

/-! ## The first runs of a script -/

theorem runs_length (robot : Robot) (texts : List String) :
    (robot.runs texts).length = texts.length := by
  induction texts generalizing robot with
  | nil => rfl
  | cons text texts ih => rw [runs, List.length_cons, ih, List.length_cons]

theorem runs_take (robot : Robot) (n : Nat) (texts : List String) :
    (robot.runs texts).take n = robot.runs (texts.take n) := by
  induction texts generalizing robot n with
  | nil => simp [runs]
  | cons text texts ih =>
    cases n with
    | zero => rfl
    | succ n => rw [runs, List.take_succ_cons, ih, List.take_succ_cons, runs]

/-- A run shows the robot after its own text and all texts before. -/
theorem runs_getElem_reading (robot : Robot) {texts : List String} {k : Nat}
    (inside : k < (robot.runs texts).length) :
    (robot.runs texts)[k].toReading = (afterAll execute robot (texts.take (k + 1))).reading := by
  rw [reading_afterAll, ← runs_take, List.getLast?_take, if_neg (Nat.succ_ne_zero k),
    Nat.add_sub_cancel, List.getElem?_eq_getElem inside]
  rfl

end Robot

theorem Robot.spawn_generation (generation : Generation) (start : Position) (config : Config) :
    (Robot.spawn generation start config).generation = generation := by
  cases generation <;> rfl

namespace Script

theorem follow_length (robot : Robot) (lines : List (Nat × String)) :
    (follow robot lines).value.length = lines.length := by
  rw [← (follow robot lines).value.length_map Prod.snd, follow_runs, Robot.runs_length,
    List.length_map]

theorem follow_take_runs (robot : Robot) (lines : List (Nat × String)) (n : Nat) :
    ((follow robot lines).value.take n).map Prod.snd
      = robot.runs ((lines.map Prod.snd).take n) := by
  rw [List.map_take, follow_runs, Robot.runs_take]

theorem follow_getElem_reading (robot : Robot) (lines : List (Nat × String)) {k : Nat}
    (inside : k < (follow robot lines).value.length) :
    (follow robot lines).value[k].2.toReading
      = (afterAll Robot.execute robot ((lines.map Prod.snd).take (k + 1))).reading := by
  have captured := follow_runs robot lines
  have inRuns : k < (robot.runs (lines.map Prod.snd)).length := by
    rwa [← captured, List.length_map]
  rw [← Robot.runs_getElem_reading robot inRuns]
  simp only [← captured, List.getElem_map]

/-- **One call for the first lines of a script.** What run `k` shows against what one call shows
that has the texts of the lines up to and with its own joined. -/
theorem attempt_joined (generation : Generation) (config : Config)
    (allowed : config.maxBoost ≤ 9) (start : Position) (source : String) (k : Nat)
    (inside : k < (effectiveLines source).length) :
    ∃ runs number run single,
      attempt generation config start source = .ok runs
        ∧ runs.value[k]? = some (number, run)
        ∧ Run.attempt generation config start (String.join ((texts source).take (k + 1)))
          = .ok single
        ∧ run.orientation = single.value.orientation
        ∧ run.fuel = single.value.fuel
        ∧ ((runs.value.take (k + 1)).map fun (_, run) => run.report.executed).sum
          = single.value.report.executed
        ∧ ((runs.value.take (k + 1)).map fun (_, run) => run.report.ignored).sum
          = single.value.report.ignored
        ∧ ((generation = .mk3 → ∀ text ∈ (texts source).take k, leavesBoost text.toList = false) →
          run.position = single.value.position) := by
  let robot := Robot.spawn generation start config
  let runs := (follow robot (effectiveLines source)).value
  let upTo := (texts source).take (k + 1)
  have inRuns : k < runs.length := by
    rwa [follow_length]
  have shows : runs[k].2.toReading = (afterAll Robot.execute robot upTo).reading :=
    follow_getElem_reading robot _ inRuns
  have taken : (runs.take (k + 1)).map Prod.snd = robot.runs upTo := follow_take_runs robot _ _
  obtain ⟨facing, fuel⟩ := robot.execute_join_facing_fuel upTo
  obtain ⟨executed, ignored⟩ := robot.runs_counts upTo
  rw [← taken, List.map_map] at executed ignored
  refine ⟨_, runs[k].1, runs[k].2, _, attempt_of_le generation allowed start source,
    List.getElem?_eq_getElem inRuns, Run.attempt_of_le generation allowed start _,
    (congrArg Reading.orientation shows).trans facing.symm,
    (congrArg Reading.fuel shows).trans fuel.symm, executed, ignored, ?_⟩
  intro free
  have inTexts : k < (texts source).length := by
    rwa [texts, List.length_map]
  have before : upTo.dropLast = (texts source).take k := by
    have bound : min (min (k + 1) (texts source).length - 1) (k + 1) = k := by omega
    rw [List.dropLast_eq_take, List.length_take, List.take_take, bound]
  have same : (robot.execute (String.join upTo)).robot = afterAll Robot.execute robot upTo := by
    apply robot.execute_join_robot
    rw [before, Robot.spawn_generation]
    exact free
  calc runs[k].2.position = (afterAll Robot.execute robot upTo).position :=
        congrArg Reading.position shows
    _ = (robot.execute (String.join upTo)).robot.position := by rw [same]

/-- The first line leaves no boost. The second leaves one, which its own run has no use for. -/
theorem attempt_joined_pendingLast :
    (({} : Config).maxBoost ≤ 9)
      ∧ texts "4F\r\n # up\n 3x\nF" = ["4F", "3x", "F"]
      ∧ ∃ runs number run single,
          attempt .mk3 {} .origin "4F\r\n # up\n 3x\nF" = .ok runs
            ∧ runs.value[1]? = some (number, run)
            ∧ Run.attempt .mk3 {} .origin
                (String.join ((texts "4F\r\n # up\n 3x\nF").take 2)) = .ok single
            ∧ run.fuel = single.value.fuel
            ∧ run.position = single.value.position := by
  refine ⟨by decide, by decide, ?_⟩
  obtain ⟨runs, number, run, single, whole, found, joined, -, fuel, -, -, position⟩ :=
    attempt_joined .mk3 {} (by decide) .origin "4F\r\n # up\n 3x\nF" 1 (by decide)
  exact ⟨runs, number, run, single, whole, found, joined, fuel, position fun _ => by decide⟩

end Script
end GridRobot
