import GridRobot.Proofs.Influence
import GridRobot.Proofs.Partition

/-! # What is logged

An execution makes a report and a list of events on the way, and the two say the same
(`execute_events`). One character makes one event at most (`Generation.announced`): a step if the
generation understands it, a warning if it does not and warns. From the events of each level the
report is read off again, the steps even if it does not record them; the last event sums up the
execution. -/

namespace GridRobot

/-! ## The event of one character -/

/-- The event that a character makes, if any. `reading` is what the robot shows afterwards. -/
def Generation.announced (generation : Generation) (reading : Reading) (index : Nat) (c : Char) :
    Option Event :=
  if generation.understands (.decode c) then
    some (.stepped generation { reading with index, instruction := .decode c })
  else if generation.warns then some (.badInstruction { index, character := c })
  else none

namespace Generation

variable (generation : Generation) {c : Char} (reading : Reading) (index : Nat)

theorem announced_of_understood (understood : generation.understands (.decode c) = true) :
    generation.announced reading index c
      = some (.stepped generation { reading with index, instruction := .decode c }) :=
  if_pos understood

theorem announced_of_ignored (ignored : generation.understands (.decode c) = false) :
    generation.announced reading index c
      = if generation.warns then some (.badInstruction { index, character := c }) else none :=
  if_neg (Bool.not_eq_true _ ▸ ignored)

/-- What is left of the event of a character if only the events of one level are kept. -/
theorem filter_announced (c : Char) (level : Level) :
    (generation.announced reading index c).filter (fun event => event.level = level)
      = if generation.understands (.decode c) then
          if level = .trace then
            some (.stepped generation { reading with index, instruction := .decode c })
          else none
        else if generation.warns && level = .warn then
          some (.badInstruction { index, character := c })
        else none := by
  unfold announced
  split
  · cases level <;> rfl
  · cases generation.warns <;> cases level <;> rfl

end Generation

/-! ## The events of a text -/

namespace Interpreter

variable {σ : Type} {i : Interpreter σ} (takes : i.TakesUnderstood) (recordTrace : Bool)

include takes

theorem follow_events_cons (state : σ) (index : Nat) (c : Char) (cs : List Char) :
    (i.follow recordTrace state index (c :: cs)).events
      = (i.generation.announced (i.reading (i.advance state c)) index c).toList
        ++ (i.follow recordTrace (i.advance state c) (index + 1) cs).events := by
  have understood := takes state (.decode c)
  rw [follow, advance]
  cases step : i.step state (.decode c) with
  | some next =>
    rw [step, Option.isSome_some] at understood
    rw [Generation.announced_of_understood _ _ _ understood.symm]
    rfl
  | none =>
    rw [step, Option.isSome_none] at understood
    rw [Generation.announced_of_ignored _ _ _ understood.symm, Instruction.toChar_decode]
    cases i.generation.warns <;> rfl

/-- The events of the characters that come after `before`. -/
theorem follow_events_after (start : σ) (before cs : List Char) :
    (i.follow recordTrace (i.run start before) before.length cs).events
      = (cs.zipIdx before.length).filterMap fun (c, index) =>
          i.generation.announced (i.reading (i.run start ((before ++ cs).take (index + 1)))) index
            c := by
  -- What a robot shows depends on all characters so far, so those before are part of the statement.
  induction cs generalizing before with
  | nil => rfl
  | cons c cs ih =>
    have shown : i.reading (i.run start ((before ++ c :: cs).take (before.length + 1)))
        = i.reading (i.advance (i.run start before) c) := by
      rw [List.take_length_add_append, run_append]
      rfl
    have rest := ih (before ++ [c])
    rw [List.append_assoc, List.singleton_append, List.length_append, List.length_singleton,
      run_append, run_cons, run_nil] at rest
    rw [follow_events_cons takes, rest, List.zipIdx_cons, List.filterMap_cons]
    simp only [shown]
    cases i.generation.announced (i.reading (i.advance (i.run start before) c)) before.length c with
    | none => rfl
    | some event => rfl

theorem follow_events (start : σ) (cs : List Char) :
    (i.follow recordTrace start 0 cs).events
      = cs.zipIdx.filterMap fun (c, index) =>
          i.generation.announced (i.reading (i.run start (cs.take (index + 1)))) index c :=
  follow_events_after takes recordTrace start [] cs

end Interpreter

/-! ## The events of an execution -/

namespace Robot

/-- What is in the tank. Robots without one have no fuel. -/
def tank (robot : Robot) : UInt32 :=
  robot.reading.fuel.getD 0

/-- How an execution of a robot is summed up: the first generation counts its warnings, the others
what they ignored in silence. -/
def summaryOf (robot : Robot) (execution : Execution Robot) : Summary :=
  let report := execution.report
  match execution.robot with
  | mk1 r => .mk1 report.executed report.warnings.length r.position
  | mk2 r => .mk2 report.executed report.ignored r.position r.orientation
  | mk3 r => .mk3 report.executed report.ignored r.position (robot.tank - r.fuel) r.fuel

variable (robot : Robot) (text : String)

/-- The events of the characters, in input order. -/
def announcements : List Event :=
  text.toList.zipIdx.filterMap fun (c, index) =>
    robot.generation.announced (robot.afterFirst (index + 1) text).reading index c

theorem follow_events_of_plays {robot : Robot} {σ : Type} {i : Interpreter σ} {start : σ}
    (plays : robot.Plays i start) (recordTrace : Bool) (text : String) :
    (i.follow recordTrace start 0 text.toList).events = robot.announcements text := by
  rw [Interpreter.follow_events plays.takes, announcements, plays.generation]
  simp only [afterFirst, plays.reading, String.toList_ofList]

theorem execute_announcements :
    (robot.execute text).events
      = robot.announcements text ++ [.finished (robot.summaryOf (robot.execute text))] := by
  cases robot with
  | mk1 r =>
    rw [← follow_events_of_plays (plays_mk1 r) r.recordTrace]
    rfl
  | mk2 r =>
    rw [← follow_events_of_plays (plays_mk2 r) r.recordTrace]
    rfl
  | mk3 r =>
    rw [← follow_events_of_plays (plays_mk3 r) r.recordTrace]
    rfl

/-! ### Level by level -/

/-- Whether steps are recorded shows in no reading. -/
theorem reading_afterFirst_traced (recordTrace : Bool) (n : Nat) :
    ((robot.traced recordTrace).afterFirst n text).reading = (robot.afterFirst n text).reading := by
  rw [afterFirst, execute_traced, reading_traced, afterFirst]

theorem announcements_traced (recordTrace : Bool) :
    (robot.traced recordTrace).announcements text = robot.announcements text := by
  simp only [announcements, generation_traced, reading_afterFirst_traced]

/-- The traces are the steps that the robot would record. -/
theorem announcements_trace :
    (robot.announcements text).filter (fun event => event.level = .trace)
      = ((robot.traced true).execute text).report.steps.map (.stepped robot.generation) := by
  rw [(robot.traced true).execute_report_steps (robot.recordTrace_traced true), generation_traced,
    List.map_map, Generation.understood, located, ← List.filterMap_eq_map, List.filterMap_filter,
    announcements, List.filter_filterMap]
  refine List.filterMap_congr ?_
  rintro ⟨c, index⟩ -
  refine (robot.generation.filter_announced _ index c .trace).trans ?_
  -- The steps are those of the robot that records, the events those of the robot as it is set.
  rw [← robot.reading_afterFirst_traced text true]
  simp

theorem announcements_warn :
    (robot.announcements text).filter (fun event => event.level = .warn)
      = (robot.execute text).report.warnings.map .badInstruction := by
  rw [execute_warnings, announcements, List.filter_filterMap, Generation.names_eq_understands]
  cases warns : robot.generation.warns with
  | true =>
    rw [if_pos rfl, List.map_map, located, ← List.filterMap_eq_map, List.filterMap_filter]
    refine List.filterMap_congr ?_
    rintro ⟨c, index⟩ -
    refine (robot.generation.filter_announced _ index c .warn).trans ?_
    cases understood : robot.generation.understands (.decode c) <;> simp [warns, understood]
  | false =>
    rw [if_neg Bool.false_ne_true, List.map_nil, List.filterMap_eq_nil_iff]
    rintro ⟨c, index⟩ -
    refine (robot.generation.filter_announced _ index c .warn).trans ?_
    simp [warns]

theorem announcements_debug :
    (robot.announcements text).filter (fun event => event.level = .debug) = [] := by
  rw [announcements, List.filter_filterMap, List.filterMap_eq_nil_iff]
  rintro ⟨c, index⟩ -
  refine (robot.generation.filter_announced _ index c .debug).trans ?_
  simp

/-- Two robots that differ in whether they record their steps sum up alike. -/
theorem summaryOf_traced (recordTrace : Bool) :
    (robot.traced recordTrace).summaryOf ((robot.traced recordTrace).execute text)
      = robot.summaryOf (robot.execute text) := by
  have tank : (robot.traced recordTrace).tank = robot.tank := by
    rw [Robot.tank, reading_traced, Robot.tank]
  have untraced : ((robot.traced recordTrace).execute text).report.untraced
      = (robot.execute text).report.untraced := by
    rw [execute_untraced, execute_untraced, generation_traced]
  have executed := congrArg Report.executed untraced
  have ignored := congrArg Report.ignored untraced
  have warnings := congrArg Report.warnings untraced
  simp only [Report.untraced] at executed ignored warnings
  simp only [summaryOf, execute_traced, tank, executed, ignored, warnings]
  cases (robot.execute text).robot <;> rfl

theorem execute_traced_events (recordTrace : Bool) :
    ((robot.traced recordTrace).execute text).events = (robot.execute text).events := by
  rw [execute_announcements, execute_announcements, announcements_traced, summaryOf_traced]

theorem execute_steps_eq :
    (robot.execute text).report.steps
      = if robot.recordTrace then ((robot.traced true).execute text).report.steps else [] := by
  cases traced : robot.recordTrace with
  | true => rw [if_pos rfl, ← traced, traced_self]
  | false => rw [if_neg Bool.false_ne_true, robot.execute_steps_of_untraced traced]

end Robot

/-- **The log and the report agree.** The events are those of the characters, in input order, and
one more that sums the execution up. The traces are the steps in the report, or those that would be
in it if the robot recorded its steps, which makes no difference to the events. The warnings are
those in the report, and only the first generation has any. -/
theorem execute_events (robot : Robot) (text : String) :
    let execution := robot.execute text
    let report := execution.report
    let steps := ((robot.traced true).execute text).report.steps
    execution.events
        = (text.toList.zipIdx.filterMap fun (c, index) =>
            robot.generation.announced (robot.afterFirst (index + 1) text).reading index c)
          ++ [.finished (robot.summaryOf execution)]
      ∧ execution.events.filter (fun event => event.level = .trace)
        = steps.map (.stepped robot.generation)
      ∧ report.steps = (if robot.recordTrace then steps else [])
      ∧ (∀ recordTrace, ((robot.traced recordTrace).execute text).events = execution.events)
      ∧ execution.events.filter (fun event => event.level = .warn)
        = report.warnings.map .badInstruction
      ∧ (robot.generation ≠ .mk1 → report.warnings = [])
      ∧ execution.events.filter (fun event => event.level = .debug)
        = [.finished (robot.summaryOf execution)] := by
  intro execution report steps
  have events : execution.events
      = robot.announcements text ++ [.finished (robot.summaryOf execution)] :=
    robot.execute_announcements text
  refine ⟨events, ?_, robot.execute_steps_eq text, ?_, ?_, ?_, ?_⟩
  · rw [events, List.filter_append, robot.announcements_trace]
    exact List.append_nil _
  · intro recordTrace
    exact robot.execute_traced_events text recordTrace
  · rw [events, List.filter_append, robot.announcements_warn]
    exact List.append_nil _
  · intro later
    change (robot.execute text).report.warnings = []
    rw [robot.execute_warnings text, if_neg]
    exact fun warns => later (robot.generation.warns_iff.mp warns)
  · rw [events, List.filter_append, robot.announcements_debug]
    rfl

/-- A robot of the third generation that records nothing, with a tank that the second digit
empties. Its events tell of every step all the same, and of no warning. -/
theorem execute_events_unrecorded :
    let robot : Robot := .mk3 ⟨.origin, .right, 6, 5, false⟩
    let execution := robot.execute "é4F9"
    let steps : List Step :=
      [{ position := .origin, orientation := some .right, fuel := some 2, index := 1,
         instruction := .boost 4 },
       { position := ⟨{ val := 4 }, .zero⟩, orientation := some .right, fuel := some 2, index := 2,
         instruction := .forward },
       { position := ⟨{ val := 4 }, .zero⟩, orientation := some .right, fuel := some 0, index := 3,
         instruction := .boost 9 }]
    robot.generation ≠ .mk1
      ∧ execution.report.steps = []
      ∧ execution.report.warnings = []
      ∧ execution.events
        = steps.map (.stepped .mk3) ++ [.finished (.mk3 3 1 ⟨{ val := 4 }, .zero⟩ 6 0)]
      ∧ execution.events.filter (fun event => event.level = .trace)
        = steps.map (.stepped .mk3) := by
  intro robot execution steps
  have later : robot.generation ≠ .mk1 := by decide
  obtain ⟨events, traces, recorded, -, -, silent, -⟩ := execute_events robot "é4F9"
  have made : ((robot.traced true).execute "é4F9").report.steps = steps := by decide
  rw [made] at traces
  exact ⟨later, recorded, silent later, events.trans (by decide), traces⟩

end GridRobot
