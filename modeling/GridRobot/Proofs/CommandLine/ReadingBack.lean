import GridRobot.Proofs.CommandLine.Failing
import GridRobot.Proofs.Json.Framing
import GridRobot.Proofs.Wire.InRange

/-! # What is printed is read back

A command that succeeds prints its result and nothing else, so a reader of the printed text gets
the result back (`perform_readBack`). A position is printed in one line, after the number of its
line if a script is followed; a run that is printed in full takes several lines, but ends by
itself. -/

namespace GridRobot.CommandLine

/-! ## Readers of printed texts -/

/-- Reads a line that has a number before a position. -/
def readNumbered? (line : List Char) : Option (Nat × Position) :=
  match line.dropWhile Char.isDigit with
  | ':' :: ' ' :: written => do
    let number ← Json.Number.digits? (line.takeWhile Char.isDigit)
    let position ← Document.parse? Position (String.ofList written)
    return (number, position)
  | _ => none

/-- Reads positions, each in a line of its own after a number. -/
def readPositions? (text : String) : Option (List (Nat × Position)) :=
  (Text.lines text.toList).mapM readNumbered?

/-- Reads runs that stand one after another. -/
def readRuns? (text : String) : Option (List Run) :=
  (Json.stream? text).bind fun values => values.mapM Document.ofJson?

/-! ## Numbered lines -/

theorem parse?_compact_position (position : Position) :
    Document.parse? Position (Document.compact position) = some position :=
  Document.parse?_compact position.ofJson?_toJson

/-- A position after a number. -/
def numberedLine (entry : Nat × Position) : List Char :=
  Nat.toDigits 10 entry.1 ++ ':' :: ' ' :: (Document.compact entry.2).toList

theorem readNumbered?_numberedLine (entry : Nat × Position) :
    readNumbered? (numberedLine entry) = some entry := by
  have digits : ∀ c ∈ Nat.toDigits 10 entry.1, c.isDigit = true :=
    fun c member => Json.Number.isDigit_of_mem_toDigits member
  have colon : Json.Number.NoDigitHead (':' :: ' ' :: (Document.compact entry.2).toList) := by
    simp [Json.Number.NoDigitHead]
  rw [numberedLine, readNumbered?, Text.dropWhile_of_stops digits colon,
    Text.takeWhile_of_stops digits colon]
  simp only [Json.Number.digits?_toDigits, String.ofList_toList, parse?_compact_position]
  rfl

theorem noControl_numberedLine (entry : Nat × Position) : Json.NoControl (numberedLine entry) := by
  have digits : Json.NoControl (Nat.toDigits 10 entry.1) :=
    .digits fun c member => Json.Number.isDigit_of_mem_toDigits member
  have colon : Json.NoControl [':', ' '] := by decide
  exact digits.append (colon.append (Json.noControl_compact _))

theorem readPositions?_numberedLines (entries : List (Nat × Position)) :
    readPositions? (String.join (entries.map fun entry =>
        entry.1.repr ++ ": " ++ printed (Document.compact entry.2))) = some entries := by
  have lines : (String.join (entries.map fun entry =>
        entry.1.repr ++ ": " ++ printed (Document.compact entry.2))).toList
      = (entries.map numberedLine).flatMap fun line => line ++ ['\n'] := by
    simp [String.toList_join, List.flatMap_map, printed, numberedLine, Nat.repr]
  have single : ∀ line ∈ entries.map numberedLine, '\n' ∉ line ∧ '\r' ∉ line := by
    intro line member
    obtain ⟨entry, -, rfl⟩ := List.mem_map.mp member
    have noControl := noControl_numberedLine entry
    exact ⟨noControl.newline_not_mem, noControl.return_not_mem⟩
  rw [readPositions?, lines, Text.lines_flatMap single]
  exact Json.mapM_map_of_read fun entry _ => readNumbered?_numberedLine entry

/-! ## Runs in full -/

theorem parse?_printed_pretty {run : Run} (inRange : run.InRange) :
    Document.parse? Run (printed (Document.pretty run)) = some run := by
  have line : printed (Document.pretty run)
      = String.ofList (Json.prettyChars 0 run.toJson ++ ['\n']) := by
    rw [String.ofList_append]
    rfl
  rw [line, Document.parse?, Json.parse?_of_interspersed (Json.interspersed_prettyLine _),
    Option.bind_some]
  exact Run.ofJson?_toJson _ inRange

theorem readRuns?_prettyLines {runs : List Run} (inRange : ∀ run ∈ runs, run.InRange) :
    readRuns? (String.join (runs.map fun run => printed (Document.pretty run))) = some runs := by
  have bracketed : ∀ j ∈ runs.map Run.toJson, j.isBracketed = true := by
    intro j member
    obtain ⟨run, -, rfl⟩ := List.mem_map.mp member
    rfl
  have values : Json.stream? (String.join (runs.map fun run => printed (Document.pretty run)))
      = some (runs.map Run.toJson) := by
    have read := Json.stream?_prettyLines bracketed
    rwa [List.map_map] at read
  rw [readRuns?, values, Option.bind_some]
  exact Json.mapM_map_of_read fun run member => Run.ofJson?_toJson _ (inRange run member)

/-! ## What commands print -/

/-- A single line that reads as the position. -/
structure IsLineOf (line : String) (position : Position) : Prop where
  single : '\n' ∉ line.toList
  read : Document.parse? Position line = some position

/-- Lines that read as positions after numbers. -/
structure PrintsPositions (text : String) (entries : List (Nat × Position)) : Prop where
  lines : text = String.join (entries.map fun (number, position) =>
    number.repr ++ ": " ++ printed (Document.compact position))
  each : ∀ entry ∈ entries, IsLineOf (Document.compact entry.2) entry.2
  whole : readPositions? text = some entries

/-- Texts over several lines that read as runs. -/
structure PrintsRuns (text : String) (runs : List Run) : Prop where
  texts : text = String.join (runs.map fun run => printed (Document.pretty run))
  each : ∀ run ∈ runs, Document.parse? Run (Document.pretty run) = some run
  whole : readRuns? text = some runs

theorem isLineOf_compact (position : Position) :
    IsLineOf (Document.compact position) position where
  single := (Json.noControl_compact _).newline_not_mem
  read := parse?_compact_position position

theorem showRuns_positions (runs : List (Nat × Run)) :
    PrintsPositions (showRuns false runs)
      (runs.map fun (number, run) => (number, run.position)) := by
  have lines : showRuns false runs
      = String.join ((runs.map fun (number, run) => (number, run.position)).map
          fun (number, position) =>
            number.repr ++ ": " ++ printed (Document.compact position)) := by
    rw [List.map_map]
    rfl
  refine ⟨lines, fun entry _ => isLineOf_compact entry.2, ?_⟩
  rw [lines]
  exact readPositions?_numberedLines _

theorem showRuns_full {runs : List (Nat × Run)}
    (inRange : ∀ run ∈ runs.map Prod.snd, run.InRange) :
    PrintsRuns (showRuns true runs) (runs.map Prod.snd) := by
  have texts : showRuns true runs
      = String.join ((runs.map Prod.snd).map fun run => printed (Document.pretty run)) := by
    rw [List.map_map]
    rfl
  refine ⟨texts, fun run member => ?_, ?_⟩
  · exact Document.parse?_pretty (Run.ofJson?_toJson _ (inRange run member))
  · rw [texts]
    exact readRuns?_prettyLines inRange

theorem exit_stdout_of_ok {performance : Performance} {text : String} (verbose : Bool)
    (ok : performance.result = .ok text) : (performance.exit verbose).stdout = text := by
  rw [Performance.exit, ok]

section Stdout

variable (files : FileSystem) (path : Option String) (trace verbose : Bool) (launch : Launch)
  {config : Logged Config} (loaded : loadConfig files path trace = .ok config)

include loaded

theorem perform_run_stdout (text : String) :
    ((perform files ⟨path, trace, verbose, .run launch text⟩).exit verbose).stdout
      = showRun (verbose || config.value.recordTrace)
          ((Robot.spawn launch.generation launch.start config.value).runOf text) :=
  exit_stdout_of_ok verbose (perform_run_of_ok rfl loaded)

theorem perform_script_stdout {file source : String} (read : files file = .ok source) :
    ((perform files ⟨path, trace, verbose, .script launch file⟩).exit verbose).stdout
      = showRuns (verbose || config.value.recordTrace)
          (Script.follow (.spawn launch.generation launch.start config.value)
            (Script.effectiveLines source)).value := by
  apply exit_stdout_of_ok verbose
  rw [perform_script_of_ok rfl loaded]
  exact performScript_result (maxBoost_le_of_loadConfig loaded) launch read verbose

end Stdout

/-- **Reading back.** What a command prints reads as the result that the library gives for the
configuration that was loaded: as positions, or in full if steps are recorded or more is asked for.
Counts are words of 64 bits, and so is the length of any text that fits a memory. -/
theorem perform_readBack (files : FileSystem) (path : Option String) (trace verbose : Bool)
    (launch : Launch) {config : Logged Config}
    (loaded : loadConfig files path trace = .ok config) :
    let full := verbose || config.value.recordTrace
    (∀ text,
      let stdout := ((perform files ⟨path, trace, verbose, .run launch text⟩).exit verbose).stdout
      ∃ run, Run.attempt launch.generation config.value launch.start text = .ok run
        ∧ (full = false → ∃ line, stdout = printed line ∧ IsLineOf line run.value.position)
        ∧ (full = true → text.length < UInt64.size →
          Document.parse? Run stdout = some run.value))
      ∧ ∀ file source, files file = .ok source →
        let stdout :=
          ((perform files ⟨path, trace, verbose, .script launch file⟩).exit verbose).stdout
        ∃ runs, Script.attempt launch.generation config.value launch.start source = .ok runs
          ∧ runs.value.map Prod.fst
            = (((Text.lines source.toList).zipIdx 1).filter fun (line, _) =>
                Script.strip line ≠ []).map Prod.snd
          ∧ (full = false →
            PrintsPositions stdout (runs.value.map fun (number, run) => (number, run.position)))
          ∧ (full = true → source.length < UInt64.size →
            PrintsRuns stdout (runs.value.map Prod.snd)) := by
  intro full
  have allowed := maxBoost_le_of_loadConfig loaded
  constructor
  · intro text stdout
    have shown : stdout = showRun full (Robot.runOf _ text) :=
      perform_run_stdout files path trace verbose launch loaded text
    refine ⟨_, Run.attempt_of_le launch.generation allowed launch.start text, ?_, ?_⟩
    · intro plain
      rw [plain] at shown
      exact ⟨_, shown, isLineOf_compact _⟩
    · intro inFull fits
      rw [shown, inFull]
      exact parse?_printed_pretty (Robot.runOf_inRange _ fits)
  · intro file source read stdout
    have shown : stdout = showRuns full (Script.follow _ (Script.effectiveLines source)).value :=
      perform_script_stdout files path trace verbose launch loaded read
    refine ⟨_, Script.attempt_of_le launch.generation allowed launch.start source, ?_, ?_, ?_⟩
    · rw [Script.follow_numbers, Script.effectiveLines_numbers]
    · intro plain
      rw [shown, plain]
      exact showRuns_positions _
    · intro inFull fits
      rw [shown, inFull]
      apply showRuns_full
      rw [Script.follow_runs]
      apply Robot.runs_inRange
      -- What is left of a line is no longer than the whole script.
      intro text member
      exact Nat.lt_of_le_of_lt (Script.length_le_of_mem_texts member) fits

/-- A script with a comment between its lines, and a warning about a character that no line
holds. -/
theorem perform_readBack_boosted :
    let source := "7F\n\n # back\r\nB?\n"
    let files : FileSystem := fun path =>
      if path = "robot.json" then .ok "\x7b\"max_boost\": 9\x7d" else .ok source
    let config : Config := { maxBoost := 9 }
    let walked := (perform files
      ⟨some "robot.json", false, false, .script ⟨.mk3, .origin⟩ "walk.txt"⟩).exit false
    let moved := (perform files
      ⟨some "robot.json", false, true, .run ⟨.mk1, .origin⟩ "F\x01"⟩).exit true
    loadConfig files (some "robot.json") false = .ok ⟨config, [.configLoaded "robot.json" config]⟩
      ∧ files "walk.txt" = .ok source
      ∧ (∃ runs, Script.attempt .mk3 config .origin source = .ok runs
        ∧ runs.value.map Prod.fst = [1, 4]
        ∧ PrintsPositions walked.stdout
          (runs.value.map fun (number, run) => (number, run.position)))
      ∧ "F\x01".length < UInt64.size
      ∧ ∃ run, Run.attempt .mk1 config .origin "F\x01" = .ok run
        ∧ run.value.report.warnings = [⟨1, '\x01'⟩]
        ∧ Document.parse? Run moved.stdout = some run.value := by
  intro source files config walked moved
  have loaded : loadConfig files (some "robot.json") false
      = .ok ⟨config, [.configLoaded "robot.json" config]⟩ := rfl
  have fits : "F\x01".length < UInt64.size := by decide
  obtain ⟨-, scripts⟩ :=
    perform_readBack files (some "robot.json") false false ⟨.mk3, .origin⟩ loaded
  obtain ⟨runs, followed, numbers, positions, -⟩ := scripts "walk.txt" source rfl
  obtain ⟨texts, -⟩ := perform_readBack files (some "robot.json") false true ⟨.mk1, .origin⟩ loaded
  obtain ⟨run, done, -, read⟩ := texts "F\x01"
  have warned : run.value.report.warnings = [⟨1, '\x01'⟩] := by
    cases done
    rfl
  have effective : (((Text.lines source.toList).zipIdx 1).filter fun (line, _) =>
      Script.strip line ≠ []).map Prod.snd = [1, 4] := by decide
  exact ⟨loaded, rfl, ⟨runs, followed, numbers.trans effective, positions rfl⟩, fits, run, done,
    warned, read rfl fits⟩

end GridRobot.CommandLine
