import GridRobot.CommandLine.Performance
import GridRobot.Proofs.Script.Resuming

/-! # Commands that fail

A command goes through stages: the configuration file is read, parsed and checked, and then a
script is read. `Config.LoadFails` and `CommandLine.Fails` say by which stage, and with which fault,
a command fails. Past the last stage nothing can go wrong any more, although the configuration is
checked once again there, and nothing is printed before. So what a failing command leaves behind
is told by the fault alone (`perform_exit`). -/

namespace GridRobot

/-! ## Configuration files -/

namespace Config

/-- The fault of a text that is no configuration. -/
def unreadable : Fault :=
  (({ kind := .serializationFailed, message := "robot config is not valid JSON" } :
    Fault).during "config::from_json").causedBy .unreadable

/-- The fault of the first stage of loading a file that fails. -/
inductive LoadFails (files : FileSystem) (path : String) : Fault → Prop where
  | read {e : IoError} (failed : files path = .error e) :
    LoadFails files path (((Fault.ofIo e).during "config::load").noting "path" path)
  | parse {text : String} (wasRead : files path = .ok text)
    (failed : Document.parse? Config text = none) :
    LoadFails files path (unreadable.noting "path" path)
  | validate {text : String} {config : Config} (wasRead : files path = .ok text)
    (parsed : Document.parse? Config text = some config) (failed : 9 < config.maxBoost) :
    LoadFails files path ((unreachableBoost config.maxBoost).noting "path" path)

theorem validate_of_lt {config : Config} (tooGreat : 9 < config.maxBoost) :
    config.validate = .error (unreachableBoost config.maxBoost) :=
  if_pos tooGreat

theorem parse_of_none {text : String} (unread : Document.parse? Config text = none) :
    parse text = .error unreadable := by
  rw [parse, unread]
  rfl

theorem parse_of_lt {text : String} {config : Config}
    (read : Document.parse? Config text = some config) (tooGreat : 9 < config.maxBoost) :
    parse text = .error (unreachableBoost config.maxBoost) := by
  rw [parse, read]
  simp only [validate_of_lt tooGreat]
  rfl

theorem parse_of_le {text : String} {config : Config}
    (read : Document.parse? Config text = some config) (allowed : config.maxBoost ≤ 9) :
    parse text = .ok config := by
  rw [parse, read]
  simp only [validate_of_le allowed]
  rfl

/-- Loading ends in one of two ways: with the fault of the first stage that fails, or with a
configuration that makes sense. -/
theorem load_cases (files : FileSystem) (path : String) :
    (∃ fault, load files path = .error fault ∧ LoadFails files path fault)
      ∨ ∃ config, load files path = .ok config ∧ config.maxBoost ≤ 9 := by
  unfold load
  cases read : files path with
  | error e => exact .inl ⟨_, rfl, .read read⟩
  | ok text =>
    cases parsed : Document.parse? Config text with
    | none =>
      simp only [parse_of_none parsed]
      exact .inl ⟨_, rfl, .parse read parsed⟩
    | some config =>
      by_cases tooGreat : 9 < config.maxBoost
      · simp only [parse_of_lt parsed tooGreat]
        exact .inl ⟨_, rfl, .validate read parsed tooGreat⟩
      · simp only [parse_of_le parsed (UInt32.not_lt.mp tooGreat)]
        exact .inr ⟨config, rfl, UInt32.not_lt.mp tooGreat⟩

/-- The stages follow each other, so no two of them fail. -/
theorem LoadFails.load {files : FileSystem} {path : String} {fault : Fault}
    (fails : LoadFails files path fault) : load files path = .error fault := by
  unfold Config.load
  cases fails with
  | read failed => rw [failed]
  | parse wasRead failed =>
    rw [wasRead]
    simp only [parse_of_none failed]
    rfl
  | validate wasRead parsed failed =>
    rw [wasRead]
    simp only [parse_of_lt parsed failed]
    rfl

theorem load_eq_error_iff {files : FileSystem} {path : String} {fault : Fault} :
    load files path = .error fault ↔ LoadFails files path fault := by
  refine ⟨fun failed => ?_, LoadFails.load⟩
  rcases load_cases files path with ⟨first, loaded, fails⟩ | ⟨config, loaded, -⟩
  · cases failed.symm.trans loaded
    exact fails
  · cases failed.symm.trans loaded

theorem maxBoost_le_of_load {files : FileSystem} {path : String} {config : Config}
    (loaded : load files path = .ok config) : config.maxBoost ≤ 9 := by
  rcases load_cases files path with ⟨fault, failed, -⟩ | ⟨found, other, allowed⟩
  · cases loaded.symm.trans failed
  · cases loaded.symm.trans other
    exact allowed

end Config

namespace CommandLine

/-! ## The configuration of a command -/

theorem loadConfig_eq_error_iff {files : FileSystem} {path : Option String} {trace : Bool}
    {fault : Fault} :
    loadConfig files path trace = .error fault
      ↔ ∃ given, path = some given ∧ Config.load files given = .error fault := by
  cases path with
  | none => exact ⟨nofun, nofun⟩
  | some given =>
    cases loaded : Config.load files given with
    | error found =>
      have failed : loadConfig files (some given) trace = .error found := by
        rw [loadConfig, loaded]
        rfl
      rw [failed]
      constructor
      · rintro ⟨⟩
        exact ⟨given, rfl, loaded⟩
      · rintro ⟨_, ⟨⟩, same⟩
        exact congrArg Except.error (Except.error.inj (loaded.symm.trans same))
    | ok config =>
      rw [loadConfig, loaded]
      constructor
      · nofun
      · rintro ⟨_, ⟨⟩, failed⟩
        cases loaded.symm.trans failed

/-- The second check of a configuration finds nothing wrong with it. -/
theorem maxBoost_le_of_loadConfig {files : FileSystem} {path : Option String} {trace : Bool}
    {config : Logged Config} (loaded : loadConfig files path trace = .ok config) :
    config.value.maxBoost ≤ 9 := by
  cases path with
  | none =>
    cases loaded
    exact (by decide : ({} : Config).maxBoost ≤ 9)
  | some given =>
    cases read : Config.load files given with
    | error fault =>
      rw [loadConfig, read] at loaded
      cases loaded
    | ok found =>
      rw [loadConfig, read] at loaded
      cases loaded
      change found.maxBoost ≤ 9
      exact Config.maxBoost_le_of_load read

variable {files : FileSystem} {inv : Invocation} {next : Config → Performance}

theorem withConfig_of_error {fault : Fault}
    (failed : loadConfig files inv.config inv.trace = .error fault) :
    withConfig files inv next = ⟨[], .error fault⟩ := by
  rw [withConfig, failed]

theorem withConfig_result_of_ok {config : Logged Config}
    (loaded : loadConfig files inv.config inv.trace = .ok config) :
    (withConfig files inv next).result = (next config.value).result := by
  rw [withConfig, loaded]

/-! ## Past the configuration -/

theorem performRun_result {config : Config} (allowed : config.maxBoost ≤ 9) (launch : Launch)
    (text : String) (verbose : Bool) :
    (performRun config launch text verbose).result
      = .ok (showRun (verbose || config.recordTrace)
          ((Robot.spawn launch.generation launch.start config).runOf text)) := by
  rw [performRun, Run.attempt_of_le launch.generation allowed]
  rfl

theorem readScript_of_error {file : String} {e : IoError} (failed : files file = .error e) :
    readScript files file = .error (((Fault.ofIo e).during "cli::script").noting "file" file) := by
  rw [readScript, failed]
  rfl

theorem readScript_of_ok {file source : String} (read : files file = .ok source) :
    readScript files file = .ok source := by
  rw [readScript, read]
  rfl

theorem performScript_result {config : Config} (allowed : config.maxBoost ≤ 9) (launch : Launch)
    {file source : String} (read : files file = .ok source) (verbose : Bool) :
    let runs := Script.follow (.spawn launch.generation launch.start config)
      (Script.effectiveLines source)
    (performScript files config launch file verbose).result
      = .ok (showRuns (verbose || config.recordTrace) runs.value) := by
  rw [performScript, readScript_of_ok read]
  simp only [Script.attempt_of_le launch.generation allowed]

/-! ## Failing -/

/-- The fault of the first stage of a command that fails. -/
inductive Fails (files : FileSystem) (inv : Invocation) : Fault → Prop where
  | config {path : String} {fault : Fault}
    (asked : ∀ generation, inv.command ≠ .instructions generation) (given : inv.config = some path)
    (fails : Config.LoadFails files path fault) :
    Fails files inv fault
  | script {launch : Launch} {file : String} {e : IoError}
    (asked : inv.command = .script launch file)
    (loads : ∀ path fault, inv.config = some path → ¬ Config.LoadFails files path fault)
    (failed : files file = .error e) :
    Fails files inv (((Fault.ofIo e).during "cli::script").noting "file" file)

theorem Fails.of_load {path : String} {fault : Fault}
    (asked : ∀ generation, inv.command ≠ .instructions generation) (given : inv.config = some path)
    (failed : Config.load files path = .error fault) : Fails files inv fault :=
  .config asked given (Config.load_eq_error_iff.mp failed)

/-- A fault in the configuration ends every command that looks at it. -/
theorem perform_of_loadConfig_error {fault : Fault}
    (asked : ∀ generation, inv.command ≠ .instructions generation)
    (failed : loadConfig files inv.config inv.trace = .error fault) :
    (perform files inv).result = .error fault := by
  unfold perform
  cases command : inv.command with
  | run launch text => simp only [withConfig_of_error failed]
  | script launch file => simp only [withConfig_of_error failed]
  | instructions generation => exact absurd command (asked generation)

theorem perform_run_of_ok {launch : Launch} {text : String} {config : Logged Config}
    (asked : inv.command = .run launch text)
    (loaded : loadConfig files inv.config inv.trace = .ok config) :
    (perform files inv).result
      = .ok (showRun (inv.verbose || config.value.recordTrace)
          ((Robot.spawn launch.generation launch.start config.value).runOf text)) := by
  simp only [perform, asked]
  rw [withConfig_result_of_ok loaded, performRun_result (maxBoost_le_of_loadConfig loaded)]

theorem perform_script_of_ok {launch : Launch} {file : String} {config : Logged Config}
    (asked : inv.command = .script launch file)
    (loaded : loadConfig files inv.config inv.trace = .ok config) :
    (perform files inv).result
      = (performScript files config.value launch file inv.verbose).result := by
  simp only [perform, asked]
  rw [withConfig_result_of_ok loaded]

theorem Fails.result {fault : Fault} (fails : Fails files inv fault) :
    (perform files inv).result = .error fault := by
  cases fails with
  | config asked given fails =>
    exact perform_of_loadConfig_error asked
      (loadConfig_eq_error_iff.mpr ⟨_, given, Config.load_eq_error_iff.mpr fails⟩)
  | @script launch file e asked loads failed =>
    cases loaded : loadConfig files inv.config inv.trace with
    | error fault =>
      obtain ⟨path, given, first⟩ := loadConfig_eq_error_iff.mp loaded
      exact absurd (Config.load_eq_error_iff.mp first) (loads path fault given)
    | ok config =>
      rw [perform_script_of_ok asked loaded, performScript, readScript_of_error failed]

/-- After the configuration, reading the script is the only stage that can fail. -/
theorem fails_of_result {fault : Fault} (failed : (perform files inv).result = .error fault) :
    Fails files inv fault := by
  by_cases asked : ∃ generation, inv.command = .instructions generation
  · obtain ⟨generation, asked⟩ := asked
    rw [perform, asked] at failed
    cases failed
  rw [not_exists] at asked
  cases loaded : loadConfig files inv.config inv.trace with
  | error first =>
    cases failed.symm.trans (perform_of_loadConfig_error asked loaded)
    obtain ⟨path, given, failed⟩ := loadConfig_eq_error_iff.mp loaded
    exact .of_load asked given failed
  | ok config =>
    cases command : inv.command with
    | run launch text => cases failed.symm.trans (perform_run_of_ok command loaded)
    | instructions generation => exact absurd command (asked generation)
    | script launch file =>
      rw [perform_script_of_ok command loaded] at failed
      cases read : files file with
      | ok source =>
        cases failed.symm.trans
          (performScript_result (maxBoost_le_of_loadConfig loaded) launch read inv.verbose)
      | error e =>
        rw [performScript, readScript_of_error read] at failed
        cases failed
        refine .script command (fun path fault given fails => ?_) read
        cases loaded.symm.trans
          (loadConfig_eq_error_iff.mpr ⟨path, given, Config.load_eq_error_iff.mpr fails⟩)

theorem perform_result_eq_error_iff {fault : Fault} :
    (perform files inv).result = .error fault ↔ Fails files inv fault :=
  ⟨fails_of_result, Fails.result⟩

/-- What a run is asked to do does not matter to whether it fails. -/
theorem exists_fails_run {launch : Launch} {text : String}
    (asked : inv.command = .run launch text) :
    (∃ fault, Fails files inv fault)
      ↔ ∃ path fault, inv.config = some path ∧ Config.load files path = .error fault := by
  constructor
  · rintro ⟨fault, fails⟩
    cases fails with
    | @config path _ _ given fails => exact ⟨path, fault, given, fails.load⟩
    | script other => cases asked.symm.trans other
  · rintro ⟨path, fault, given, failed⟩
    exact ⟨fault, .of_load (by simp [asked]) given failed⟩

theorem exists_fails_script {launch : Launch} {file : String}
    (asked : inv.command = .script launch file) :
    (∃ fault, Fails files inv fault)
      ↔ (∃ path fault, inv.config = some path ∧ Config.load files path = .error fault)
        ∨ ∃ e, files file = .error e := by
  constructor
  · rintro ⟨fault, fails⟩
    cases fails with
    | @config path _ _ given fails => exact .inl ⟨path, fault, given, fails.load⟩
    | script other _ failed =>
      cases asked.symm.trans other
      exact .inr ⟨_, failed⟩
  · intro failed
    by_cases loading : ∃ path fault, inv.config = some path ∧ Config.load files path = .error fault
    · obtain ⟨path, fault, given, failed⟩ := loading
      exact ⟨fault, .of_load (by simp [asked]) given failed⟩
    · obtain ⟨e, failed⟩ := failed.resolve_left loading
      refine ⟨_, .script asked (fun path fault given fails => loading ?_) failed⟩
      exact ⟨path, fault, given, fails.load⟩

/-! ## What a failing command leaves behind -/

theorem showFault_eq (fault : Fault) :
    showFault fault
      = "Error: " ++ fault.summary ++ "\n"
        ++ if fault.kind = .ioFailed then "(temporary error, retrying may succeed)\n" else "" := by
  obtain ⟨kind, message, operation, context, cause⟩ := fault
  cases kind <;> rfl

theorem exit_code_eq_one_iff {performance : Performance} {verbose : Bool} :
    (performance.exit verbose).code = 1 ↔ ∃ fault, performance.result = .error fault := by
  obtain ⟨events, result⟩ := performance
  cases result with
  | error fault => exact ⟨fun _ => ⟨fault, rfl⟩, fun _ => rfl⟩
  | ok text => exact ⟨nofun, nofun⟩

theorem exit_of_error {performance : Performance} {fault : Fault} (verbose : Bool)
    (failed : performance.result = .error fault) :
    performance.exit verbose
      = ⟨1, "", showEvents verbose performance.events ++ showFault fault⟩ := by
  rw [Performance.exit, failed]

theorem exit_code_of_not_error {performance : Performance} (verbose : Bool)
    (fine : ¬ ∃ fault, performance.result = .error fault) :
    (performance.exit verbose).code = 0 := by
  obtain ⟨events, result⟩ := performance
  cases result with
  | error fault => exact absurd ⟨fault, rfl⟩ fine
  | ok text => rfl

/-- **Failing.** A command either succeeds, and no stage of it fails, or it prints nothing and ends
with the fault of the one stage that fails first. Neither what a run is asked to do nor what a
script says is a stage, and a table of instructions has no stage at all. -/
theorem perform_exit (files : FileSystem) (inv : Invocation) :
    let performance := perform files inv
    let exit := performance.exit inv.verbose
    let configFails :=
      ∃ path fault, inv.config = some path ∧ Config.load files path = .error fault
    ((exit.code = 0 ∧ ∀ fault, ¬ Fails files inv fault)
        ∨ ∃ fault, (∀ other, Fails files inv other ↔ other = fault)
          ∧ exit.code = 1 ∧ exit.stdout = ""
          ∧ exit.stderr = showEvents inv.verbose performance.events
            ++ ("Error: " ++ fault.summary ++ "\n"
              ++ if fault.kind = .ioFailed then "(temporary error, retrying may succeed)\n"
                else ""))
      ∧ match inv.command with
        | .run _ _ => exit.code = 1 ↔ configFails
        | .script _ file => exit.code = 1 ↔ configFails ∨ ∃ e, files file = .error e
        | .instructions _ => exit.code = 0 ∧ ∀ others, perform others inv = performance := by
  intro performance exit configFails
  have code : exit.code = 1 ↔ ∃ fault, Fails files inv fault := by
    simp only [exit, exit_code_eq_one_iff, performance, perform_result_eq_error_iff]
  constructor
  · by_cases failing : ∃ fault, performance.result = .error fault
    · obtain ⟨fault, failed⟩ := failing
      refine .inr ⟨fault, fun other => ?_, ?_⟩
      · rw [← perform_result_eq_error_iff]
        change performance.result = _ ↔ _
        rw [failed, Except.error.injEq, eq_comm]
      · simp only [exit, exit_of_error inv.verbose failed, showFault_eq, true_and]
    · refine .inl ⟨exit_code_of_not_error inv.verbose failing, fun fault fails => ?_⟩
      exact failing ⟨fault, fails.result⟩
  · cases command : inv.command with
    | run launch text => exact code.trans (exists_fails_run command)
    | script launch file => exact code.trans (exists_fails_script command)
    | instructions generation =>
      have unchanged : ∀ others, perform others inv = ⟨[], .ok (showInstructions generation)⟩ := by
        intro others
        rw [perform, command]
      refine ⟨?_, fun others => (unchanged others).trans (unchanged files).symm⟩
      simp only [exit, performance, unchanged]
      rfl

/-- A fault that may go away by itself. -/
example :
    (perform (fun _ => .error (.system 5))
        ⟨none, true, false, .script ⟨.mk3, .origin⟩ "walk.txt"⟩).exit false
      = ⟨1, "",
          "Error: IoFailed (temporary) at cli::script, context \x7b called: io, file: walk.txt \x7d"
            ++ " => Input/output error (os error 5)\n"
            ++ "(temporary error, retrying may succeed)\n"⟩ := by
  rfl

end CommandLine
end GridRobot
