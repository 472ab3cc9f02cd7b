import GridRobot.Proofs.CommandLine.Failing
import GridRobot.Proofs.Wire.RoundTrip
import Mathlib.Data.List.TFAE

/-! # Where configurations are checked

A configuration is checked in a run, in a script, and as it is read. Each of these has what
`Config.validate` says come first, and goes on only past it. So they refuse the same configurations
with the same fault, and what one of them lets through passes all others (`gates_agree`). -/

namespace GridRobot

/-! ## Every gate is the same check -/

namespace Config

/-- An outcome that is decided by the check of a configuration, and known once that is passed. -/
def IsGate {α : Type} (config : Config) (outcome : Except Fault α) : Prop :=
  ∃ passed, outcome = config.validate.map fun () => passed

namespace IsGate

variable {α : Type} {config : Config} {outcome : Except Fault α} (gate : config.IsGate outcome)

include gate

theorem refused (tooGreat : 9 < config.maxBoost) :
    outcome = .error (unreachableBoost config.maxBoost) := by
  obtain ⟨passed, rfl⟩ := gate
  rw [validate_of_lt tooGreat]
  rfl

theorem passed (allowed : config.maxBoost ≤ 9) : ∃ passed, outcome = .ok passed := by
  obtain ⟨passed, rfl⟩ := gate
  rw [validate_of_le allowed]
  exact ⟨passed, rfl⟩

theorem refused_iff : (∃ fault, outcome = .error fault) ↔ 9 < config.maxBoost := by
  refine ⟨?_, fun tooGreat => ⟨_, gate.refused tooGreat⟩⟩
  rintro ⟨fault, failed⟩
  by_contra allowed
  obtain ⟨passed, succeeded⟩ := gate.passed (UInt32.not_lt.mp allowed)
  cases failed.symm.trans succeeded

end IsGate

theorem isGate_validate (config : Config) : config.IsGate config.validate :=
  ⟨(), by cases config.validate <;> rfl⟩

theorem isGate_parse {text : String} {config : Config}
    (read : Document.parse? Config text = some config) : config.IsGate (parse text) := by
  -- Past the reading, the check is all that is left to do.
  refine ⟨config, ?_⟩
  rw [parse, read]
  simp only
  cases config.validate <;> rfl

end Config

theorem Run.isGate_attempt (generation : Generation) (config : Config) (start : Position)
    (text : String) : config.IsGate (attempt generation config start text) := by
  let execution := (Robot.spawn generation start config).execute text
  refine ⟨⟨capture execution.robot execution.report, execution.events⟩, ?_⟩
  rw [attempt]
  cases config.validate <;> rfl

theorem Script.isGate_attempt (generation : Generation) (config : Config) (start : Position)
    (source : String) : config.IsGate (attempt generation config start source) := by
  refine ⟨follow (.spawn generation start config) (effectiveLines source), ?_⟩
  rw [attempt]
  cases config.validate <;> rfl

/-! ## Loading -/

namespace Config

theorem parse?_of_parse {text : String} {config : Config} (parsed : parse text = .ok config) :
    Document.parse? Config text = some config := by
  cases read : Document.parse? Config text with
  | none => cases parsed.symm.trans (parse_of_none read)
  | some found =>
    by_cases tooGreat : 9 < found.maxBoost
    · cases parsed.symm.trans (parse_of_lt read tooGreat)
    · cases parsed.symm.trans (parse_of_le read (UInt32.not_lt.mp tooGreat))
      rfl

theorem exists_of_load {files : FileSystem} {path : String} {config : Config}
    (loaded : load files path = .ok config) :
    ∃ text, files path = .ok text ∧ Document.parse? Config text = some config := by
  rw [load] at loaded
  cases read : files path with
  | error e =>
    rw [read] at loaded
    cases loaded
  | ok text =>
    simp only [read] at loaded
    cases parsed : parse text with
    | error fault =>
      rw [parsed] at loaded
      cases loaded
    | ok found =>
      rw [parsed] at loaded
      cases loaded
      exact ⟨text, rfl, parse?_of_parse parsed⟩

end Config

namespace CommandLine

/-- The configuration in the file at a path, or the default one without a path. -/
def configAt? (files : FileSystem) : Option String → Option Config
  | none => some {}
  | some path => (files path).toOption.bind (Document.parse? Config)

theorem loadConfig_value {files : FileSystem} {path : Option String} {trace : Bool}
    {loaded : Logged Config} (succeeded : loadConfig files path trace = .ok loaded) :
    ∃ file, configAt? files path = some file
      ∧ loaded.value = { file with recordTrace := trace || file.recordTrace } := by
  cases path with
  | none =>
    cases succeeded
    exact ⟨{}, rfl, by rw [Bool.or_false]; rfl⟩
  | some path =>
    rw [loadConfig] at succeeded
    cases read : Config.load files path with
    | error fault =>
      rw [read] at succeeded
      cases succeeded
    | ok file =>
      rw [read] at succeeded
      cases succeeded
      obtain ⟨text, found, parsed⟩ := Config.exists_of_load read
      refine ⟨file, ?_, rfl⟩
      rw [configAt?, found]
      exact parsed

end CommandLine

/-! ## Agreement -/

theorem Config.unreachableBoost_eq (maxBoost : UInt32) :
    unreachableBoost maxBoost
      = { kind := .configInvalid
          message := "max_boost " ++ maxBoost.toNat.repr
            ++ " can never be reached by a single digit (max 9)"
          operation := "config::validate"
          context := [("field", "max_boost")] } := by
  have reason : " can never be reached by a single digit (max " ++ greatestDigit.toNat.repr ++ ")"
      = " can never be reached by a single digit (max 9)" := by decide
  have message : "max_boost " ++ maxBoost.toNat.repr
      ++ " can never be reached by a single digit (max " ++ greatestDigit.toNat.repr ++ ")"
      = "max_boost " ++ maxBoost.toNat.repr
        ++ " can never be reached by a single digit (max 9)" := by
    rw [← reason]
    simp only [String.append_assoc]
  rw [unreachableBoost, message]
  rfl

/-- **The gates agree.** A ceiling that no digit can reach is refused wherever a configuration goes
in, whatever the robot is to do, and always with the same fault. What a command loads is the
configuration of its file, or the default one, with steps recorded if either asks for it, and is
refused nowhere. -/
theorem gates_agree :
    (∀ (config : Config) (generation : Generation) (start : Position) (text source : String),
      let run := Run.attempt generation config start text
      let runs := Script.attempt generation config start source
      let compact := Config.parse (Document.compact config)
      let pretty := Config.parse (Document.pretty config)
      let invalid : Fault :=
        { kind := .configInvalid
          message := "max_boost " ++ config.maxBoost.toNat.repr
            ++ " can never be reached by a single digit (max 9)"
          operation := "config::validate"
          context := [("field", "max_boost")] }
      [9 < config.maxBoost, ∃ fault, config.validate = .error fault, ∃ fault, run = .error fault,
          ∃ fault, runs = .error fault, ∃ fault, compact = .error fault,
          ∃ fault, pretty = .error fault].TFAE
        ∧ (9 < config.maxBoost → config.validate = .error invalid ∧ run = .error invalid
          ∧ runs = .error invalid ∧ compact = .error invalid ∧ pretty = .error invalid))
      ∧ ∀ (files : FileSystem) (path : Option String) (trace : Bool) (loaded : Logged Config),
          CommandLine.loadConfig files path trace = .ok loaded →
            let config := loaded.value
            config.maxBoost ≤ 9
              ∧ (∃ file, CommandLine.configAt? files path = some file
                ∧ config = { file with recordTrace := trace || file.recordTrace })
              ∧ ∀ generation start text source,
                (∃ run, Run.attempt generation config start text = .ok run)
                  ∧ ∃ runs, Script.attempt generation config start source = .ok runs := by
  constructor
  · intro config generation start text source run runs compact pretty invalid
    -- Either text is read back as the configuration that it was written for.
    have written := Config.ofJson?_toJson config
    have validate := config.isGate_validate
    have run : config.IsGate run := Run.isGate_attempt generation config start text
    have runs : config.IsGate runs := Script.isGate_attempt generation config start source
    have compact : config.IsGate compact := Config.isGate_parse (Document.parse?_compact written)
    have pretty : config.IsGate pretty := Config.isGate_parse (Document.parse?_pretty written)
    constructor
    · apply List.tfae_of_forall (9 < config.maxBoost)
      simp only [List.forall_mem_cons, List.not_mem_nil, false_implies, implies_true, and_true,
        true_and]
      exact ⟨validate.refused_iff, run.refused_iff, runs.refused_iff, compact.refused_iff,
        pretty.refused_iff⟩
    · intro tooGreat
      have same : Config.unreachableBoost config.maxBoost = invalid :=
        Config.unreachableBoost_eq config.maxBoost
      rw [← same]
      exact ⟨validate.refused tooGreat, run.refused tooGreat, runs.refused tooGreat,
        compact.refused tooGreat, pretty.refused tooGreat⟩
  · intro files path trace loaded succeeded config
    have allowed := CommandLine.maxBoost_le_of_loadConfig succeeded
    refine ⟨allowed, CommandLine.loadConfig_value succeeded, ?_⟩
    intro generation start text source
    exact ⟨(Run.isGate_attempt generation config start text).passed allowed,
      (Script.isGate_attempt generation config start source).passed allowed⟩

/-- A file whose ceiling is just low enough, beside a configuration whose ceiling is not. -/
theorem gates_agree_lastDigit :
    let files : FileSystem := fun _ => .ok "\x7b\"max_boost\": 9, \"initial_fuel\": 7\x7d"
    let config : Config := { initialFuel := 7, maxBoost := 9, recordTrace := true }
    let tooGreat : Config := { maxBoost := 10 }
    (CommandLine.loadConfig files (some "robot.json") true
          = .ok ⟨config, [.configLoaded "robot.json" { config with recordTrace := false }]⟩
        ∧ ∃ runs, Script.attempt .mk1 config .origin "" = .ok runs)
      ∧ 9 < tooGreat.maxBoost
      ∧ ∃ fault, Script.attempt .mk1 tooGreat .origin "" = .error fault
        ∧ Config.parse (Document.pretty tooGreat) = .error fault
        ∧ fault.message = "max_boost 10 can never be reached by a single digit (max 9)" := by
  intro files config tooGreat
  obtain ⟨agree, load⟩ := gates_agree
  constructor
  · have loaded : CommandLine.loadConfig files (some "robot.json") true
        = .ok ⟨config, [.configLoaded "robot.json" { config with recordTrace := false }]⟩ := rfl
    obtain ⟨-, -, accepted⟩ := load files (some "robot.json") true _ loaded
    exact ⟨loaded, (accepted .mk1 .origin "" "").2⟩
  · obtain ⟨-, refused⟩ := agree tooGreat .mk1 .origin "" ""
    have asked : 9 < tooGreat.maxBoost := by decide
    obtain ⟨-, -, scripted, -, written⟩ := refused asked
    exact ⟨asked, _, scripted, written, by decide⟩

end GridRobot
