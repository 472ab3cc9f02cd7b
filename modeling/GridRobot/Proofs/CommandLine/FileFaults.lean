import GridRobot.Proofs.CommandLine.Failing
import GridRobot.Proofs.Fault.Additions

/-! # Faults of files

A configuration file fails at one of three stages: it cannot be read, its text gives no
configuration, or the configuration makes no sense. The fault says at which one (`Stage.Tells`), and
whatever the stage, the path of the file comes last in the context and stands nowhere else in it. A
script has the first stage only. Only what was met while a file was read can go away by itself
(`file_faults`). -/

namespace GridRobot

/-- A fault that says of a file that it cannot be read: on which error, in which operation, and
which file it is, under a key of its own. -/
structure Fault.TellsUnread (fault : Fault) (e : IoError) (operation key path : String) :
    Prop where
  missing : fault.kind = .fileNotFound ↔ e.kind = .notFound
  denied : fault.kind = .permissionDenied ↔ e.kind = .permissionDenied
  failed : fault.kind = .ioFailed ↔ e.kind ≠ .notFound ∧ e.kind ≠ .permissionDenied
  message : fault.message = e.text
  operation : fault.operation = operation
  context : fault.context = [("called", "io"), (key, path)]
  cause : fault.cause = some (.foreign e.text [])

theorem Fault.tellsUnread_ofIo (e : IoError) {operation : String} (key path : String) :
    (((Fault.ofIo e).during operation).noting key path).TellsUnread e operation key path := by
  have kind : (((Fault.ofIo e).during operation).noting key path).kind = .ofIo e.kind := rfl
  refine ⟨?_, ?_, ?_, rfl, rfl, rfl, rfl⟩
  all_goals
    rw [kind]
    cases e.kind <;> simp [FaultKind.ofIo]

theorem Fault.TellsUnread.kind_mem {fault : Fault} {e : IoError} {operation key path : String}
    (tells : fault.TellsUnread e operation key path) :
    fault.kind ∈ [.fileNotFound, .permissionDenied, .ioFailed] := by
  by_cases missing : e.kind = .notFound
  · simp [tells.missing.mpr missing]
  by_cases denied : e.kind = .permissionDenied
  · simp [tells.denied.mpr denied]
  simp [tells.failed.mpr ⟨missing, denied⟩]

namespace Config

/-! ## Stages -/

/-- A stage at which loading a configuration can fail. -/
inductive Stage where
  | reading
  | parsing
  | checking

namespace Stage

/-- The file at the path does not get past the stage. -/
def FailsAt (files : FileSystem) (path : String) : Stage → Prop
  | reading => ∃ e, files path = .error e
  | parsing => ∃ text, files path = .ok text ∧ Document.parse? Config text = none
  | checking =>
    ∃ text config, files path = .ok text ∧ Document.parse? Config text = some config
      ∧ 9 < config.maxBoost

/-- The fault has all that is told of a file that does not get past the stage. -/
def Tells (files : FileSystem) (path : String) (fault : Fault) : Stage → Prop
  | reading => ∃ e, files path = .error e ∧ fault.TellsUnread e "config::load" "path" path
  | parsing =>
    fault.kind = .serializationFailed ∧ fault.operation = "config::from_json"
      ∧ fault.context = [("path", path)] ∧ fault.cause.isSome
  | checking =>
    fault.kind = .configInvalid ∧ fault.operation = "config::validate"
      ∧ fault.context = [("field", "max_boost"), ("path", path)] ∧ fault.cause = none

/-- The kinds of fault that tell of a stage. -/
def kinds : Stage → List FaultKind
  | reading => [.fileNotFound, .permissionDenied, .ioFailed]
  | parsing => [.serializationFailed]
  | checking => [.configInvalid]

variable {files : FileSystem} {path : String} {fault : Fault} {stage other : Stage}

/-! ### What tells the stages apart -/

theorem Tells.kind_mem (tells : stage.Tells files path fault) : fault.kind ∈ stage.kinds := by
  cases stage with
  | reading =>
    obtain ⟨e, -, unread⟩ := tells
    exact unread.kind_mem
  | parsing => exact List.mem_singleton.mpr tells.1
  | checking => exact List.mem_singleton.mpr tells.1

/-- The kind alone says which stage it was. -/
theorem Tells.unique (tells : stage.Tells files path fault)
    (otherTells : other.Tells files path fault) : other = stage := by
  have kind := tells.kind_mem
  have otherKind := otherTells.kind_mem
  generalize fault.kind = k at kind otherKind
  cases stage <;> cases other <;> cases k <;> simp [kinds] at kind otherKind ⊢

theorem FailsAt.exists_fault (fails : stage.FailsAt files path) :
    ∃ fault, load files path = .error fault ∧ stage.Tells files path fault := by
  cases stage with
  | reading =>
    obtain ⟨e, failed⟩ := fails
    exact ⟨_, (LoadFails.read failed).load, e, failed, Fault.tellsUnread_ofIo e "path" path⟩
  | parsing =>
    obtain ⟨text, read, failed⟩ := fails
    exact ⟨_, (LoadFails.parse read failed).load, rfl, rfl, rfl, rfl⟩
  | checking =>
    obtain ⟨text, config, read, parsed, failed⟩ := fails
    exact ⟨_, (LoadFails.validate read parsed failed).load, rfl, rfl, rfl, rfl⟩

theorem FailsAt.tells (fails : stage.FailsAt files path)
    (failed : load files path = .error fault) : stage.Tells files path fault := by
  obtain ⟨_, same, tells⟩ := fails.exists_fault
  cases failed.symm.trans same
  exact tells

/-- A file has one fault, and that tells of one stage. -/
theorem FailsAt.unique (fails : stage.FailsAt files path) (otherFails : other.FailsAt files path) :
    other = stage := by
  obtain ⟨fault, failed, tells⟩ := fails.exists_fault
  exact tells.unique (otherFails.tells failed)

end Stage

/-! ## Faults of a configuration file -/

variable {files : FileSystem} {path : String} {fault : Fault}

theorem LoadFails.exists_stage (fails : LoadFails files path fault) :
    ∃ stage : Stage, stage.FailsAt files path := by
  cases fails with
  | @read e failed => exact ⟨.reading, e, failed⟩
  | @parse text wasRead failed => exact ⟨.parsing, text, wasRead, failed⟩
  | @validate text config wasRead parsed failed =>
    exact ⟨.checking, text, config, wasRead, parsed, failed⟩

/-- Every stage notes the path, and notes it last. -/
theorem Stage.Tells.exists_context {stage : Stage} (tells : stage.Tells files path fault) :
    ∃ earlier, fault.context = earlier ++ [("path", path)] ∧ "path" ∉ earlier.map Prod.fst := by
  cases stage with
  | reading =>
    obtain ⟨e, -, unread⟩ := tells
    exact ⟨[("called", "io")], unread.context, by decide⟩
  | parsing =>
    obtain ⟨-, -, context, -⟩ := tells
    exact ⟨[], context, by decide⟩
  | checking =>
    obtain ⟨-, -, context, -⟩ := tells
    exact ⟨[("field", "max_boost")], context, by decide⟩

theorem Stage.Tells.kind_eq_ioFailed_iff {stage : Stage} (tells : stage.Tells files path fault)
    (fails : stage.FailsAt files path) :
    fault.kind = .ioFailed
      ↔ ∃ e, files path = .error e ∧ e.kind ≠ .notFound ∧ e.kind ≠ .permissionDenied := by
  cases stage with
  | reading =>
    obtain ⟨e, failed, unread⟩ := tells
    rw [unread.failed]
    constructor
    · exact fun other => ⟨e, failed, other⟩
    · rintro ⟨_, same, other⟩
      cases failed.symm.trans same
      exact other
  | parsing =>
    obtain ⟨text, read, -⟩ := fails
    rw [tells.1]
    simp [read]
  | checking =>
    obtain ⟨text, config, read, -⟩ := fails
    rw [tells.1]
    simp [read]

end Config

namespace CommandLine

/-- **Faults of files.** The fault of a configuration file that is not loaded has the path at the
end of its context and under that key only there. It tells of the one stage that the file fails at,
and of no other. That of a script that cannot be read tells the same as one of the first stage. What
may go away by itself is an error of reading, other than that there is no such file or that it may
not be read. -/
theorem file_faults (files : FileSystem) :
    (∀ path fault, Config.load files path = .error fault →
        fault.context.getLast? = some ("path", path)
          ∧ (fault.context.map Prod.fst).count "path" = 1
          ∧ (∃ stage : Config.Stage, stage.FailsAt files path ∧ stage.Tells files path fault
            ∧ ∀ other : Config.Stage,
              other.FailsAt files path ∨ other.Tells files path fault → other = stage)
          ∧ (fault.persistence = .temporary ↔ fault.kind = .ioFailed)
          ∧ (fault.kind = .ioFailed
            ↔ ∃ e, files path = .error e ∧ e.kind ≠ .notFound ∧ e.kind ≠ .permissionDenied))
      ∧ (∀ path (stage : Config.Stage), stage.FailsAt files path →
          ∃ fault, Config.load files path = .error fault)
      ∧ (∀ file fault, readScript files file = .error fault →
          ∃ e, files file = .error e ∧ fault.TellsUnread e "cli::script" "file" file
            ∧ (fault.persistence = .temporary ↔ fault.kind = .ioFailed))
      ∧ ∀ file e, files file = .error e → ∃ fault, readScript files file = .error fault := by
  refine ⟨fun path fault failed => ?_, fun path stage fails => ?_, fun file fault failed => ?_,
    fun file e failed => ⟨_, readScript_of_error failed⟩⟩
  · obtain ⟨stage, fails⟩ := (Config.load_eq_error_iff.mp failed).exists_stage
    have tells := fails.tells failed
    obtain ⟨earlier, context, noPath⟩ := tells.exists_context
    refine ⟨?_, ?_, ⟨stage, fails, tells, fun other same => same.elim fails.unique tells.unique⟩,
      fault.persistence_eq_temporary_iff, tells.kind_eq_ioFailed_iff fails⟩
    · rw [context, List.getLast?_concat]
    · rw [context, List.map_append, List.count_append, List.count_eq_zero.mpr noPath]
      rfl
  · obtain ⟨fault, failed, -⟩ := fails.exists_fault
    exact ⟨fault, failed⟩
  · cases read : files file with
    | ok source => cases failed.symm.trans (readScript_of_ok read)
    | error e =>
      cases failed.symm.trans (readScript_of_error read)
      exact ⟨e, rfl, Fault.tellsUnread_ofIo e "file" file, Fault.persistence_eq_temporary_iff _⟩

/-- One file for each stage, and a script that cannot be read. -/
theorem file_faults_eachStage :
    let files : FileSystem := fun path =>
      if path = "strong.json" then .ok "[1, 12]"
      else if path = "torn.json" then .ok "\x7b\"max_boost\": 12"
      else .error (.system 5)
    let strong := (Config.unreachableBoost 12).noting "path" "strong.json"
    let torn := Config.unreadable.noting "path" "torn.json"
    let gone := ((Fault.ofIo (.system 5)).during "config::load").noting "path" "gone.json"
    let script := ((Fault.ofIo (.system 5)).during "cli::script").noting "file" "walk.txt"
    (Config.load files "strong.json" = .error strong
        ∧ strong.context.getLast? = some ("path", "strong.json")
        ∧ Config.Stage.checking.Tells files "strong.json" strong)
      ∧ (Config.load files "torn.json" = .error torn
        ∧ (torn.context.map Prod.fst).count "path" = 1
        ∧ Config.Stage.parsing.Tells files "torn.json" torn)
      ∧ (Config.load files "gone.json" = .error gone
        ∧ Config.Stage.reading.Tells files "gone.json" gone
        ∧ gone.persistence = .temporary)
      ∧ readScript files "walk.txt" = .error script
      ∧ script.TellsUnread (.system 5) "cli::script" "file" "walk.txt" := by
  intro files strong torn gone script
  have strongLoad : Config.load files "strong.json" = .error strong := rfl
  have tornLoad : Config.load files "torn.json" = .error torn := rfl
  have goneLoad : Config.load files "gone.json" = .error gone := rfl
  have scriptRead : readScript files "walk.txt" = .error script := rfl
  obtain ⟨loading, -, reading, -⟩ := file_faults files
  refine ⟨⟨strongLoad, ?_⟩, ⟨tornLoad, ?_⟩, ⟨goneLoad, ?_⟩, scriptRead, ?_⟩
  · obtain ⟨last, -, ⟨stage, -, tells, only⟩, -⟩ := loading _ _ strongLoad
    obtain rfl := only .checking
      (.inl ⟨"[1, 12]", { initialFuel := 1, maxBoost := 12 }, rfl, rfl, by decide⟩)
    exact ⟨last, tells⟩
  · obtain ⟨-, once, ⟨stage, -, tells, only⟩, -⟩ := loading _ _ tornLoad
    obtain rfl := only .parsing (.inl ⟨"\x7b\"max_boost\": 12", rfl, rfl⟩)
    exact ⟨once, tells⟩
  · obtain ⟨-, -, ⟨stage, -, tells, only⟩, temporary, failed⟩ := loading _ _ goneLoad
    obtain rfl := only .reading (.inl ⟨.system 5, rfl⟩)
    exact ⟨tells, temporary.mpr (failed.mpr ⟨.system 5, rfl, by decide, by decide⟩)⟩
  · obtain ⟨e, failed, tells, -⟩ := reading _ _ scriptRead
    cases failed
    exact tells

end CommandLine
end GridRobot
