import GridRobot.Proofs.CommandLine.Failing
import GridRobot.Proofs.Fault.Decoding
import GridRobot.Proofs.Naming
import GridRobot.Proofs.Text.Quoting

/-! # Summaries of one line

A summary shows the texts of a fault as they are, so it has a line feed wherever one of them has one
(`newline_mem_summary_iff`). The program's own texts have none, and neither have those of errors of
reading. What is left is what the user gave: the name of a generation, or the path of a file
(`newline_mem_summaries_iff`). The text of a configuration is not shown at all. -/

namespace GridRobot

namespace Fault

/-! ## Line feeds in a summary -/

theorem newline_mem_operationPart_iff {operation : String} :
    '\n' ∈ operationPart operation ↔ '\n' ∈ operation.toList := by
  unfold operationPart
  split
  next unnamed => simp [unnamed]
  next => simp

theorem newline_mem_messagePart_iff {message : String} :
    '\n' ∈ messagePart message ↔ '\n' ∈ message.toList := by
  unfold messagePart
  split
  next silent => simp [silent]
  next => simp

theorem newline_mem_afterValue_iff {more : List (String × String)} :
    '\n' ∈ afterValue more
      ↔ ∃ pair ∈ more, '\n' ∈ pair.1.toList ∨ '\n' ∈ pair.2.toList := by
  induction more with
  | nil => simp [afterValue]
  | cons pair more ih => simp [afterValue, ih, or_assoc]

theorem newline_mem_contextPart_iff {context : List (String × String)} :
    '\n' ∈ contextPart context
      ↔ ∃ pair ∈ context, '\n' ∈ pair.1.toList ∨ '\n' ∈ pair.2.toList := by
  cases context with
  | nil => simp [contextPart]
  | cons pair more => simp [contextPart, pairsPart, newline_mem_afterValue_iff, or_assoc]

theorem newline_mem_summary_iff (f : Fault) :
    '\n' ∈ f.summary.toList
      ↔ '\n' ∈ f.operation.toList
        ∨ (∃ pair ∈ f.context, '\n' ∈ pair.1.toList ∨ '\n' ∈ pair.2.toList)
        ∨ '\n' ∈ f.message.toList := by
  have kind : ∀ kind : FaultKind, '\n' ∉ kind.name.toList := by
    intro kind
    cases kind <;> decide
  have persistence : ∀ persistence : Persistence, '\n' ∉ persistence.name.toList := by
    intro persistence
    cases persistence <;> decide
  rw [toList_summary]
  simp [kind, persistence, newline_mem_operationPart_iff, newline_mem_contextPart_iff,
    newline_mem_messagePart_iff]

theorem newline_mem_summary_noting_iff (f : Fault) {key : String} (ownKey : '\n' ∉ key.toList)
    (value : String) :
    '\n' ∈ (f.noting key value).summary.toList
      ↔ '\n' ∈ f.summary.toList ∨ '\n' ∈ value.toList := by
  rw [newline_mem_summary_iff, newline_mem_summary_iff f]
  simp only [noting, List.mem_append, List.mem_singleton, or_and_right, exists_or,
    exists_eq_left, ownKey, false_or]
  rw [or_right_comm, ← or_assoc]

theorem newline_mem_summary_ofIo_iff (e : IoError) {operation : String}
    (ownOperation : '\n' ∉ operation.toList) :
    '\n' ∈ ((Fault.ofIo e).during operation).summary.toList ↔ '\n' ∈ e.text.toList := by
  have context : ((Fault.ofIo e).during operation).context = [("called", "io")] := rfl
  have message : ((Fault.ofIo e).during operation).message = e.text := rfl
  have name : ((Fault.ofIo e).during operation).operation = operation := rfl
  simp [newline_mem_summary_iff, context, message, name, ownOperation]

end Fault

/-! ## The program's own texts -/

theorem Generation.newline_mem_summary_unknownName_iff (s : String) :
    '\n' ∈ (unknownName s).summary.toList ↔ '\n' ∈ s.toList := by
  have operation : (unknownName s).operation = "control::parse_generation" := rfl
  have context : (unknownName s).context
      = [("generation", s), ("expected", "mk1, mk2, mk3")] := rfl
  have message : (unknownName s).message = "unknown robot generation '" ++ s ++ "'" := rfl
  simp [Fault.newline_mem_summary_iff, operation, context, message]

namespace Config

theorem newline_not_mem_summary_unreadable : '\n' ∉ unreadable.summary.toList := by
  decide

theorem newline_not_mem_summary_unreachableBoost (maxBoost : UInt32) :
    '\n' ∉ (unreachableBoost maxBoost).summary.toList := by
  have operation : (unreachableBoost maxBoost).operation = "config::validate" := rfl
  have context : (unreachableBoost maxBoost).context = [("field", "max_boost")] := rfl
  have message : (unreachableBoost maxBoost).message
      = "max_boost " ++ maxBoost.toNat.repr
        ++ " can never be reached by a single digit (max " ++ greatestDigit.toNat.repr ++ ")" := rfl
  have digits : ∀ n : Nat, '\n' ∉ Nat.toDigits 10 n := by
    intro n member
    rw [← Nat.toList_repr] at member
    exact (Text.isShowable_of_isPrintable (Text.printable_repr n _ member)).noNewline rfl
  simp [Fault.newline_mem_summary_iff, operation, context, message, digits]

theorem newline_not_mem_summary_of_parse {text : String} {fault : Fault}
    (failed : parse text = .error fault) : '\n' ∉ fault.summary.toList := by
  cases read : Document.parse? Config text with
  | none =>
    cases failed.symm.trans (parse_of_none read)
    exact newline_not_mem_summary_unreadable
  | some config =>
    by_cases tooGreat : 9 < config.maxBoost
    · cases failed.symm.trans (parse_of_lt read tooGreat)
      exact newline_not_mem_summary_unreachableBoost config.maxBoost
    · cases failed.symm.trans (parse_of_le read (UInt32.not_lt.mp tooGreat))

/-- Where a fault is none of the file's own making, the path is all that can have a line feed. -/
theorem LoadFails.newline_mem_summary_iff {files : FileSystem} {path : String} {fault : Fault}
    (fails : LoadFails files path fault)
    (oneLine : ∀ e, files path = .error e → '\n' ∉ e.text.toList) :
    '\n' ∈ fault.summary.toList ↔ '\n' ∈ path.toList := by
  have key : '\n' ∉ "path".toList := by decide
  have operation : '\n' ∉ "config::load".toList := by decide
  cases fails with
  | @read e failed =>
    rw [Fault.newline_mem_summary_noting_iff _ key, Fault.newline_mem_summary_ofIo_iff e operation]
    exact or_iff_right (oneLine e failed)
  | parse =>
    rw [Fault.newline_mem_summary_noting_iff _ key]
    exact or_iff_right newline_not_mem_summary_unreadable
  | @validate _ config =>
    rw [Fault.newline_mem_summary_noting_iff _ key]
    exact or_iff_right (newline_not_mem_summary_unreachableBoost config.maxBoost)

end Config

namespace CommandLine

theorem newline_mem_summary_of_readScript {files : FileSystem} {file : String} {fault : Fault}
    (failed : readScript files file = .error fault)
    (oneLine : ∀ e, files file = .error e → '\n' ∉ e.text.toList) :
    '\n' ∈ fault.summary.toList ↔ '\n' ∈ file.toList := by
  have key : '\n' ∉ "file".toList := by decide
  have operation : '\n' ∉ "cli::script".toList := by decide
  cases read : files file with
  | ok source => cases failed.symm.trans (readScript_of_ok read)
  | error e =>
    cases failed.symm.trans (readScript_of_error read)
    rw [Fault.newline_mem_summary_noting_iff _ key, Fault.newline_mem_summary_ofIo_iff e operation]
    exact or_iff_right (oneLine e read)

/-- **Where a summary is one line.** Take any text as the name of a generation, as the text of a
configuration, as the path of a configuration file, or as that of a script, and let the text of an
error of reading have one line. If that fails, the summary of the fault has a line feed if and only
if the name or the path has one. For the text of a configuration, it never has one. -/
theorem newline_mem_summaries_iff (given : String) (files : FileSystem)
    (oneLine : ∀ e, files given = .error e → '\n' ∉ e.text.toList) :
    (∀ fault, Generation.parse given = .error fault →
        ('\n' ∈ fault.summary.toList ↔ '\n' ∈ given.toList))
      ∧ (∀ fault, Config.parse given = .error fault → '\n' ∉ fault.summary.toList)
      ∧ (∀ fault, Config.load files given = .error fault →
        ('\n' ∈ fault.summary.toList ↔ '\n' ∈ given.toList))
      ∧ ∀ fault, readScript files given = .error fault →
        ('\n' ∈ fault.summary.toList ↔ '\n' ∈ given.toList) := by
  refine ⟨fun fault failed => ?_, fun fault => Config.newline_not_mem_summary_of_parse,
    fun fault failed => ?_, fun fault failed => newline_mem_summary_of_readScript failed oneLine⟩
  · have unnamed : ∀ g : Generation, ¬ g.Names given := by
      intro g named
      cases failed.symm.trans (Generation.parse_eq_ok_iff.mpr named)
    cases failed.symm.trans (Generation.parse_of_not_names unnamed)
    exact Generation.newline_mem_summary_unknownName_iff given
  · exact (Config.load_eq_error_iff.mp failed).newline_mem_summary_iff oneLine

/-- A text in two lines, which as the text of a configuration is refused in one line. -/
theorem newline_mem_summaries_iff_twoLines :
    let files : FileSystem := fun _ => .error (.system 2)
    let unknown := Generation.unknownName "mk\n9"
    let missing := ((Fault.ofIo (.system 2)).during "config::load").noting "path" "mk\n9"
    let lost := ((Fault.ofIo (.system 2)).during "cli::script").noting "file" "mk\n9"
    (∀ e, files "mk\n9" = .error e → '\n' ∉ e.text.toList)
      ∧ (Generation.parse "mk\n9" = .error unknown ∧ '\n' ∈ unknown.summary.toList)
      ∧ (Config.parse "mk\n9" = .error Config.unreadable ∧ '\n' ∉ Config.unreadable.summary.toList)
      ∧ (Config.load files "mk\n9" = .error missing ∧ '\n' ∈ missing.summary.toList)
      ∧ readScript files "mk\n9" = .error lost ∧ '\n' ∈ lost.summary.toList := by
  intro files unknown missing lost
  have oneLine : ∀ e, files "mk\n9" = .error e → '\n' ∉ e.text.toList := by
    rintro e ⟨⟩
    decide
  have twoLines : '\n' ∈ "mk\n9".toList := by decide
  have named : Generation.parse "mk\n9" = .error (Generation.unknownName "mk\n9") := rfl
  have parsed : Config.parse "mk\n9" = .error Config.unreadable := rfl
  have loaded : Config.load files "mk\n9" = .error missing := rfl
  have read : readScript files "mk\n9" = .error lost := rfl
  obtain ⟨ofName, ofText, ofConfig, ofScript⟩ := newline_mem_summaries_iff "mk\n9" files oneLine
  exact ⟨oneLine, ⟨named, (ofName _ named).mpr twoLines⟩, ⟨parsed, ofText _ parsed⟩,
    ⟨loaded, (ofConfig _ loaded).mpr twoLines⟩, read, (ofScript _ read).mpr twoLines⟩

/-- A name in two lines is shown in two lines, and so is a path, be it of a configuration file or of
a script. -/
theorem summary_of_nameInTwoLines :
    let files : FileSystem := fun _ => .error (.system 2)
    (∃ fault, Generation.parse "mk\n9" = .error fault ∧ '\n' ∈ fault.summary.toList)
      ∧ (∃ fault, Config.load files "robot\n.json" = .error fault ∧ '\n' ∈ fault.summary.toList)
      ∧ ∃ fault, readScript files "walk\n.txt" = .error fault ∧ '\n' ∈ fault.summary.toList := by
  intro files
  have oneLine : '\n' ∉ (IoError.system 2).text.toList := by decide
  have missing : ∀ path e, files path = .error e → '\n' ∉ e.text.toList := by
    rintro path e ⟨⟩
    exact oneLine
  refine ⟨⟨_, rfl, ?_⟩, ⟨_, rfl, ?_⟩, ⟨_, rfl, ?_⟩⟩
  · exact (Generation.newline_mem_summary_unknownName_iff "mk\n9").mpr (by decide)
  · have fails : Config.LoadFails files "robot\n.json" _ := .read rfl
    exact (fails.newline_mem_summary_iff (missing "robot\n.json")).mpr (by decide)
  · exact (newline_mem_summary_of_readScript rfl (missing "walk\n.txt")).mpr (by decide)

end CommandLine
end GridRobot
