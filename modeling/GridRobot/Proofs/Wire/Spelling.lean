import GridRobot.Proofs.Json.Printing
import GridRobot.Proofs.Json.Spelling
import GridRobot.Proofs.Wire.Instructions
import GridRobot.Proofs.Wire.Structures
import GridRobot.Wire.Document
import Mathlib.Data.List.Forall2

/-! # Every spelling is read

A value has many spellings: each structure and each instruction within it is an object, with its
members in any order, or an array, an orientation or a fuel that is absent is left out or null, and
each name is a text or the key of an object. All of them are read as the value, and what is written
of the value is one of them (`documents_spelled`).

The spellings are told along the structure of the value, field by field, and so is the proof: a
structure needs no more than its fields and that each of them is read. -/

namespace GridRobot

open Json (FieldSpelling MembersSpelled StructureSpelled ListSpelled NameSpelled)

/-! ## The spellings of a value -/

def Position.parts (p : Position) : List FieldSpelling :=
  [.required "x" (· = p.x.toJson), .required "y" (· = p.y.toJson)]

def Position.Spelled (p : Position) : Json → Prop :=
  StructureSpelled p.parts

/-- An object has the tag anywhere among what the instruction carries, an array has it first. -/
inductive Instruction.Spelled (i : Instruction) : Json → Prop where
  | object {members : List (String × Json)}
      (same : members.Perm (("op", .ofString i.mnemonic) :: i.details)) :
      Spelled i (.ofMembers members)
  | array : Spelled i (.array (.ofString i.mnemonic :: i.details.map Prod.snd))

def Warning.parts (w : Warning) : List FieldSpelling :=
  [.required "index" (· = .ofNat w.index), .required "character" (· = .ofChar w.character)]

def Warning.Spelled (w : Warning) : Json → Prop :=
  StructureSpelled w.parts

/-- The fields of what a robot shows. -/
def Reading.parts (r : Reading) : List FieldSpelling :=
  [.required "position" r.position.Spelled,
    .optional "orientation" (fun o => NameSpelled o.name) r.orientation,
    .optional "fuel" (fun n j => j = .ofUInt32 n) r.fuel]

def Step.parts (s : Step) : List FieldSpelling :=
  .required "index" (· = .ofNat s.index) :: .required "instruction" s.instruction.Spelled
    :: s.toReading.parts

def Step.Spelled (s : Step) : Json → Prop :=
  StructureSpelled s.parts

def Report.parts (r : Report) : List FieldSpelling :=
  [.required "executed" (· = .ofNat r.executed), .required "ignored" (· = .ofNat r.ignored),
    .required "warnings" (ListSpelled Warning.Spelled r.warnings),
    .required "steps" (ListSpelled Step.Spelled r.steps)]

def Report.Spelled (r : Report) : Json → Prop :=
  StructureSpelled r.parts

def Run.parts (r : Run) : List FieldSpelling :=
  .required "generation" (NameSpelled r.generation.name)
    :: (r.toReading.parts ++ [.required "report" r.report.Spelled])

def Run.Spelled (r : Run) : Json → Prop :=
  StructureSpelled r.parts

def Config.parts (c : Config) : List FieldSpelling :=
  [.required "initial_fuel" (· = .ofUInt32 c.initialFuel),
    .required "max_boost" (· = .ofUInt32 c.maxBoost),
    .required "record_trace" (· = .bool c.recordTrace)]

def Config.Spelled (c : Config) : Json → Prop :=
  StructureSpelled c.parts

/-! ## What is written is a spelling -/

theorem Json.MembersSpelled.memberIfSome {α : Type} {fields : List FieldSpelling}
    {members : List (String × Json)} {Spelled : α → Json → Prop} {write : α → Json}
    (written : ∀ a, Spelled a (write a)) (name : String) (value : Option α)
    (rest : MembersSpelled fields members) :
    MembersSpelled (.optional name Spelled value :: fields)
      (Json.memberIfSome name write value ++ members) := by
  cases value with
  | none => exact .leftOut rfl rest
  | some a => exact .given (written a) rest

theorem Json.ListSpelled.map {α : Type} {Spelled : α → Json → Prop} {write : α → Json}
    (written : ∀ a, Spelled a (write a)) (as : List α) :
    ListSpelled Spelled as (.array (as.map write)) :=
  .items (List.forall₂_map_right_iff.mpr (List.forall₂_same.mpr fun a _ => written a))

theorem Position.spelled_toJson (p : Position) : p.Spelled p.toJson :=
  .object (.given rfl (.given rfl .nil)) (.refl _)

theorem Instruction.spelled_toJson (i : Instruction) : i.Spelled i.toJson := by
  rw [toJson_eq]
  exact .object (.refl _)

theorem Warning.spelled_toJson (w : Warning) : w.Spelled w.toJson :=
  .object (.given rfl (.given rfl .nil)) (.refl _)

theorem Orientation.spelled_toJson (o : Orientation) : NameSpelled o.name o.toJson :=
  .text

theorem Generation.spelled_toJson (g : Generation) : NameSpelled g.name g.toJson :=
  .text

theorem Reading.spelled_members (r : Reading) {fields : List FieldSpelling}
    {members : List (String × Json)} (rest : MembersSpelled fields members) :
    MembersSpelled (r.parts ++ fields) (r.members ++ members) := by
  rw [Reading.members, List.append_assoc, List.cons_append]
  refine .given r.position.spelled_toJson ?_
  refine .memberIfSome Orientation.spelled_toJson "orientation" r.orientation ?_
  refine .memberIfSome ?_ "fuel" r.fuel rest
  exact fun _ => rfl

theorem Step.spelled_toJson (s : Step) : s.Spelled s.toJson := by
  have shown := s.toReading.spelled_members .nil
  rw [List.append_nil, List.append_nil] at shown
  exact .object (.given rfl (.given s.instruction.spelled_toJson shown)) (.refl _)

theorem Report.spelled_toJson (r : Report) : r.Spelled r.toJson :=
  .object (.given rfl (.given rfl (.given (.map Warning.spelled_toJson r.warnings)
    (.given (.map Step.spelled_toJson r.steps) .nil)))) (.refl _)

theorem Run.spelled_toJson (r : Run) : r.Spelled r.toJson := by
  have report : MembersSpelled [.required "report" r.report.Spelled] _ :=
    .given r.report.spelled_toJson .nil
  have shown := r.toReading.spelled_members report
  exact .object (.given r.generation.spelled_toJson shown) (.refl _)

theorem Config.spelled_toJson (c : Config) : c.Spelled c.toJson :=
  .object (.given rfl (.given rfl (.given rfl .nil))) (.refl _)

/-! ## What is in range

Indices and counts are written as they are and read as words of 64 bits. -/

/-- The index is a word of 64 bits. -/
def Warning.InRange (w : Warning) : Prop :=
  w.index < UInt64.size

/-- The index is a word of 64 bits. -/
def Step.InRange (s : Step) : Prop :=
  s.index < UInt64.size

/-- All counts and indices are words of 64 bits. -/
structure Report.InRange (r : Report) : Prop where
  executed : r.executed < UInt64.size
  ignored : r.ignored < UInt64.size
  warnings : ∀ w ∈ r.warnings, w.InRange
  steps : ∀ s ∈ r.steps, s.InRange

/-- All counts and indices of the report are words of 64 bits. -/
def Run.InRange (r : Run) : Prop :=
  r.report.InRange

/-! ## A spelling is read -/

theorem Coordinate.ofJson?_toJson (c : Coordinate) : Coordinate.ofJson? c.toJson = some c := by
  rw [Coordinate.ofJson?, Coordinate.toJson, Json.integer?_ofInt, Option.bind_some,
    Coordinate.ofInt?, dif_pos ⟨c.least_le, c.le_greatest⟩]

theorem Json.read_of_eq {α : Type} {read? : Json → Option α} {written : Json} {a : α}
    (read : read? written = some a) (j : Json) (same : j = written) : read? j = some a :=
  same ▸ read

theorem Position.ofJson?_of_spelled (p : Position) (j : Json) (spelled : p.Spelled j) :
    Position.ofJson? j = some p := by
  obtain ⟨given, fields, found⟩ := spelled.exists_fields (show ["x", "y"].Nodup by decide)
  simp only [Position.parts, List.forall_mem_cons] at found
  obtain ⟨x, y, -⟩ := found
  apply Position.ofJson?_eq_some.mpr
  refine ⟨given, fields, ?_, ?_⟩
  · exact x.read_required (Json.read_of_eq p.x.ofJson?_toJson)
  · exact y.read_required (Json.read_of_eq p.y.ofJson?_toJson)

theorem Orientation.ofJson?_of_spelled (o : Orientation) (j : Json)
    (spelled : NameSpelled o.name j) : Orientation.ofJson? j = some o := by
  rw [Orientation.ofJson?, Json.choice?_of_spelled spelled]
  cases o <;> rfl

theorem Generation.ofJson?_of_spelled (g : Generation) (j : Json)
    (spelled : NameSpelled g.name j) : Generation.ofJson? j = some g := by
  rw [Generation.ofJson?, Json.choice?_of_spelled spelled]
  cases g <;> rfl

theorem Instruction.ofJson?_of_spelled (room : Nat) (i : Instruction) (j : Json)
    (spelled : i.Spelled j) : Instruction.ofJson? room j = some i := by
  cases spelled with
  | object same => exact ofJson?_of_perm same
  | array =>
    cases i with
    | forward | backward | left | right => rfl
    | boost value =>
      change (Json.ofNat value.toNat).uint8?.map boost = _
      rw [Json.uint8?_ofNat, Option.map_some]
    | unknown c =>
      change (Json.ofChar c).char?.map unknown = _
      rw [Json.char?_ofChar, Option.map_some]

theorem Warning.ofJson?_of_spelled (w : Warning) (inRange : w.InRange) (j : Json)
    (spelled : w.Spelled j) : Warning.ofJson? j = some w := by
  obtain ⟨given, fields, found⟩ :=
    spelled.exists_fields (show ["index", "character"].Nodup by decide)
  simp only [Warning.parts, List.forall_mem_cons] at found
  obtain ⟨index, character, -⟩ := found
  apply Warning.ofJson?_eq_some.mpr
  refine ⟨given, fields, ?_, ?_⟩
  · exact index.read_required (Json.read_of_eq (Json.count?_ofNat inRange))
  · exact character.read_required (Json.read_of_eq (Json.char?_ofChar w.character))

/-- The fields of a reading are read, whatever structure they are part of. -/
theorem Reading.read_parts (r : Reading) {given : Json.Fields}
    (found : ∀ field ∈ r.parts, field.Found given) :
    given.required "position" Position.ofJson? = some r.position
      ∧ given.optional "orientation" Orientation.ofJson? = some r.orientation
      ∧ given.optional "fuel" Json.uint32? = some r.fuel := by
  simp only [parts, List.forall_mem_cons] at found
  obtain ⟨position, orientation, fuel, -⟩ := found
  refine ⟨?_, ?_, ?_⟩
  · exact position.read_required r.position.ofJson?_of_spelled
  · exact orientation.read_optional Orientation.ofJson?_of_spelled rfl
  · exact fuel.read_optional (fun n => Json.read_of_eq (Json.uint32?_ofUInt32 n)) rfl

theorem Step.ofJson?_of_spelled (room : Nat) (s : Step) (inRange : s.InRange) (j : Json)
    (spelled : s.Spelled j) : Step.ofJson? room j = some s := by
  obtain ⟨given, fields, found⟩ := spelled.exists_fields
    (show ["index", "instruction", "position", "orientation", "fuel"].Nodup by decide)
  simp only [Step.parts, List.forall_mem_cons] at found
  obtain ⟨index, instruction, shown⟩ := found
  obtain ⟨position, orientation, fuel⟩ := s.toReading.read_parts shown
  apply Step.ofJson?_eq_some.mpr
  refine ⟨given, fields, ?_, ?_, position, orientation, fuel⟩
  · exact index.read_required (Json.read_of_eq (Json.count?_ofNat inRange))
  · exact instruction.read_required (s.instruction.ofJson?_of_spelled (room - 1))

theorem Report.ofJson?_of_spelled (room : Nat) (r : Report) (inRange : r.InRange) (j : Json)
    (spelled : r.Spelled j) : Report.ofJson? room j = some r := by
  obtain ⟨given, fields, found⟩ :=
    spelled.exists_fields (show ["executed", "ignored", "warnings", "steps"].Nodup by decide)
  simp only [Report.parts, List.forall_mem_cons] at found
  obtain ⟨executed, ignored, warnings, steps, -⟩ := found
  apply Report.ofJson?_eq_some.mpr
  refine ⟨given, fields, ?_, ?_, ?_, ?_⟩
  · exact executed.read_required (Json.read_of_eq (Json.count?_ofNat inRange.executed))
  · exact ignored.read_required (Json.read_of_eq (Json.count?_ofNat inRange.ignored))
  · refine warnings.read_required fun j spelled => Json.list?_of_spelled spelled fun w member => ?_
    exact w.ofJson?_of_spelled (inRange.warnings w member)
  · refine steps.read_required fun j spelled => Json.list?_of_spelled spelled fun s member => ?_
    exact s.ofJson?_of_spelled (room - 2) (inRange.steps s member)

theorem Run.ofJson?_of_spelled (room : Nat) (r : Run) (inRange : r.InRange) (j : Json)
    (spelled : r.Spelled j) : Run.ofJson? room j = some r := by
  obtain ⟨given, fields, found⟩ := spelled.exists_fields
    (show ["generation", "position", "orientation", "fuel", "report"].Nodup by decide)
  simp only [Run.parts, List.forall_mem_cons, List.forall_mem_append] at found
  obtain ⟨generation, shown, report, -⟩ := found
  obtain ⟨position, orientation, fuel⟩ := r.toReading.read_parts shown
  apply Run.ofJson?_eq_some.mpr
  refine ⟨given, fields, ?_, position, orientation, fuel, ?_⟩
  · exact generation.read_required r.generation.ofJson?_of_spelled
  · exact report.read_required (r.report.ofJson?_of_spelled (room - 1) inRange)

theorem Config.ofJson?_of_spelled (c : Config) (j : Json) (spelled : c.Spelled j) :
    Config.ofJson? j = some c := by
  obtain ⟨given, fields, found⟩ := spelled.exists_fields
    (show ["initial_fuel", "max_boost", "record_trace"].Nodup by decide)
  simp only [Config.parts, List.forall_mem_cons] at found
  obtain ⟨initialFuel, maxBoost, recordTrace, -⟩ := found
  apply Config.ofJson?_eq_some.mpr
  refine ⟨given, fields, ?_, ?_, ?_⟩
  · exact initialFuel.read_defaulted (Json.read_of_eq (Json.uint32?_ofUInt32 c.initialFuel))
  · exact maxBoost.read_defaulted (Json.read_of_eq (Json.uint32?_ofUInt32 c.maxBoost))
  · exact recordTrace.read_defaulted (Json.read_of_eq rfl)

/-! ## Documents -/

/-- What is written of a value is one of its spellings, and texts of all spellings are read as the
value, if it is in range. -/
structure Document.ReadsSpellings (α : Type) [Document α] (Spelled : α → Json → Prop)
    (InRange : α → Prop) : Prop where
  written : ∀ a, Spelled a (Document.toJson a)
  read : ∀ a, InRange a → ∀ j, Spelled a j → ∀ text, j.IsWrittenAs text →
    Document.parse? α text = some a

theorem Document.readsSpellings {α : Type} [Document α] {Spelled : α → Json → Prop}
    {InRange : α → Prop} (written : ∀ a, Spelled a (toJson a))
    (accepted : ∀ a, InRange a → ∀ j, Spelled a j → ofJson? j = some a) :
    ReadsSpellings α Spelled InRange where
  written := written
  read a inRange j spelled text isText := by
    rw [parse?, Json.parse?_eq_some_iff.mpr isText, Option.bind_some, accepted a inRange j spelled]

/-- **Spellings.** However the structures, the instructions and the names within a value are
spelled, every text of it is read as the value. -/
theorem documents_spelled :
    Document.ReadsSpellings Position Position.Spelled (fun _ => True)
      ∧ Document.ReadsSpellings Warning Warning.Spelled Warning.InRange
      ∧ Document.ReadsSpellings Step Step.Spelled Step.InRange
      ∧ Document.ReadsSpellings Report Report.Spelled Report.InRange
      ∧ Document.ReadsSpellings Run Run.Spelled Run.InRange
      ∧ Document.ReadsSpellings Config Config.Spelled (fun _ => True) := by
  refine ⟨?_, ?_, ?_, ?_, ?_, ?_⟩
  · exact Document.readsSpellings Position.spelled_toJson fun p _ => p.ofJson?_of_spelled
  · exact Document.readsSpellings Warning.spelled_toJson Warning.ofJson?_of_spelled
  · exact Document.readsSpellings Step.spelled_toJson (Step.ofJson?_of_spelled _)
  · exact Document.readsSpellings Report.spelled_toJson (Report.ofJson?_of_spelled _)
  · exact Document.readsSpellings Run.spelled_toJson (Run.ofJson?_of_spelled _)
  · exact Document.readsSpellings Config.spelled_toJson fun c _ => c.ofJson?_of_spelled

def leftwardReport : Report where
  executed := 1
  ignored := 1
  warnings := [⟨0, ' '⟩]
  steps :=
    [{ index := 1, instruction := .boost 2, position := ⟨.zero, .zero⟩, orientation := some .left }]

/-- Arrays for the report, its step and the position, where a fuel that is absent is left out, and
objects with their members reversed for the warning and the instruction. -/
theorem documents_spelled_leftwardReport :
    let text := "[1,1,[\x7b\"character\":\" \",\"index\":0\x7d],\n"
      ++ "[[1,\x7b\"value\":2,\"op\":\"BOOST\"\x7d,[0, 0],\x7b\"left\":null\x7d]]]"
    let warning := Json.ofMembers [("character", .ofChar ' '), ("index", .ofNat 0)]
    let boost := Json.ofMembers [("value", .ofNat 2), ("op", .ofString "BOOST")]
    let left := Json.ofMembers [("left", .null)]
    let step := Json.array [.ofNat 1, boost, .array [.ofInt 0, .ofInt 0], left]
    let report := Json.array [.ofNat 1, .ofNat 1, .array [warning], .array [step]]
    leftwardReport.InRange ∧ leftwardReport.Spelled report ∧ report.IsWrittenAs text
      ∧ Document.parse? Report text = some leftwardReport := by
  intro text warning boost left step report
  have inRange : leftwardReport.InRange := by
    refine ⟨by decide, by decide, ?_, ?_⟩
    · simp [leftwardReport, Warning.InRange, UInt64.size]
    · simp [leftwardReport, Step.InRange, UInt64.size]
  have read : Json.parse? text = some report := by
    subst text
    rfl
  have written := Json.parse?_eq_some_iff.mp read
  have spelledWarning : Warning.Spelled ⟨0, ' '⟩ warning :=
    .object (.given rfl (.given rfl .nil)) (.swap _ _ _)
  have spelledBoost : Instruction.Spelled (.boost 2) boost := .object (.swap _ _ _)
  have atOrigin : Position.Spelled ⟨.zero, .zero⟩ (.array [.ofInt 0, .ofInt 0]) :=
    .array (.given rfl (.given rfl (.done (List.forall_mem_nil _))))
  have spelledStep : ListSpelled Step.Spelled leftwardReport.steps (.array [step]) :=
    .items (.cons (.array (.given rfl (.given spelledBoost (.given atOrigin (.given .object
      (.done (by simp [FieldSpelling.optional]))))))) .nil)
  have spelled : leftwardReport.Spelled report :=
    .array (.given rfl (.given rfl (.given (.items (.cons spelledWarning .nil))
      (.given spelledStep (.done (List.forall_mem_nil _))))))
  obtain ⟨-, -, -, reports, -⟩ := documents_spelled
  exact ⟨inRange, spelled, written,
    reports.read leftwardReport inRange report spelled text written⟩

end GridRobot
