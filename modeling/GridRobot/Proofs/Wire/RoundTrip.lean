import GridRobot.Proofs.Wire.Spelling

/-! # Reading undoes writing

Every value that is written as JSON is read back from both of its texts, and so is every value that
was read from some other text: `documents_readBack`. Indices and counts are written as they are and
read as words of 64 bits, so the first half asks that they are in range; a value that was read is.

What is written of a value is one of its spellings, and all of these are read as the value. -/

namespace GridRobot

/-! ## What is written is read back -/

theorem Position.ofJson?_toJson (p : Position) : Position.ofJson? p.toJson = some p :=
  p.ofJson?_of_spelled _ p.spelled_toJson

theorem Orientation.ofJson?_toJson (o : Orientation) : Orientation.ofJson? o.toJson = some o :=
  o.ofJson?_of_spelled _ o.spelled_toJson

theorem Generation.ofJson?_toJson (g : Generation) : Generation.ofJson? g.toJson = some g :=
  g.ofJson?_of_spelled _ g.spelled_toJson

theorem Instruction.ofJson?_toJson (room : Nat) (i : Instruction) :
    Instruction.ofJson? room i.toJson = some i :=
  i.ofJson?_of_spelled room _ i.spelled_toJson

theorem Warning.ofJson?_toJson {w : Warning} (inRange : w.InRange) :
    Warning.ofJson? w.toJson = some w :=
  w.ofJson?_of_spelled inRange _ w.spelled_toJson

theorem Step.ofJson?_toJson (room : Nat) {s : Step} (inRange : s.InRange) :
    Step.ofJson? room s.toJson = some s :=
  s.ofJson?_of_spelled room inRange _ s.spelled_toJson

theorem Report.ofJson?_toJson (room : Nat) {r : Report} (inRange : r.InRange) :
    Report.ofJson? room r.toJson = some r :=
  r.ofJson?_of_spelled room inRange _ r.spelled_toJson

theorem Run.ofJson?_toJson (room : Nat) {r : Run} (inRange : r.InRange) :
    Run.ofJson? room r.toJson = some r :=
  r.ofJson?_of_spelled room inRange _ r.spelled_toJson

theorem Config.ofJson?_toJson (c : Config) : Config.ofJson? c.toJson = some c :=
  c.ofJson?_of_spelled _ c.spelled_toJson

/-! ## What is read is in range -/

theorem Warning.inRange_of_ofJson? {j : Json} {w : Warning} (read : Warning.ofJson? j = some w) :
    w.InRange := by
  obtain ⟨fields, -, index, -⟩ := Warning.ofJson?_eq_some.mp read
  obtain ⟨_, -, counted⟩ := Json.Fields.exists_of_required index
  exact Json.lt_of_count? counted

theorem Step.inRange_of_ofJson? {room : Nat} {j : Json} {s : Step}
    (read : Step.ofJson? room j = some s) : s.InRange := by
  obtain ⟨fields, -, index, -⟩ := Step.ofJson?_eq_some.mp read
  obtain ⟨_, -, counted⟩ := Json.Fields.exists_of_required index
  exact Json.lt_of_count? counted

theorem Report.inRange_of_ofJson? {room : Nat} {j : Json} {r : Report}
    (read : Report.ofJson? room j = some r) : r.InRange := by
  obtain ⟨fields, -, executed, ignored, warnings, steps⟩ := Report.ofJson?_eq_some.mp read
  obtain ⟨_, -, executed⟩ := Json.Fields.exists_of_required executed
  obtain ⟨_, -, ignored⟩ := Json.Fields.exists_of_required ignored
  obtain ⟨_, -, warnings⟩ := Json.Fields.exists_of_required warnings
  obtain ⟨_, -, steps⟩ := Json.Fields.exists_of_required steps
  refine ⟨Json.lt_of_count? executed, Json.lt_of_count? ignored, ?_, ?_⟩
  · intro w member
    obtain ⟨item, readItem⟩ := Json.exists_of_mem_list? warnings member
    exact Warning.inRange_of_ofJson? readItem
  · intro s member
    obtain ⟨item, readItem⟩ := Json.exists_of_mem_list? steps member
    exact Step.inRange_of_ofJson? readItem

theorem Run.inRange_of_ofJson? {room : Nat} {j : Json} {r : Run}
    (read : Run.ofJson? room j = some r) : r.InRange := by
  obtain ⟨fields, -, -, -, -, -, report⟩ := Run.ofJson?_eq_some.mp read
  obtain ⟨_, -, report⟩ := Json.Fields.exists_of_required report
  exact Report.inRange_of_ofJson? report

/-! ## Documents -/

namespace Document

variable {α : Type} [Document α]

theorem parse?_compact {a : α} (read : ofJson? (toJson a) = some a) :
    parse? α (compact a) = some a := by
  rw [parse?, compact, Json.parse?_compact, Option.bind_some, read]

theorem parse?_pretty {a : α} (read : ofJson? (toJson a) = some a) :
    parse? α (pretty a) = some a := by
  rw [parse?, pretty, Json.parse?_pretty, Option.bind_some, read]

/-- Values in range are read back from both of their texts, and so is a value that was read from
any text at all. -/
structure ReadBack (α : Type) [Document α] (InRange : α → Prop) : Prop where
  compact : ∀ a, InRange a → parse? α (compact a) = some a
  pretty : ∀ a, InRange a → parse? α (pretty a) = some a
  again : ∀ text a, parse? α text = some a →
    parse? α (Document.compact a) = some a ∧ parse? α (Document.pretty a) = some a

theorem readBack {InRange : α → Prop} (written : ∀ a, InRange a → ofJson? (toJson a) = some a)
    (accepted : ∀ j (a : α), ofJson? j = some a → InRange a) : ReadBack α InRange where
  compact a inRange := parse?_compact (written a inRange)
  pretty a inRange := parse?_pretty (written a inRange)
  again text a read := by
    -- Only the value matters: it is in range, and the text that it came from is forgotten.
    obtain ⟨j, -, value⟩ := Option.bind_eq_some_iff.mp read
    have back := written a (accepted j a value)
    exact ⟨parse?_compact back, parse?_pretty back⟩

/-- Where nothing is a word of 64 bits, every value is in range. -/
theorem readBack_all (written : ∀ a : α, ofJson? (toJson a) = some a) :
    ReadBack α fun _ => True :=
  readBack (fun a _ => written a) (fun _ _ _ => trivial)

end Document

open Document (ReadBack)

theorem documents_readBack :
    ReadBack Instruction (fun _ => True) ∧ ReadBack Orientation (fun _ => True)
      ∧ ReadBack Generation (fun _ => True) ∧ ReadBack Position (fun _ => True)
      ∧ ReadBack Config (fun _ => True) ∧ ReadBack Warning Warning.InRange
      ∧ ReadBack Step Step.InRange ∧ ReadBack Report Report.InRange
      ∧ ReadBack Run Run.InRange := by
  refine ⟨?_, ?_, ?_, ?_, ?_, ?_, ?_, ?_, ?_⟩
  · exact Document.readBack_all (Instruction.ofJson?_toJson Json.greatestDepth)
  · exact Document.readBack_all Orientation.ofJson?_toJson
  · exact Document.readBack_all Generation.ofJson?_toJson
  · exact Document.readBack_all Position.ofJson?_toJson
  · exact Document.readBack_all Config.ofJson?_toJson
  · exact Document.readBack (fun _ => Warning.ofJson?_toJson) fun _ _ => Warning.inRange_of_ofJson?
  · exact Document.readBack (fun _ => Step.ofJson?_toJson _) fun _ _ => Step.inRange_of_ofJson?
  · exact Document.readBack (fun _ => Report.ofJson?_toJson _)
      fun _ _ => Report.inRange_of_ofJson?
  · exact Document.readBack (fun _ => Run.ofJson?_toJson _) fun _ _ => Run.inRange_of_ofJson?

/-- A run whose numbers are the ends of their ranges, with characters that no text holds as they
are. -/
def extremeRun : Run where
  generation := .mk3
  position := ⟨⟨leastCoordinate, by decide, by decide⟩, ⟨greatestCoordinate, by decide, by decide⟩⟩
  fuel := some 4294967295
  report :=
    { executed := 18446744073709551615
      warnings := [⟨18446744073709551615, '"'⟩, ⟨1, '\\'⟩, ⟨2, '\x01'⟩, ⟨3, '\n'⟩]
      steps :=
        [{ index := 0, instruction := .boost 255, position := ⟨.zero, .zero⟩,
           orientation := some .left },
         { index := 1, instruction := .unknown '\x7f', position := ⟨.zero, .zero⟩ }] }

theorem documents_readBack_extremeRun :
    extremeRun.InRange ∧ Document.parse? Run (Document.compact extremeRun) = some extremeRun
      ∧ Document.parse? Run (Document.pretty extremeRun) = some extremeRun := by
  have inRange : extremeRun.InRange := by
    refine ⟨by decide, by decide, ?_, ?_⟩
    · simp [extremeRun, Warning.InRange, UInt64.size]
    · simp [extremeRun, Step.InRange, UInt64.size]
  obtain ⟨-, -, -, -, -, -, -, -, runs⟩ := documents_readBack
  exact ⟨inRange, runs.compact extremeRun inRange, runs.pretty extremeRun inRange⟩

end GridRobot
