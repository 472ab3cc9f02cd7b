import GridRobot.Wire.Read

/-! # What a structure asks of its fields

Reading a structure succeeds exactly when its fields can be told apart and each of them reads as
the part of the value that it stands for. Each `ofJson?_eq_some` says so for one structure; with it
nobody has to open the reader again, whether the fields are known or the value is. -/

namespace GridRobot

theorem Position.ofJson?_eq_some {j : Json} {p : Position} :
    Position.ofJson? j = some p ↔ ∃ fields, j.fields? ["x", "y"] = some fields
      ∧ fields.required "x" Coordinate.ofJson? = some p.x
      ∧ fields.required "y" Coordinate.ofJson? = some p.y := by
  constructor
  · intro read
    simp only [Position.ofJson?, Option.bind_eq_bind, Option.bind_eq_some_iff] at read
    obtain ⟨fields, given, _, x, _, y, whole⟩ := read
    cases whole
    exact ⟨fields, given, x, y⟩
  · rintro ⟨fields, given, x, y⟩
    simp only [Position.ofJson?, given, x, y, Option.bind_eq_bind, Option.bind_some]
    rfl

theorem Warning.ofJson?_eq_some {j : Json} {w : Warning} :
    Warning.ofJson? j = some w ↔ ∃ fields, j.fields? ["index", "character"] = some fields
      ∧ fields.required "index" Json.count? = some w.index
      ∧ fields.required "character" Json.char? = some w.character := by
  constructor
  · intro read
    simp only [Warning.ofJson?, Option.bind_eq_bind, Option.bind_eq_some_iff] at read
    obtain ⟨fields, given, _, index, _, character, whole⟩ := read
    cases whole
    exact ⟨fields, given, index, character⟩
  · rintro ⟨fields, given, index, character⟩
    simp only [Warning.ofJson?, given, index, character, Option.bind_eq_bind, Option.bind_some]
    rfl

theorem Step.ofJson?_eq_some {room : Nat} {j : Json} {s : Step} :
    Step.ofJson? room j = some s ↔ ∃ fields,
      j.fields? ["index", "instruction", "position", "orientation", "fuel"] = some fields
        ∧ fields.required "index" Json.count? = some s.index
        ∧ fields.required "instruction" (Instruction.ofJson? (room - 1)) = some s.instruction
        ∧ fields.required "position" Position.ofJson? = some s.position
        ∧ fields.optional "orientation" Orientation.ofJson? = some s.orientation
        ∧ fields.optional "fuel" Json.uint32? = some s.fuel := by
  constructor
  · intro read
    simp only [Step.ofJson?, Option.bind_eq_bind, Option.bind_eq_some_iff] at read
    obtain ⟨fields, given, _, index, _, instruction, _, position, _, orientation, _, fuel, whole⟩ :=
      read
    cases whole
    exact ⟨fields, given, index, instruction, position, orientation, fuel⟩
  · rintro ⟨fields, given, index, instruction, position, orientation, fuel⟩
    simp only [Step.ofJson?, given, index, instruction, position, orientation, fuel,
      Option.bind_eq_bind, Option.bind_some]
    rfl

theorem Report.ofJson?_eq_some {room : Nat} {j : Json} {r : Report} :
    Report.ofJson? room j = some r ↔ ∃ fields,
      j.fields? ["executed", "ignored", "warnings", "steps"] = some fields
        ∧ fields.required "executed" Json.count? = some r.executed
        ∧ fields.required "ignored" Json.count? = some r.ignored
        ∧ fields.required "warnings" (Json.list? Warning.ofJson?) = some r.warnings
        ∧ fields.required "steps" (Json.list? (Step.ofJson? (room - 2))) = some r.steps := by
  constructor
  · intro read
    simp only [Report.ofJson?, Option.bind_eq_bind, Option.bind_eq_some_iff] at read
    obtain ⟨fields, given, _, executed, _, ignored, _, warnings, _, steps, whole⟩ := read
    cases whole
    exact ⟨fields, given, executed, ignored, warnings, steps⟩
  · rintro ⟨fields, given, executed, ignored, warnings, steps⟩
    simp only [Report.ofJson?, given, executed, ignored, warnings, steps, Option.bind_eq_bind,
      Option.bind_some]
    rfl

theorem Run.ofJson?_eq_some {room : Nat} {j : Json} {r : Run} :
    Run.ofJson? room j = some r ↔ ∃ fields,
      j.fields? ["generation", "position", "orientation", "fuel", "report"] = some fields
        ∧ fields.required "generation" Generation.ofJson? = some r.generation
        ∧ fields.required "position" Position.ofJson? = some r.position
        ∧ fields.optional "orientation" Orientation.ofJson? = some r.orientation
        ∧ fields.optional "fuel" Json.uint32? = some r.fuel
        ∧ fields.required "report" (Report.ofJson? (room - 1)) = some r.report := by
  constructor
  · intro read
    simp only [Run.ofJson?, Option.bind_eq_bind, Option.bind_eq_some_iff] at read
    obtain ⟨fields, given, _, generation, _, position, _, orientation, _, fuel, _, report, whole⟩ :=
      read
    cases whole
    exact ⟨fields, given, generation, position, orientation, fuel, report⟩
  · rintro ⟨fields, given, generation, position, orientation, fuel, report⟩
    simp only [Run.ofJson?, given, generation, position, orientation, fuel, report,
      Option.bind_eq_bind, Option.bind_some]
    rfl

theorem Config.ofJson?_eq_some {j : Json} {c : Config} :
    Config.ofJson? j = some c ↔ ∃ fields,
      j.fields? ["initial_fuel", "max_boost", "record_trace"] = some fields
        ∧ fields.defaulted "initial_fuel" defaultFuel Json.uint32? = some c.initialFuel
        ∧ fields.defaulted "max_boost" defaultMaxBoost Json.uint32? = some c.maxBoost
        ∧ fields.defaulted "record_trace" false Json.bool? = some c.recordTrace := by
  constructor
  · intro read
    simp only [Config.ofJson?, Option.bind_eq_bind, Option.bind_eq_some_iff] at read
    obtain ⟨fields, given, _, fuel, _, boost, _, trace, whole⟩ := read
    cases whole
    exact ⟨fields, given, fuel, boost, trace⟩
  · rintro ⟨fields, given, fuel, boost, trace⟩
    simp only [Config.ofJson?, given, fuel, boost, trace, Option.bind_eq_bind, Option.bind_some]
    rfl

end GridRobot
