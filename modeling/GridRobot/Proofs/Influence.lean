import GridRobot.Proofs.Comparing
import GridRobot.Proofs.FuelAccounting
import GridRobot.Proofs.Trace

/-! # What a configuration has a say in

Two robots that start at the same place, with configurations that differ, are told the same
(`runs_of_config`). Whether steps are recorded shows in the steps alone. The tank and the ceiling
concern the third generation alone, and what they can do there is cut a boost short: no digit asks
for more than nine, and a tank that is never emptied only shows another level.

The third generation is compared by a relation that all of this fits in. Robots are `Abreast` as
long as the digits to come are granted the same by both. -/

namespace GridRobot

/-! ## Recording steps -/

/-- A run without its steps. -/
def Run.untraced (run : Run) : Run :=
  { run with report := run.report.untraced }

def Mk1.traced (recordTrace : Bool) (r : Mk1) : Mk1 :=
  { r with recordTrace }

def Mk2.traced (recordTrace : Bool) (r : Mk2) : Mk2 :=
  { r with recordTrace }

def Mk3.traced (recordTrace : Bool) (r : Mk3) : Mk3 :=
  { r with recordTrace }

def BoostedMk3.traced (recordTrace : Bool) (s : BoostedMk3) : BoostedMk3 :=
  { s with robot := s.robot.traced recordTrace }

theorem Mk1.traced_simulation (recordTrace : Bool) :
    interpreter.Simulation (fun r s _ => s = r.traced recordTrace) Eq :=
  .of_passedOn (by rintro r (_ | _) <;> rfl) fun _ => rfl

theorem Mk2.traced_simulation (recordTrace : Bool) :
    interpreter.Simulation (fun r s _ => s = r.traced recordTrace) Eq :=
  .of_passedOn (by rintro r (_ | _) <;> rfl) fun _ => rfl

theorem BoostedMk3.traced_simulation (recordTrace : Bool) :
    interpreter.Simulation (fun s t _ => t = s.traced recordTrace) Eq :=
  .of_passedOn (by rintro s (_ | _) <;> rfl) fun _ => rfl

namespace Robot

/-- The robot as one that records its steps, or does not. -/
def traced (recordTrace : Bool) : Robot → Robot
  | mk1 r => mk1 (r.traced recordTrace)
  | mk2 r => mk2 (r.traced recordTrace)
  | mk3 r => mk3 (r.traced recordTrace)

variable (recordTrace : Bool) (robot : Robot) (text : String)

theorem traced_self : robot.traced robot.recordTrace = robot := by
  cases robot <;> rfl

theorem recordTrace_traced : (robot.traced recordTrace).recordTrace = recordTrace := by
  cases robot <;> rfl

theorem generation_traced : (robot.traced recordTrace).generation = robot.generation := by
  cases robot <;> rfl

theorem reading_traced : (robot.traced recordTrace).reading = robot.reading := by
  cases robot <;> rfl

theorem execute_traced :
    ((robot.traced recordTrace).execute text).robot
      = (robot.execute text).robot.traced recordTrace := by
  cases robot with
  | mk1 r =>
    change mk1 ((r.traced recordTrace).execute text).robot
      = mk1 ((r.execute text).robot.traced recordTrace)
    rw [Mk1.execute_robot, Mk1.execute_robot, (Mk1.traced_simulation recordTrace).run [] rfl]
  | mk2 r =>
    change mk2 ((r.traced recordTrace).execute text).robot
      = mk2 ((r.execute text).robot.traced recordTrace)
    rw [Mk2.execute_robot, Mk2.execute_robot, (Mk2.traced_simulation recordTrace).run [] rfl]
  | mk3 r =>
    have same : BoostedMk3.interpreter.run { robot := r.traced recordTrace } text.toList
        = (BoostedMk3.interpreter.run { robot := r } text.toList).traced recordTrace :=
      (BoostedMk3.traced_simulation recordTrace).run [] rfl
    change mk3 ((r.traced recordTrace).execute text).robot
      = mk3 ((r.execute text).robot.traced recordTrace)
    rw [Mk3.execute_robot, Mk3.execute_robot, same]
    rfl

theorem runOf_traced :
    ((robot.traced recordTrace).runOf text).untraced = (robot.runOf text).untraced := by
  simp only [runOf, Run.capture, Run.untraced, execute_traced, reading_traced, generation_traced,
    execute_untraced]

theorem runs_traced (texts : List String) :
    ((robot.traced recordTrace).runs texts).map Run.untraced
      = (robot.runs texts).map Run.untraced := by
  induction texts generalizing robot with
  | nil => rfl
  | cons text texts ih =>
    rw [runs_cons, runs_cons, List.map_cons, List.map_cons, runOf_traced, execute_traced, ih]

theorem execute_recordTrace : (robot.execute text).robot.recordTrace = robot.recordTrace := by
  rw [← robot.traced_self, execute_traced, recordTrace_traced, recordTrace_traced]

theorem runs_steps_of_untraced {robot : Robot} (untraced : robot.recordTrace = false)
    (texts : List String) : ∀ run ∈ robot.runs texts, run.report.steps = [] := by
  induction texts generalizing robot with
  | nil => exact List.forall_mem_nil _
  | cons text texts ih =>
    rw [runs_cons, List.forall_mem_cons]
    refine ⟨robot.execute_steps_of_untraced untraced text, ih ?_⟩
    rw [execute_recordTrace, untraced]

end Robot

/-! ## Tanks and ceilings -/

/-- The same but for the fuel, of which the second robot has `d` more. -/
structure Reading.Richer (d : Int) (r s : Reading) : Prop where
  position : r.position = s.position
  orientation : r.orientation = s.orientation
  fuel : ∃ f g, r.fuel = some f ∧ s.fuel = some g ∧ (g.toNat : Int) = f.toNat + d

theorem Reading.eq_of_richer {r s : Reading} (richer : Richer 0 r s) : r = s := by
  obtain ⟨position, orientation, f, g, fuel, fuel', same⟩ := richer
  have level : f = g := UInt32.toNat_inj.mp (by omega)
  obtain ⟨_, _, _⟩ := r
  obtain ⟨_, _, _⟩ := s
  simp only at position orientation fuel fuel'
  rw [position, orientation, fuel, fuel', level]

namespace BoostedMk3

/-- The robot with another tank and another ceiling. -/
def refitted (fuel maxBoost : UInt32) (s : BoostedMk3) : BoostedMk3 :=
  { s with robot := { s.robot with fuel, maxBoost } }

/-- Robots that differ in tank and ceiling at most, and grant the digits to come the same: neither
ceiling cuts a digit that the other lets pass, and the tanks are level or last for all the
digits. -/
structure Abreast (d : Int) (s t : BoostedMk3) (cs : List Char) : Prop where
  refitted : ∃ fuel maxBoost, t = s.refitted fuel maxBoost
  richer : (t.robot.fuel.toNat : Int) = s.robot.fuel.toNat + d
  ceiling : ∀ digit ≤ 9,
    min digit t.robot.maxBoost.toNat = min digit s.robot.maxBoost.toNat
  lasts : d = 0 ∨ demand s.robot.maxBoost.toNat (digitsOf cs) ≤ s.robot.fuel.toNat
    ∧ demand s.robot.maxBoost.toNat (digitsOf cs) ≤ t.robot.fuel.toNat

theorem advance_refitted {c : Char} (noDigit : c.isDigit = false) (s : BoostedMk3)
    (fuel maxBoost : UInt32) :
    interpreter.advance (s.refitted fuel maxBoost) c
      = (interpreter.advance s c).refitted fuel maxBoost := by
  obtain ⟨instruction, decoded, reads⟩ := Instruction.exists_reads c
  rw [Interpreter.advance_of_decode decoded, Interpreter.advance_of_decode decoded]
  cases reads with
  | forward | backward | left | right | other => rfl
  | digit isDigit =>
    rw [noDigit] at isDigit
    cases isDigit

theorem advance_fuel {c : Char} (noDigit : c.isDigit = false) (s : BoostedMk3) :
    (interpreter.advance s c).robot.fuel = s.robot.fuel := by
  -- A robot that is refitted with its own tank and ceiling is the robot itself.
  have same := advance_refitted noDigit s s.robot.fuel s.robot.maxBoost
  exact (congrArg (fun t : BoostedMk3 => t.robot.fuel) same :)

namespace Abreast

variable {d : Int} {s t : BoostedMk3} {c : Char} {cs : List Char}

/-- The digit at hand is granted the same by both. -/
theorem burned (abreast : Abreast d s t (c :: cs)) (isDigit : c.isDigit = true) :
    t.robot.burned (Instruction.digitValue c).toUInt8
      = s.robot.burned (Instruction.digitValue c).toUInt8 := by
  obtain ⟨-, richer, ceiling, lasts⟩ := abreast
  apply UInt32.toNat_inj.mp
  rw [Mk3.toNat_burned, Mk3.toNat_burned, Instruction.toNat_digitValue isDigit,
    ceiling _ (Instruction.digitValue_le_nine isDigit)]
  -- Level tanks cut a boost at the same point, and tanks that last do not cut it at all.
  rcases lasts with rfl | ⟨poorer, richer⟩
  · omega
  · rw [digitsOf_cons_digit isDigit, demand_cons] at poorer richer
    omega

theorem advance_digit (abreast : Abreast d s t (c :: cs)) (isDigit : c.isDigit = true) :
    Abreast d (s.engage (Instruction.digitValue c).toUInt8)
      (t.engage (Instruction.digitValue c).toUInt8) cs := by
  have burned := abreast.burned isDigit
  have affordable := UInt32.le_iff_toNat_le.mp
    (s.robot.burned_le_fuel (Instruction.digitValue c).toUInt8)
  obtain ⟨⟨fuel, maxBoost, rfl⟩, richer, ceiling, lasts⟩ := abreast
  have affordable' := UInt32.le_iff_toNat_le.mp
    ((s.refitted fuel maxBoost).robot.burned_le_fuel (Instruction.digitValue c).toUInt8)
  rw [burned] at affordable'
  constructor
  · refine ⟨fuel - s.robot.burned (Instruction.digitValue c).toUInt8, maxBoost, ?_⟩
    rw [engage, burned]
    rfl
  · rw [engage_fuel, engage_fuel, burned]
    omega
  · exact ceiling
  · rw [engage_fuel, engage_fuel, burned]
    refine lasts.imp_right ?_
    rw [digitsOf_cons_digit isDigit, demand_cons, Mk3.toNat_burned,
      Instruction.toNat_digitValue isDigit]
    rintro ⟨poorer, richer⟩
    change demand s.robot.maxBoost.toNat _ ≤ _ ∧ demand s.robot.maxBoost.toNat _ ≤ _
    omega

theorem advance_other (abreast : Abreast d s t (c :: cs)) (noDigit : c.isDigit = false) :
    Abreast d (interpreter.advance s c) (interpreter.advance t c) cs := by
  obtain ⟨⟨fuel, maxBoost, rfl⟩, richer, ceiling, lasts⟩ := abreast
  rw [digitsOf_cons_other noDigit] at lasts
  rw [advance_refitted noDigit]
  constructor
  · exact ⟨fuel, maxBoost, rfl⟩
  · rw [advance_fuel noDigit]
    exact richer
  · rw [advance_maxBoost]
    exact ceiling
  · rw [advance_maxBoost, advance_fuel noDigit]
    exact lasts

theorem advance (abreast : Abreast d s t (c :: cs)) :
    Abreast d (interpreter.advance s c) (interpreter.advance t c) cs := by
  obtain ⟨instruction, decoded, reads⟩ := Instruction.exists_reads c
  cases reads with
  | forward | backward | left | right => exact advance_other abreast rfl
  | other noDigit => exact advance_other abreast noDigit
  | digit isDigit =>
    rw [BoostedMk3.advance_digit s decoded, BoostedMk3.advance_digit t decoded]
    exact advance_digit abreast isDigit

theorem reading (abreast : Abreast d s t cs) :
    s.robot.reading.Richer d t.robot.reading := by
  obtain ⟨⟨fuel, maxBoost, rfl⟩, richer, -, -⟩ := abreast
  exact ⟨rfl, rfl, _, _, rfl, rfl, richer⟩

/-- At the end of a call both drop what boost they have. -/
theorem dropped (abreast : Abreast d s t cs) :
    Abreast d { robot := s.robot } { robot := t.robot } cs := by
  obtain ⟨⟨fuel, maxBoost, rfl⟩, richer, ceiling, lasts⟩ := abreast
  exact ⟨⟨fuel, maxBoost, rfl⟩, richer, ceiling, lasts⟩

theorem simulation : interpreter.Simulation (Abreast d) (Reading.Richer d) where
  advance := advance
  reading := reading

end Abreast

end BoostedMk3

/-! ### Calls -/

theorem Mk3.execute_abreast {d : Int} {r s : Mk3} {text : String} {rest : List Char}
    (abreast : BoostedMk3.Abreast d { robot := r } { robot := s } (text.toList ++ rest)) :
    Run.Related (Reading.Richer d) ((Robot.mk3 r).runOf text) ((Robot.mk3 s).runOf text)
      ∧ BoostedMk3.Abreast d { robot := (r.execute text).robot }
        { robot := (s.execute text).robot } rest := by
  have after := BoostedMk3.Abreast.simulation.run rest abreast
  have report := BoostedMk3.Abreast.simulation.report rest BoostedMk3.takesUnderstood
    r.recordTrace abreast
  have traced : s.recordTrace = r.recordTrace := by
    obtain ⟨⟨fuel, maxBoost, refitted⟩, -, -, -⟩ := abreast
    exact congrArg (fun t : BoostedMk3 => t.robot.recordTrace) refitted
  rw [r.execute_robot, s.execute_robot]
  refine ⟨⟨rfl, ?_, ?_⟩, after.dropped⟩
  · change (r.execute text).robot.reading.Richer d (s.execute text).robot.reading
    rw [r.execute_robot, s.execute_robot]
    exact after.reading
  · change Report.Related _ _
      (BoostedMk3.interpreter.report s.recordTrace { robot := s } text.toList)
    rw [traced]
    exact report

/-- Robots of the third generation that grant the digits of all texts to come the same. -/
def Robot.Abreast (d : Int) (robot other : Robot) (texts : List String) : Prop :=
  ∃ r s, robot = mk3 r ∧ other = mk3 s
    ∧ BoostedMk3.Abreast d { robot := r } { robot := s } (texts.flatMap String.toList)

namespace Robot

theorem execute_abreast {d : Int} {robot other : Robot} {text : String} {texts : List String}
    (abreast : Abreast d robot other (text :: texts)) :
    Run.Related (Reading.Richer d) (robot.runOf text) (other.runOf text)
      ∧ Abreast d (robot.execute text).robot (other.execute text).robot texts := by
  obtain ⟨r, s, rfl, rfl, abreast⟩ := abreast
  rw [List.flatMap_cons] at abreast
  obtain ⟨run, after⟩ := Mk3.execute_abreast abreast
  exact ⟨run, _, _, rfl, rfl, after⟩

theorem runs_abreast {d : Int} {robot other : Robot} {texts : List String}
    (abreast : Abreast d robot other texts) :
    List.Forall₂ (Run.Related (Reading.Richer d)) (robot.runs texts) (other.runs texts) :=
  runs_related execute_abreast abreast

end Robot

/-! ## Configurations -/

theorem digitsOf_flatMap (texts : List String) :
    digitsOf (texts.flatMap String.toList) = digitsOfAll texts := by
  induction texts with
  | nil => rfl
  | cons text texts ih =>
    rw [List.flatMap_cons, digitsOf_append, ih]
    rfl

namespace Robot

variable (start : Position) (config : Config)

theorem spawn_withTrace (generation : Generation) (recordTrace : Bool) :
    spawn generation start (config.withTrace recordTrace)
      = (spawn generation start config).traced recordTrace := by
  cases generation <;> rfl

theorem spawn_recordTrace (generation : Generation) :
    (spawn generation start config).recordTrace = config.recordTrace := by
  cases generation <;> rfl

/-- The tank and the ceiling are fitted to the third generation alone. -/
theorem spawn_of_ne_mk3 {generation : Generation} (unboosted : generation ≠ .mk3)
    (initialFuel maxBoost : UInt32) :
    spawn generation start { config with initialFuel, maxBoost }
      = spawn generation start config := by
  cases generation with
  | mk1 | mk2 => rfl
  | mk3 => exact absurd rfl unboosted

/-- No digit reaches a ceiling of nine or more. -/
theorem abreast_of_nine_le {maxBoost : UInt32} (unreached : 9 ≤ config.maxBoost)
    (unreached' : 9 ≤ maxBoost) (texts : List String) :
    Abreast 0 (spawn .mk3 start config) (spawn .mk3 start { config with maxBoost }) texts := by
  rw [UInt32.le_iff_toNat_le] at unreached unreached'
  refine ⟨_, _, rfl, rfl, ⟨_, _, rfl⟩, (Int.add_zero _).symm, ?_, .inl rfl⟩
  intro digit small
  exact (Nat.min_eq_left (small.trans unreached')).trans
    (Nat.min_eq_left (small.trans unreached)).symm

/-- A tank that holds all that the digits ask for under the ceiling never cuts a boost short. -/
theorem abreast_of_demand_le {initialFuel : UInt32} {texts : List String}
    (lasts : demand config.maxBoost.toNat (digitsOfAll texts) ≤ config.initialFuel.toNat)
    (lasts' : demand config.maxBoost.toNat (digitsOfAll texts) ≤ initialFuel.toNat) :
    Abreast (initialFuel.toNat - config.initialFuel.toNat) (spawn .mk3 start config)
      (spawn .mk3 start { config with initialFuel }) texts := by
  refine ⟨_, _, rfl, rfl, ⟨_, _, rfl⟩, ?_, fun _ _ => rfl, .inr ?_⟩
  · change (initialFuel.toNat : Int)
      = config.initialFuel.toNat + (initialFuel.toNat - config.initialFuel.toNat)
    omega
  · rw [digitsOf_flatMap]
    exact ⟨lasts, lasts'⟩

end Robot

/-- **What a configuration can influence.** Whether steps are recorded shows in nothing but the
steps. The first two generations have neither tank nor ceiling. For the third, all ceilings from
nine on are the same, and so are all tanks that last, but for the level that they show. -/
theorem runs_of_config (start : Position) (config : Config) (texts : List String) :
    let runs := fun (generation : Generation) (config : Config) =>
      (Robot.spawn generation start config).runs texts
    (∀ generation recordTrace,
        (runs generation (config.withTrace recordTrace)).map Run.untraced
          = (runs generation config).map Run.untraced)
      ∧ (∀ generation, config.recordTrace = false →
          ∀ run ∈ runs generation config, run.report.steps = [])
      ∧ (∀ generation, generation ≠ .mk3 → ∀ initialFuel maxBoost,
          runs generation { config with initialFuel, maxBoost } = runs generation config)
      ∧ (∀ maxBoost, 9 ≤ config.maxBoost → 9 ≤ maxBoost →
          runs .mk3 { config with maxBoost } = runs .mk3 config)
      ∧ ∀ initialFuel : UInt32,
          demand config.maxBoost.toNat (digitsOfAll texts) ≤ config.initialFuel.toNat →
          demand config.maxBoost.toNat (digitsOfAll texts) ≤ initialFuel.toNat →
            List.Forall₂
              (Run.Related (Reading.Richer (initialFuel.toNat - config.initialFuel.toNat)))
              (runs .mk3 config) (runs .mk3 { config with initialFuel }) := by
  intro runs
  refine ⟨?_, ?_, ?_, ?_, ?_⟩
  · intro generation recordTrace
    simp only [runs, Robot.spawn_withTrace, Robot.runs_traced]
  · intro generation untraced
    apply Robot.runs_steps_of_untraced
    rw [Robot.spawn_recordTrace, untraced]
  · intro generation unboosted initialFuel maxBoost
    simp only [runs, Robot.spawn_of_ne_mk3 start config unboosted]
  · intro maxBoost unreached unreached'
    have related := Robot.runs_abreast
      (Robot.abreast_of_nine_le start config unreached unreached' texts)
    have same : List.Forall₂ Eq (runs .mk3 config) (runs .mk3 { config with maxBoost }) :=
      related.imp fun _ _ => Run.eq_of_related Reading.eq_of_richer
    rw [List.forall₂_eq_eq_eq] at same
    exact same.symm
  · intro initialFuel lasts lasts'
    exact Robot.runs_abreast (Robot.abreast_of_demand_le start config lasts lasts')

/-- A tank that the second call empties to the last drop, beside a full one. -/
theorem runs_of_config_lastDrop :
    let config : Config := { initialFuel := 16, maxBoost := 9, recordTrace := true }
    let texts := ["9F2", "éB5F"]
    let runs := fun (generation : Generation) (config : Config) =>
      (Robot.spawn generation .origin config).runs texts
    (demand config.maxBoost.toNat (digitsOfAll texts) = 16
        ∧ (runs .mk3 config).map Run.toReading
          = [⟨⟨.zero, { val := 9 }⟩, some .forward, some 5⟩,
            ⟨⟨.zero, { val := 13 }⟩, some .forward, some 0⟩]
        ∧ List.Forall₂ (Run.Related (Reading.Richer 4294967279)) (runs .mk3 config)
          (runs .mk3 { config with initialFuel := 4294967295 }))
      ∧ (9 ≤ config.maxBoost ∧ runs .mk3 { config with maxBoost := 10 } = runs .mk3 config)
      ∧ (Generation.mk2 ≠ .mk3
        ∧ runs .mk2 { config with initialFuel := 0, maxBoost := 0 } = runs .mk2 config)
      ∧ (config.withTrace false).recordTrace = false
      ∧ ∀ run ∈ runs .mk3 (config.withTrace false), run.report.steps = [] := by
  intro config texts runs
  obtain ⟨-, -, unfitted, unreached, lasting⟩ := runs_of_config .origin config texts
  obtain ⟨-, untraced, -⟩ := runs_of_config .origin (config.withTrace false) texts
  have asked : demand config.maxBoost.toNat (digitsOfAll texts) = 16 := by decide
  have second : Generation.mk2 ≠ .mk3 := by decide
  exact ⟨⟨asked, by decide, lasting 4294967295 asked.le (asked.le.trans (by decide))⟩,
    ⟨by decide, unreached 10 (by decide) (by decide)⟩, ⟨second, unfitted .mk2 second 0 0⟩, rfl,
    untraced .mk3 rfl⟩

end GridRobot
