import GridRobot.Proofs.Boosting
import Mathlib

/-! # Where the fuel goes

Each digit is capped twice, by the ceiling and by the fuel that is left when it is read. Over any
number of calls the second cap comes to one subtraction: of all that the digits ask for under the
ceiling, a robot burns as much as it had (`fuel_accounting`). What is left is thereby a function of
the digits alone, in whatever order they come and whatever stands between them. -/

namespace GridRobot

/-! ## What digits ask for -/

def digitsOf (cs : List Char) : List Nat :=
  (cs.filter Char.isDigit).map Instruction.digitValue

def digitsOfAll (texts : List String) : List Nat :=
  texts.flatMap fun text => digitsOf text.toList

/-- How much fuel digits ask for under a ceiling. -/
def demand (maxBoost : Nat) (digits : List Nat) : Nat :=
  (digits.map fun digit => min digit maxBoost).sum

theorem digitsOf_cons_digit {c : Char} (isDigit : c.isDigit = true) (cs : List Char) :
    digitsOf (c :: cs) = Instruction.digitValue c :: digitsOf cs := by
  simp [digitsOf, isDigit]

theorem digitsOf_cons_other {c : Char} (noDigit : c.isDigit = false) (cs : List Char) :
    digitsOf (c :: cs) = digitsOf cs := by
  simp [digitsOf, noDigit]

theorem digitsOf_append (cs ds : List Char) : digitsOf (cs ++ ds) = digitsOf cs ++ digitsOf ds := by
  simp [digitsOf]

theorem demand_cons (maxBoost digit : Nat) (digits : List Nat) :
    demand maxBoost (digit :: digits) = min digit maxBoost + demand maxBoost digits :=
  List.sum_cons

theorem demand_append (maxBoost : Nat) (first second : List Nat) :
    demand maxBoost (first ++ second) = demand maxBoost first + demand maxBoost second := by
  simp [demand]

theorem demand_perm (maxBoost : Nat) {first second : List Nat} (same : first.Perm second) :
    demand maxBoost first = demand maxBoost second :=
  (same.map _).sum_eq

/-! ## What is left of the fuel -/

theorem Charge.after_fuel (maxBoost : Nat) (charge : Charge) (cs : List Char) :
    (charge.after maxBoost cs).fuel
      = charge.fuel - min charge.fuel (demand maxBoost (digitsOf cs)) := by
  induction cs generalizing charge with
  | nil => simp [after, digitsOf, demand]
  | cons c cs ih =>
    change ((charge.next maxBoost c).after maxBoost cs).fuel = _
    rw [ih]
    cases digit : c.isDigit with
    | true =>
      have burned : (charge.next maxBoost c).fuel
          = charge.fuel - min (min (Instruction.digitValue c) maxBoost) charge.fuel := by
        rw [next_digit _ _ digit]
        rfl
      rw [burned, digitsOf_cons_digit digit, demand_cons]
      -- Once a digit is cut short the tank is empty, and every later digit is cut to nothing.
      omega
    | false =>
      have kept : (charge.next maxBoost c).fuel = charge.fuel := by
        simp only [next, digit, Bool.false_eq_true, ↓reduceIte]
        split
        · rfl
        · rfl
      rw [kept, digitsOf_cons_other digit]

theorem Mk3.execute_maxBoost (r : Mk3) (text : String) :
    (r.execute text).robot.maxBoost = r.maxBoost := by
  rw [Mk3.execute_robot, BoostedMk3.run_maxBoost]

theorem Mk3.execute_fuel (r : Mk3) (text : String) :
    (r.execute text).robot.fuel.toNat
      = r.fuel.toNat - min r.fuel.toNat (demand r.maxBoost.toNat (digitsOf text.toList)) := by
  have carries := BoostedMk3.carries_run (BoostedMk3.carries_start r) text.toList
  rw [Mk3.execute_robot, carries.fuel, Charge.after_fuel]

theorem Mk3.afterAll_maxBoost (r : Mk3) (texts : List String) :
    (afterAll Mk3.execute r texts).maxBoost = r.maxBoost :=
  afterAll_unchanged Mk3.maxBoost Mk3.execute_maxBoost r texts

theorem Mk3.afterAll_fuel (r : Mk3) (texts : List String) :
    (afterAll Mk3.execute r texts).fuel.toNat
      = r.fuel.toNat - min r.fuel.toNat (demand r.maxBoost.toNat (digitsOfAll texts)) := by
  induction texts generalizing r with
  | nil => simp [digitsOfAll, demand]
  | cons text texts ih =>
    have all : digitsOfAll (text :: texts) = digitsOf text.toList ++ digitsOfAll texts :=
      List.flatMap_cons
    rw [afterAll_cons, ih]
    -- The later texts meet the fuel that this one leaves, under the same ceiling.
    change (r.execute text).robot.fuel.toNat
      - min (r.execute text).robot.fuel.toNat
        (demand (r.execute text).robot.maxBoost.toNat (digitsOfAll texts)) = _
    rw [r.execute_maxBoost, r.execute_fuel, all, demand_append]
    omega

/-! ## What is logged -/

/-- The fuel that a robot used, in the log line at the end of an execution. -/
def Event.fuelUsed? : Event → Option UInt32
  | .finished (.mk3 _ _ _ fuelUsed _) => some fuelUsed
  | _ => none

theorem Mk3.execute_logged (r : Mk3) (text : String) :
    (r.execute text).events.getLast?.bind Event.fuelUsed?
      = some (r.fuel - (r.execute text).robot.fuel) := by
  simp [Mk3.execute, Event.fuelUsed?]

theorem Mk3.execute_fuel_le (r : Mk3) (text : String) :
    (r.execute text).robot.fuel ≤ r.fuel := by
  rw [UInt32.le_iff_toNat_le, r.execute_fuel]
  exact Nat.sub_le _ _

/-- The log tells exactly how much was burned: the subtraction behind it does not wrap around. -/
theorem Mk3.execute_fuelUsed (r : Mk3) (text : String) :
    (r.fuel - (r.execute text).robot.fuel).toNat
      = min r.fuel.toNat (demand r.maxBoost.toNat (digitsOf text.toList)) := by
  rw [UInt32.toNat_sub_of_le _ _ (r.execute_fuel_le text), r.execute_fuel]
  omega

/-- More text never puts fuel back. -/
theorem Mk3.execute_append_fuel_le (r : Mk3) (text rest : String) :
    (r.execute (text ++ rest)).robot.fuel ≤ (r.execute text).robot.fuel := by
  rw [UInt32.le_iff_toNat_le, r.execute_fuel, r.execute_fuel, String.toList_append,
    digitsOf_append, demand_append]
  omega

/-- **Exact accounting**: what is left after any calls, that it depends on nothing but the digits,
and what the next call burns and logs. -/
theorem fuel_accounting (start : Position) (config : Config) (texts : List String) :
    let robot := afterAll Mk3.execute (Mk3.spawn start config) texts
    robot.fuel.toNat
        = config.initialFuel.toNat
          - min config.initialFuel.toNat (demand config.maxBoost.toNat (digitsOfAll texts))
      ∧ (∀ (otherStart : Position) (otherTexts : List String),
          (digitsOfAll otherTexts).Perm (digitsOfAll texts) →
            (afterAll Mk3.execute (Mk3.spawn otherStart config) otherTexts).fuel = robot.fuel)
      ∧ ∀ text : String,
          (robot.execute text).robot.fuel ≤ robot.fuel
            ∧ (∀ rest : String,
                (robot.execute (text ++ rest)).robot.fuel ≤ (robot.execute text).robot.fuel)
            ∧ ((robot.execute text).events.getLast?.bind Event.fuelUsed?).map UInt32.toNat
              = some (min robot.fuel.toNat
                  (demand config.maxBoost.toNat (digitsOf text.toList))) := by
  intro robot
  have ceiling : robot.maxBoost = config.maxBoost := Mk3.afterAll_maxBoost _ texts
  refine ⟨Mk3.afterAll_fuel _ texts, ?_, ?_⟩
  · intro otherStart otherTexts same
    apply UInt32.toNat_inj.mp
    rw [Mk3.afterAll_fuel, Mk3.afterAll_fuel]
    change config.initialFuel.toNat
      - min config.initialFuel.toNat (demand config.maxBoost.toNat (digitsOfAll otherTexts)) = _
    rw [demand_perm _ same]
    rfl
  · intro text
    refine ⟨robot.execute_fuel_le text, robot.execute_append_fuel_le text, ?_⟩
    rw [robot.execute_logged, Option.map_some, robot.execute_fuelUsed, ceiling]

end GridRobot
