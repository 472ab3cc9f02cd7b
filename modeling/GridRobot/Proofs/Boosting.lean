import GridRobot.Proofs.Following

/-! # Boosts as a pending distance

A robot of the third generation keeps a flag that is never cleared and a magnitude. All that can be
seen of the two is one distance, which is pending or not; `Charge` keeps that distance and the fuel
that is left. `BoostedMk3.Carries` says that a robot agrees with a charge, and `carries_run` that
it still does after any text. -/

namespace GridRobot

/-! ## Charges -/

/-- What the digits of a text have done so far. -/
structure Charge where
  /-- Distance of the next forward move, if a digit is waiting for one. -/
  pending : Option Nat := none
  fuel : Nat
  deriving DecidableEq, Repr

namespace Charge

/-- How far the next forward move goes. -/
def distance (charge : Charge) : Nat :=
  charge.pending.getD 1

/-- The charge after a digit, which is granted as much as the ceiling and the fuel allow. -/
def request (maxBoost digit : Nat) (charge : Charge) : Charge :=
  let granted := min (min digit maxBoost) charge.fuel
  ⟨some granted, charge.fuel - granted⟩

def used (charge : Charge) : Charge :=
  { charge with pending := none }

def next (maxBoost : Nat) (charge : Charge) (c : Char) : Charge :=
  if c.isDigit then charge.request maxBoost (Instruction.digitValue c)
  else if c = 'F' ∨ c = 'B' then charge.used
  else charge

def after (maxBoost : Nat) (charge : Charge) (cs : List Char) : Charge :=
  cs.foldl (next maxBoost) charge

theorem next_digit (maxBoost : Nat) (charge : Charge) {c : Char} (isDigit : c.isDigit = true) :
    charge.next maxBoost c = charge.request maxBoost (Instruction.digitValue c) :=
  if_pos isDigit

theorem next_other (maxBoost : Nat) (charge : Charge) {c : Char} (noDigit : c.isDigit = false)
    (notForward : c ≠ 'F') (notBackward : c ≠ 'B') : charge.next maxBoost c = charge := by
  simp [next, noDigit, notForward, notBackward]

end Charge

/-! ## Robots and charges -/

theorem toNat_min (a b : UInt32) : (min a b).toNat = min a.toNat b.toNat := by
  change (if a ≤ b then a else b).toNat = _
  split
  next le => rw [Nat.min_eq_left (UInt32.le_iff_toNat_le.mp le)]
  next gt =>
    rw [UInt32.le_iff_toNat_le] at gt
    rw [Nat.min_eq_right (by omega)]

theorem Mk3.toNat_burned (r : Mk3) (requested : UInt8) :
    (r.burned requested).toNat
      = min (min requested.toNat r.maxBoost.toNat) r.fuel.toNat := by
  rw [Mk3.burned, toNat_min, toNat_min, UInt8.toNat_toUInt32]

theorem Mk3.burned_le_fuel (r : Mk3) (requested : UInt8) : r.burned requested ≤ r.fuel := by
  rw [UInt32.le_iff_toNat_le, Mk3.toNat_burned]
  exact Nat.min_le_right _ _

/-- Whatever came before, no boost is left after a move. -/
theorem Boost.settled_distance (b : Boost) : b.settled.distance = 1 := by
  unfold Boost.distance Boost.settled
  split
  · rfl
  · rfl

namespace BoostedMk3

/-- A robot agrees with a charge on its fuel and on its next forward move. -/
structure Carries (s : BoostedMk3) (charge : Charge) : Prop where
  fuel : s.robot.fuel.toNat = charge.fuel
  distance : s.boost.distance.toNat = charge.distance

theorem carries_start (r : Mk3) : Carries { robot := r } { fuel := r.fuel.toNat } :=
  ⟨rfl, rfl⟩

/-! ### One character

The states that the characters lead to, by what a character reads as. -/

theorem advance_forward (s : BoostedMk3) :
    interpreter.advance s 'F' = ⟨s.robot.drive s.boost.distance.toNat, s.boost.settled⟩ := rfl

theorem advance_backward (s : BoostedMk3) :
    interpreter.advance s 'B' = ⟨s.robot.drive (-1), s.boost.settled⟩ := rfl

theorem advance_left (s : BoostedMk3) :
    interpreter.advance s 'L'
      = { s with robot := { s.robot with orientation := s.robot.orientation.rotateLeft } } := rfl

theorem advance_right (s : BoostedMk3) :
    interpreter.advance s 'R'
      = { s with robot := { s.robot with orientation := s.robot.orientation.rotateRight } } := rfl

theorem advance_digit (s : BoostedMk3) {c : Char}
    (decoded : Instruction.decode c = .boost (Instruction.digitValue c).toUInt8) :
    interpreter.advance s c = s.engage (Instruction.digitValue c).toUInt8 :=
  Interpreter.advance_of_decode decoded s

theorem advance_other (s : BoostedMk3) {c : Char}
    (decoded : Instruction.decode c = .unknown c) : interpreter.advance s c = s :=
  Interpreter.advance_of_decode decoded s

theorem engage_fuel (s : BoostedMk3) (requested : UInt8) :
    (s.engage requested).robot.fuel.toNat
      = s.robot.fuel.toNat - (s.robot.burned requested).toNat := by
  change (s.robot.fuel - s.robot.burned requested).toNat = _
  -- The subtraction of words does not wrap around, because what is burned is in the tank.
  rw [UInt32.toNat_sub_of_le _ _ (s.robot.burned_le_fuel requested)]

theorem carries_engage {s : BoostedMk3} {charge : Charge} (carries : s.Carries charge)
    (requested : UInt8) :
    (s.engage requested).Carries
      (charge.request s.robot.maxBoost.toNat requested.toNat) := by
  have granted : (s.robot.burned requested).toNat
      = min (min requested.toNat s.robot.maxBoost.toNat) charge.fuel := by
    rw [Mk3.toNat_burned, carries.fuel]
  constructor
  · rw [engage_fuel, granted, carries.fuel]
    rfl
  · exact granted

theorem carries_moved {s : BoostedMk3} {charge : Charge} (carries : s.Carries charge)
    (distance : Int) : Carries ⟨s.robot.drive distance, s.boost.settled⟩ charge.used := by
  constructor
  · exact carries.fuel
  · change s.boost.settled.distance.toNat = 1
    rw [Boost.settled_distance]
    rfl

theorem advance_maxBoost (s : BoostedMk3) (c : Char) :
    (interpreter.advance s c).robot.maxBoost = s.robot.maxBoost := by
  obtain ⟨instruction, decoded, -⟩ := Instruction.exists_reads c
  rw [Interpreter.advance_of_decode decoded]
  cases instruction <;> rfl

/-- One character keeps a robot and its charge in agreement. -/
theorem carries_advance {s : BoostedMk3} {charge : Charge} (carries : s.Carries charge)
    (c : Char) :
    (interpreter.advance s c).Carries (charge.next s.robot.maxBoost.toNat c) := by
  obtain ⟨instruction, decoded, reads⟩ := Instruction.exists_reads c
  cases reads with
  | forward =>
    rw [advance_forward]
    exact carries_moved carries _
  | backward =>
    rw [advance_backward]
    exact carries_moved carries _
  | left =>
    rw [advance_left]
    exact ⟨carries.fuel, carries.distance⟩
  | right =>
    rw [advance_right]
    exact ⟨carries.fuel, carries.distance⟩
  | digit isDigit =>
    rw [advance_digit s decoded, Charge.next_digit _ _ isDigit]
    -- The robot is asked for eight bits, the charge for a number of any size.
    have engaged := carries_engage carries (Instruction.digitValue c).toUInt8
    rwa [Instruction.toNat_digitValue isDigit] at engaged
  | other noDigit notForward notBackward _ _ =>
    rw [advance_other s decoded, Charge.next_other _ _ noDigit notForward notBackward]
    exact carries

/-! ### A whole text -/

theorem run_maxBoost (s : BoostedMk3) (cs : List Char) :
    (interpreter.run s cs).robot.maxBoost = s.robot.maxBoost :=
  interpreter.run_unchanged (fun t => t.robot.maxBoost) advance_maxBoost s cs

theorem carries_run {s : BoostedMk3} {charge : Charge} (carries : s.Carries charge)
    (cs : List Char) :
    (interpreter.run s cs).Carries (charge.after s.robot.maxBoost.toNat cs) := by
  induction cs generalizing s charge with
  | nil => exact carries
  | cons c cs ih =>
    have rest := ih (carries_advance carries c)
    -- The rest is charged under the ceiling of the state after `c`, which is the same.
    rw [advance_maxBoost] at rest
    exact rest

end BoostedMk3
end GridRobot
