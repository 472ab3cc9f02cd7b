import GridRobot.Proofs.Boosting
import GridRobot.Proofs.Quadrant

/-! # Boosts written out

The third generation refines to the second. `Mk3.expansion` writes every boosted move of a text out
as single moves and leaves the digits out; `execute_expansion` says that a robot of the second
generation which follows the expansion ends where, and facing as, the boosted robot does.

The simulation runs over the characters of the unexpanded text. One of them is none, one or many of
the expansion, so the relation `Shadows` is kept by a character on the one side and by a whole run
on the other. -/

namespace GridRobot

/-! ## The expansion -/

/-- What one character is written out as, given the charge before it. -/
def Charge.written (charge : Charge) (c : Char) : List Char :=
  if c = 'F' then List.replicate charge.distance 'F'
  else if c = 'B' ∨ c = 'L' ∨ c = 'R' then [c]
  else []

/-- The characters with every boost written out, in one pass from a charge. -/
def expand (maxBoost : Nat) : Charge → List Char → List Char
  | _, [] => []
  | charge, c :: cs => charge.written c ++ expand maxBoost (charge.next maxBoost c) cs

/-- A text without boosts that stands for a text which a robot of the third generation follows. -/
def Mk3.expansion (r : Mk3) (text : String) : String :=
  String.ofList (expand r.maxBoost.toNat { fuel := r.fuel.toNat } text.toList)

theorem Charge.written_other (charge : Charge) {c : Char} (notForward : c ≠ 'F')
    (notBackward : c ≠ 'B') (notLeft : c ≠ 'L') (notRight : c ≠ 'R') :
    charge.written c = [] := by
  simp [written, notForward, notBackward, notLeft, notRight]

theorem Charge.written_digit (charge : Charge) {c : Char} (isDigit : c.isDigit = true) :
    charge.written c = [] :=
  charge.written_other (Instruction.ne_of_isDigit isDigit rfl)
    (Instruction.ne_of_isDigit isDigit rfl) (Instruction.ne_of_isDigit isDigit rfl)
    (Instruction.ne_of_isDigit isDigit rfl)

/-! ## The simulation -/

/-- As many single moves as a boosted move is long lead to the same place. -/
theorem Mk2.run_replicate_forward (r : Mk2) (inside : r.position.InQuadrant) (n : Nat) :
    Mk2.interpreter.run r (List.replicate n 'F') = r.drive n := by
  induction n with
  | zero =>
    change r = { r with position := r.position.drive r.orientation 0 }
    rw [Position.drive_zero inside]
  | succ n ih =>
    rw [List.replicate_succ', Interpreter.run_append, ih]
    change { r with position := (r.position.drive r.orientation n).drive r.orientation 1 } = _
    rw [Position.drive_drive_one inside]
    rfl

/-- A robot of the second generation stands where a boosted one stands, and faces as it does. -/
structure Shadows (plain : Mk2) (s : BoostedMk3) (charge : Charge) : Prop where
  position : plain.position = s.robot.position
  orientation : plain.orientation = s.robot.orientation
  carries : s.Carries charge
  /-- Outside the quadrant even a move by nothing would lead away. -/
  inside : s.robot.position.InQuadrant

theorem shadows_advance {plain : Mk2} {s : BoostedMk3} {charge : Charge}
    (shadows : Shadows plain s charge) (c : Char) :
    Shadows (Mk2.interpreter.run plain (charge.written c)) (BoostedMk3.interpreter.advance s c)
      (charge.next s.robot.maxBoost.toNat c) := by
  have carries := BoostedMk3.carries_advance shadows.carries c
  obtain ⟨instruction, decoded, reads⟩ := Instruction.exists_reads c
  cases reads with
  -- Only here does one character stand for several; the distance is the same on both sides.
  | forward =>
    have written : charge.written 'F' = List.replicate charge.distance 'F' := if_pos rfl
    have plainInside : plain.position.InQuadrant := shadows.position ▸ shadows.inside
    rw [written, Mk2.run_replicate_forward plain plainInside]
    refine ⟨?_, shadows.orientation, carries, Position.drive_inQuadrant _ _ _⟩
    change plain.position.drive plain.orientation charge.distance
      = s.robot.position.drive s.robot.orientation s.boost.distance.toNat
    rw [shadows.position, shadows.orientation, shadows.carries.distance]
  | backward =>
    refine ⟨?_, shadows.orientation, carries, Position.drive_inQuadrant _ _ _⟩
    change plain.position.drive plain.orientation (-1)
      = s.robot.position.drive s.robot.orientation (-1)
    rw [shadows.position, shadows.orientation]
  | left =>
    refine ⟨shadows.position, ?_, carries, shadows.inside⟩
    exact congrArg Orientation.rotateLeft shadows.orientation
  | right =>
    refine ⟨shadows.position, ?_, carries, shadows.inside⟩
    exact congrArg Orientation.rotateRight shadows.orientation
  -- What is left writes nothing, and moves no robot of either generation.
  | digit isDigit =>
    rw [charge.written_digit isDigit]
    rw [BoostedMk3.advance_digit s decoded] at carries ⊢
    exact ⟨shadows.position, shadows.orientation, carries, shadows.inside⟩
  | other _ notForward notBackward notLeft notRight =>
    rw [charge.written_other notForward notBackward notLeft notRight]
    rw [BoostedMk3.advance_other s decoded] at carries ⊢
    exact ⟨shadows.position, shadows.orientation, carries, shadows.inside⟩

theorem shadows_run {plain : Mk2} {s : BoostedMk3} {charge : Charge}
    (shadows : Shadows plain s charge) (cs : List Char) :
    Shadows (Mk2.interpreter.run plain (expand s.robot.maxBoost.toNat charge cs))
      (BoostedMk3.interpreter.run s cs) (charge.after s.robot.maxBoost.toNat cs) := by
  induction cs generalizing plain s charge with
  | nil => exact shadows
  | cons c cs ih =>
    have rest := ih (shadows_advance shadows c)
    rw [BoostedMk3.advance_maxBoost] at rest
    rw [expand, Interpreter.run_append]
    exact rest

theorem execute_expansion (r : Mk3) (inside : r.position.InQuadrant) (recordTrace : Bool)
    (text : String) :
    let plain := (Mk2.execute ⟨r.position, r.orientation, recordTrace⟩ (r.expansion text)).robot
    plain.position = (r.execute text).robot.position
      ∧ plain.orientation = (r.execute text).robot.orientation := by
  have start : Shadows ⟨r.position, r.orientation, recordTrace⟩ { robot := r }
      { fuel := r.fuel.toNat } :=
    ⟨rfl, rfl, BoostedMk3.carries_start r, inside⟩
  have finish := shadows_run start text.toList
  simp only [Mk2.execute_robot, Mk3.execute_robot, Mk3.expansion, String.toList_ofList]
  exact ⟨finish.position, finish.orientation⟩

/-- A robot two units from the upper wall and one from the lower, with fuel for less than it asks
for. -/
def crampedMk3 : Mk3 where
  position := ⟨{ val := 9223372036854775805 }, { val := 1 }⟩
  orientation := .right
  fuel := 9
  maxBoost := 5
  recordTrace := false

/-- Saturated, clamped, cut short and erased moves in one text. -/
theorem execute_expansion_cramped :
    crampedMk3.position.InQuadrant
      ∧ crampedMk3.expansion "9F2xR3F9F2BF" = "FFFFFRFFBF"
      ∧ let plain := (Mk2.execute ⟨crampedMk3.position, crampedMk3.orientation, true⟩
          (crampedMk3.expansion "9F2xR3F9F2BF")).robot
        plain.position = (crampedMk3.execute "9F2xR3F9F2BF").robot.position
          ∧ plain.orientation = (crampedMk3.execute "9F2xR3F9F2BF").robot.orientation :=
  ⟨by decide, by decide, execute_expansion crampedMk3 (by decide) true "9F2xR3F9F2BF"⟩

end GridRobot
