import GridRobot.Position

/-! # The walled quadrant

A move that ends in a clamp meets a wall at zero and another at the greatest coordinate, on each
axis by itself. Everything that the later modules need to know of saturation and clamping is in
`Coordinate.val_clampToZero_shift`; `Position.drive_drive_one` composes moves from it. -/

namespace GridRobot

/-! ## One axis -/

namespace Coordinate

@[simp] theorem val_zero : zero.val = 0 := rfl

/-- A shift that is clamped stops at zero and at the greatest coordinate. The least coordinate
plays no part, because whatever saturates there is clamped to zero anyway. -/
theorem val_clampToZero_shift (a : Coordinate) (d : Int) :
    (a.shift d).clampToZero.val = max 0 (min (a.val + d) greatestCoordinate) := by
  have saturated : (a.shift d).val
      = max leastCoordinate (min (a.val + d) greatestCoordinate) := rfl
  unfold clampToZero
  -- omega needs the ends of the range as numerals.
  simp only [leastCoordinate, greatestCoordinate] at saturated ⊢
  split
  · simp only [val_zero]
    omega
  · omega

theorem val_clampToZero (a : Coordinate) : a.clampToZero.val = max 0 a.val := by
  unfold clampToZero
  split
  · rw [val_zero]
    omega
  · omega

theorem clampToZero_nonneg (a : Coordinate) : 0 ≤ a.clampToZero.val := by
  unfold clampToZero
  split
  · exact Int.le_refl 0
  · omega

end Coordinate

/-! ## Both axes -/

namespace Position

@[ext] theorem ext_val {p q : Position} (x : p.x.val = q.x.val) (y : p.y.val = q.y.val) :
    p = q := by
  cases p
  cases q
  simp only at x y
  rw [Coordinate.ext x, Coordinate.ext y]

/-- No coordinate is negative. -/
def InQuadrant (p : Position) : Prop :=
  0 ≤ p.x.val ∧ 0 ≤ p.y.val

instance (p : Position) : Decidable p.InQuadrant :=
  inferInstanceAs (Decidable (_ ∧ _))

/-- The point that a displacement leads to, with the walls in the way. -/
def stride (p : Position) (displacement : Int × Int) : Position :=
  (p.offset displacement.1 displacement.2).clamped

theorem stride_x (p : Position) (d : Int × Int) :
    (p.stride d).x.val = max 0 (min (p.x.val + d.1) greatestCoordinate) :=
  Coordinate.val_clampToZero_shift p.x d.1

theorem stride_y (p : Position) (d : Int × Int) :
    (p.stride d).y.val = max 0 (min (p.y.val + d.2) greatestCoordinate) :=
  Coordinate.val_clampToZero_shift p.y d.2

theorem drive_eq_stride (p : Position) (facing : Orientation) (distance : Int) :
    p.drive facing distance
      = p.stride (facing.delta.1 * distance, facing.delta.2 * distance) := rfl

theorem clamped_inQuadrant (p : Position) : p.clamped.InQuadrant :=
  ⟨p.x.clampToZero_nonneg, p.y.clampToZero_nonneg⟩

theorem drive_inQuadrant (p : Position) (facing : Orientation) (distance : Int) :
    (p.drive facing distance).InQuadrant :=
  clamped_inQuadrant _

/-! ## Composing moves -/

/-- Standing still does not clamp what is in the quadrant already. -/
theorem drive_zero {p : Position} (inside : p.InQuadrant) (facing : Orientation) :
    p.drive facing 0 = p := by
  obtain ⟨x, y⟩ := inside
  have xMost := p.x.le_greatest
  have yMost := p.y.le_greatest
  rw [drive_eq_stride]
  ext
  · rw [stride_x]
    omega
  · rw [stride_y]
    omega

/-- One more unit ahead makes a longer move. Along an axis both walls are met alike, for a move
that was stopped by a wall is stopped there again. -/
theorem drive_drive_one {p : Position} (inside : p.InQuadrant) (facing : Orientation)
    (n : Nat) : (p.drive facing n).drive facing 1 = p.drive facing (n + 1 : Nat) := by
  obtain ⟨x, y⟩ := inside
  have xMost := p.x.le_greatest
  have yMost := p.y.le_greatest
  simp only [greatestCoordinate] at xMost yMost
  simp only [drive_eq_stride]
  -- Each facing moves along one axis and leaves the other one alone.
  ext
  · simp only [stride_x, greatestCoordinate]
    cases facing <;> simp only [Orientation.delta] <;> omega
  · simp only [stride_y, greatestCoordinate]
    cases facing <;> simp only [Orientation.delta] <;> omega

end Position
end GridRobot
