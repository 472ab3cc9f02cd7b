/-! # Coordinates

Whole numbers of 64 bits with a sign. Arithmetic on them saturates: a result outside the range
becomes the nearer end of it. -/

namespace GridRobot

def leastCoordinate : Int := -9223372036854775808

def greatestCoordinate : Int := 9223372036854775807

/-- A whole number in the range of signed 64-bit words. -/
structure Coordinate where
  val : Int
  least_le : leastCoordinate ≤ val := by decide
  le_greatest : val ≤ greatestCoordinate := by decide
  deriving DecidableEq, Repr

namespace Coordinate

@[ext] theorem ext {a b : Coordinate} (h : a.val = b.val) : a = b := by
  cases a; cases b; cases h; rfl

def zero : Coordinate := { val := 0 }

instance : Inhabited Coordinate := ⟨zero⟩

/-- The coordinate nearest to a whole number. -/
def saturate (z : Int) : Coordinate where
  val := max leastCoordinate (min z greatestCoordinate)
  least_le := by omega
  le_greatest := by simp only [leastCoordinate, greatestCoordinate]; omega

/-- The coordinate equal to a whole number, if the number is in range. -/
def ofInt? (z : Int) : Option Coordinate :=
  if h : leastCoordinate ≤ z ∧ z ≤ greatestCoordinate then some ⟨z, h.1, h.2⟩ else none

def shift (a : Coordinate) (d : Int) : Coordinate :=
  saturate (a.val + d)

/-- A coordinate with zero in place of what is negative. -/
def clampToZero (a : Coordinate) : Coordinate :=
  if a.val < 0 then zero else a

/-- The number that decimal digits, at least one of them, give. -/
def magnitude? (digits : List Char) : Option Nat :=
  if digits ≠ [] ∧ digits.all Char.isDigit then some (Nat.ofDigitChars 10 digits 0) else none

/-- The coordinate that decimal digits give, after a sign if there is one. -/
def ofNumeral? (cs : List Char) : Option Coordinate :=
  match cs with
  | '-' :: digits => (magnitude? digits).bind fun n => ofInt? (-n)
  | '+' :: digits => (magnitude? digits).bind fun n => ofInt? n
  | digits => (magnitude? digits).bind fun n => ofInt? n

instance : ToString Coordinate := ⟨fun a => toString a.val⟩

end Coordinate
end GridRobot
