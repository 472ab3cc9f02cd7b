/-! # Numbers of JSON

A number is read into its parts, so nothing of it is rounded. Only a number without a fraction and
without an exponent stands for a whole number; minus zero stands for none, for it is a value of
floating point only. -/

namespace GridRobot.Json

/-- A number of JSON, by its parts. -/
structure Number where
  negative : Bool
  whole : Nat
  /-- The digits after the point; none if there is no point. -/
  fraction : List (Fin 10)
  exponent : Option Int
  deriving DecidableEq, Repr

namespace Number

def ofInt (z : Int) : Number :=
  ⟨z < 0, z.natAbs, [], none⟩

/-- The whole number that a number stands for. -/
def integer? (n : Number) : Option Int :=
  if n.fraction ≠ [] ∨ n.exponent ≠ none then none
  else if n.negative then
    if n.whole = 0 then none else some (-n.whole)
  else some n.whole

/-! ## Reading -/

def isNumberChar (c : Char) : Bool :=
  c.isDigit || c == '-' || c == '+' || c == '.' || c == 'e' || c == 'E'

/-- The part before the point: a zero alone, or digits that do not start with zero. -/
def whole? (digits : List Char) : Option Nat :=
  match digits with
  | [] => none
  | ['0'] => some 0
  | '0' :: _ => none
  | ds => some (Nat.ofDigitChars 10 ds 0)

def digitValue (c : Char) : Fin 10 :=
  Fin.ofNat 10 (c.toNat - '0'.toNat)

/-- The digits after a point, if there is one, and what follows them. -/
def fraction? (cs : List Char) : Option (List (Fin 10) × List Char) :=
  match cs with
  | '.' :: cs =>
    let digits := cs.takeWhile Char.isDigit
    if digits = [] then none else some (digits.map digitValue, cs.dropWhile Char.isDigit)
  | cs => some ([], cs)

def digits? (cs : List Char) : Option Nat :=
  if cs ≠ [] ∧ cs.all Char.isDigit then some (Nat.ofDigitChars 10 cs 0) else none

/-- An exponent up to the end, if there is one. -/
def exponent? (cs : List Char) : Option (Option Int) :=
  match cs with
  | [] => some none
  | c :: cs =>
    if c = 'e' ∨ c = 'E' then
      match cs with
      | '-' :: ds => (digits? ds).map fun n => some (-(n : Int))
      | '+' :: ds => (digits? ds).map fun n => some (n : Int)
      | ds => (digits? ds).map fun n => some (n : Int)
    else none

def unsigned? (negative : Bool) (cs : List Char) : Option Number := do
  let whole ← whole? (cs.takeWhile Char.isDigit)
  let (fraction, rest) ← fraction? (cs.dropWhile Char.isDigit)
  let exponent ← exponent? rest
  return ⟨negative, whole, fraction, exponent⟩

def ofChars? (cs : List Char) : Option Number :=
  match cs with
  | '-' :: cs => unsigned? true cs
  | cs => unsigned? false cs

/-! ## Writing -/

def fractionText (fraction : List (Fin 10)) : List Char :=
  match fraction with
  | [] => []
  | ds => '.' :: ds.map fun d => Nat.digitChar d.val

def exponentText (exponent : Option Int) : List Char :=
  match exponent with
  | none => []
  | some e => 'e' :: ((if e < 0 then ['-'] else []) ++ Nat.toDigits 10 e.natAbs)

def text (n : Number) : List Char :=
  (if n.negative then ['-'] else []) ++ Nat.toDigits 10 n.whole
    ++ fractionText n.fraction ++ exponentText n.exponent

/-! ## Magnitude

A reader that holds a number in floating point takes the leading digits that fit 64 bits, rounds
them to 53 binary places, and multiplies by the power of ten, rounded in the same way. -/

/-- The least magnitude that a floating-point number of 64 bits rounds to infinity. -/
def doubleBound : Nat := 1 <<< 1024 - 1 <<< 970

/-- The greatest power of ten that is a floating-point number of 64 bits. -/
def greatestScale : Nat := 308

/-- A whole number with 53 binary places of its own, the rest rounded, a half to even. -/
def roundToDouble (n : Nat) : Nat :=
  let unit := 1 <<< (n.log2 - 52)
  let kept := n / unit
  let rest := n % unit
  if unit < 2 * rest ∨ (unit = 2 * rest ∧ kept % 2 = 1) then (kept + 1) * unit else kept * unit

/-- Appends digits to a number as long as it fits 64 bits; the digits that are left come too. -/
def appendDigits : Nat → List Nat → Nat × List Nat
  | value, [] => (value, [])
  | value, d :: ds =>
    if 10 * value + d < UInt64.size then appendDigits (10 * value + d) ds else (value, d :: ds)

/-- The leading digits that fit 64 bits, and the power of ten by which they count. -/
def leading (n : Number) : Nat × Int :=
  let wholeDigits := (Nat.toDigits 10 n.whole).map fun c => (digitValue c).val
  let (value, wholeLeft) := appendDigits 0 wholeDigits
  let (value, fractionLeft) := appendDigits value (n.fraction.map Fin.val)
  (value, n.exponent.getD 0 + wholeLeft.length + fractionLeft.length - n.fraction.length)

/-- Too large for a floating-point number of 64 bits. -/
def exceedsDouble (n : Number) : Bool :=
  let (value, scale) := n.leading
  if value = 0 ∨ scale < 0 then false
  else if (greatestScale : Int) < scale then true
  else doubleBound ≤ roundToDouble value * roundToDouble (Nat.pow 10 scale.toNat)

end Number
end GridRobot.Json
