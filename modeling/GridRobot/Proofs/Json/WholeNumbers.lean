import GridRobot.Proofs.Json.Fields

/-! # Whole numbers are told by their text

The text of a number stands for a whole number if it has neither a point nor an exponent and is not
a minus before zero, and it stands for no other number than the one that its digits write
(`Number.Spelled.integer?_eq_some_iff`). A single value that is read as a word of some size is such
a number in the range of that word, and every number in the range is read (`ReadsRange`). -/

namespace GridRobot.Json

/-! ## Texts of whole numbers -/

namespace Number

/-- The number that digits write, after a minus if there is one. -/
def numeral : List Char → Int
  | '-' :: digits => -(Nat.ofDigitChars 10 digits 0 : Nat)
  | digits => (Nat.ofDigitChars 10 digits 0 : Nat)

/-- No fraction, no exponent, and not minus zero. -/
structure IsWhole (cs : List Char) : Prop where
  noFraction : '.' ∉ cs
  noExponent : 'e' ∉ cs ∧ 'E' ∉ cs
  notMinusZero : cs ≠ ['-', '0']

theorem WholeSpelled.ofDigitChars {whole : Nat} {ws : List Char}
    (spelled : WholeSpelled whole ws) : Nat.ofDigitChars 10 ws 0 = whole := by
  cases spelled with
  | zero => rfl
  | digits => rfl

theorem WholeSpelled.eq_zero_iff {whole : Nat} {ws : List Char} (spelled : WholeSpelled whole ws) :
    whole = 0 ↔ ws = ['0'] := by
  cases spelled with
  | zero => exact iff_of_true rfl rfl
  | @digits d ds noZero digits =>
    have isDigit := digits.2 d List.mem_cons_self
    have least : 48 ≤ d.toNat := (Char.isDigit_iff_toNat.mp isDigit).1
    have notLeast : d.toNat ≠ 48 := fun same => noZero (Char.toNat_inj.mp same)
    -- The first digit counts for at least one, and later digits only add to it.
    have grown := le_ofDigitChars ds (10 * 0 + (d.toNat - '0'.toNat))
    rw [← Nat.ofDigitChars_cons] at grown
    have zero : '0'.toNat = 48 := rfl
    refine iff_of_false (by omega) ?_
    rintro ⟨⟩
    exact noZero rfl

theorem Digits.not_mem {ds : List Char} (digits : Digits ds) {c : Char}
    (noDigit : c.isDigit = false) : c ∉ ds := by
  intro member
  rw [digits.2 c member] at noDigit
  cases noDigit

theorem numeral_of_spelled (negative : Bool) {whole : Nat} {ws : List Char}
    (spelled : WholeSpelled whole ws) :
    numeral (sign negative ++ ws) = if negative then -(whole : Int) else whole := by
  cases negative with
  | true => simp [numeral, sign, spelled.ofDigitChars]
  | false =>
    -- The first character is a digit, so nothing of the number is taken for a sign.
    have noMinus := spelled.isDigits.not_mem (show '-'.isDigit = false from rfl)
    simp only [sign, Bool.false_eq_true, if_false, List.nil_append]
    unfold numeral
    split
    next => exact absurd List.mem_cons_self noMinus
    next => rw [spelled.ofDigitChars]

theorem isWhole_of_spelled (negative : Bool) {whole : Nat} {ws : List Char}
    (spelled : WholeSpelled whole ws) :
    IsWhole (sign negative ++ ws) ↔ ¬ (negative = true ∧ whole = 0) := by
  have noneOf : ∀ c : Char, c.isDigit = false → c ≠ '-' → c ∉ sign negative ++ ws := by
    intro c noDigit noMinus
    have notThere := spelled.isDigits.not_mem noDigit
    cases negative <;> simp [sign, notThere, noMinus]
  have minusZero : sign negative ++ ws = ['-', '0'] ↔ negative = true ∧ whole = 0 := by
    rw [spelled.eq_zero_iff]
    cases negative with
    | true => simp [sign]
    | false =>
      have noMinus := spelled.isDigits.not_mem (show '-'.isDigit = false from rfl)
      simp only [sign, Bool.false_eq_true, if_false, List.nil_append, false_and, iff_false]
      rintro rfl
      exact noMinus List.mem_cons_self
  rw [← minusZero]
  constructor
  · exact IsWhole.notMinusZero
  · intro other
    exact ⟨noneOf '.' rfl (by decide), ⟨noneOf 'e' rfl (by decide), noneOf 'E' rfl (by decide)⟩,
      other⟩

/-- What a number stands for can be told from its text alone. -/
theorem Spelled.integer?_eq_some_iff {n : Number} {cs : List Char} (spelled : n.Spelled cs)
    {z : Int} : n.integer? = some z ↔ IsWhole cs ∧ numeral cs = z := by
  cases spelled with
  | @parts negative whole fraction exponent ws fs es wholeSpelled fractionSpelled exponentSpelled =>
    cases fractionSpelled with
    -- A point or a letter in the text shows that the number has a part which no integer has.
    | @digits ds digits =>
      have nothing : integer? ⟨negative, whole, ds.map digitValue, exponent⟩ = none :=
        if_pos (.inl (by simpa using digits.1))
      rw [nothing]
      exact iff_of_false (Option.some_ne_none z).symm fun whole => whole.1.noFraction (by simp)
    | absent =>
      cases exponentSpelled with
      | absent =>
        rw [List.append_nil, List.append_nil, isWhole_of_spelled negative wholeSpelled,
          numeral_of_spelled negative wholeSpelled, integer?, if_neg (by simp)]
        cases negative with
        | true => by_cases zero : whole = 0 <;> simp [zero]
        | false => simp
      | plain letter | plus letter | minus letter =>
        rw [integer?, if_pos (.inr (Option.some_ne_none _))]
        refine iff_of_false (Option.some_ne_none z).symm fun whole => ?_
        rcases letter with rfl | rfl
        · exact whole.1.noExponent.1 (by simp)
        · exact whole.1.noExponent.2 (by simp)

end Number

/-! ## Ranges -/

/-- What is read is a whole number in the range, and each of these is read. -/
def ReadsRange {α : Type} (read? : Json → Option α) (value : α → Int) (least greatest : Int) :
    Prop :=
  ∀ j z, (read? j).map value = some z ↔ j = ofInt z ∧ least ≤ z ∧ z ≤ greatest

theorem readsRange_naturalBelow? (bound : Nat) :
    ReadsRange (naturalBelow? bound) (fun n => (n : Int)) 0 (bound - 1) := by
  intro j z
  simp only [Option.map_eq_some_iff, naturalBelow?_eq_some_iff]
  constructor
  · rintro ⟨n, ⟨below, rfl⟩, rfl⟩
    exact ⟨rfl, by omega, by omega⟩
  · rintro ⟨rfl, nonnegative, small⟩
    obtain ⟨n, rfl⟩ := Int.eq_ofNat_of_zero_le nonnegative
    exact ⟨n, ⟨by omega, rfl⟩, rfl⟩

theorem readsRange_count? : ReadsRange count? (fun n => (n : Int)) 0 18446744073709551615 :=
  readsRange_naturalBelow? UInt64.size

/-- A word has the value of the natural number that it is made of. -/
theorem ReadsRange.map {α β : Type} {read? : Json → Option α} {value : α → Int}
    {least greatest : Int} (range : ReadsRange read? value least greatest) {word : α → β}
    {valueOfWord : β → Int} (kept : ∀ j a, read? j = some a → valueOfWord (word a) = value a) :
    ReadsRange (fun j => (read? j).map word) valueOfWord least greatest := by
  intro j z
  rw [← range, Option.map_map]
  cases read : read? j with
  | none => rfl
  | some a => rw [Option.map_some, Option.map_some, Function.comp_apply, kept j a read]

theorem readsRange_uint8? : ReadsRange uint8? (fun n => (n.toNat : Int)) 0 255 :=
  (readsRange_naturalBelow? UInt8.size).map fun _ _ read =>
    congrArg Nat.cast (UInt8.toNat_ofNat_of_lt (naturalBelow?_eq_some_iff.mp read).1)

theorem readsRange_uint32? : ReadsRange uint32? (fun n => (n.toNat : Int)) 0 4294967295 :=
  (readsRange_naturalBelow? UInt32.size).map fun _ _ read =>
    congrArg Nat.cast (UInt32.toNat_ofNat_of_lt (naturalBelow?_eq_some_iff.mp read).1)

namespace ReadsRange

variable {α : Type} {read? : Json → Option α} {value : α → Int} {least greatest : Int} {n : Number}
  {cs : List Char}

theorem map_number_eq_some_iff (range : ReadsRange read? value least greatest)
    (spelled : n.Spelled cs) {z : Int} : (read? (number n)).map value = some z
      ↔ (Number.IsWhole cs ∧ Number.numeral cs = z) ∧ least ≤ z ∧ z ≤ greatest := by
  rw [range, ofInt, number.injEq, ← Number.integer?_eq_some_iff, spelled.integer?_eq_some_iff]

theorem isSome_number_iff (range : ReadsRange read? value least greatest)
    (spelled : n.Spelled cs) : (read? (number n)).isSome = true
      ↔ Number.IsWhole cs ∧ least ≤ Number.numeral cs ∧ Number.numeral cs ≤ greatest := by
  constructor
  · intro accepted
    obtain ⟨a, read⟩ := Option.isSome_iff_exists.mp accepted
    obtain ⟨⟨whole, same⟩, inRange⟩ :=
      (range.map_number_eq_some_iff spelled).mp (congrArg (Option.map value) read)
    rw [same]
    exact ⟨whole, inRange⟩
  · rintro ⟨whole, inRange⟩
    have read := (range.map_number_eq_some_iff spelled).mpr ⟨⟨whole, rfl⟩, inRange⟩
    obtain ⟨a, read, -⟩ := Option.map_eq_some_iff.mp read
    rw [read, Option.isSome_some]

theorem value_of_number (range : ReadsRange read? value least greatest) (spelled : n.Spelled cs)
    {a : α} (read : read? (number n) = some a) : value a = Number.numeral cs :=
  ((range.map_number_eq_some_iff spelled).mp (congrArg (Option.map value) read)).1.2.symm

end ReadsRange

end GridRobot.Json
