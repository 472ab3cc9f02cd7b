import GridRobot.Proofs.Json.Grammar
import GridRobot.Proofs.Text.Spans

/-! # Numbers are read exactly

The reader of numbers and the grammar say the same: `ofChars?_eq_some_iff`. The reader takes as many
digits as it can, so each part must end where the next begins; that is what the lemmas on heads
(`NoDigitHead`) are for. What is written of a number is one of its spellings (`spelled_text`), and
so it is read back. -/

namespace GridRobot.Json.Number

open Text (takeWhile_of_stops dropWhile_of_stops)

/-! ## Digits -/

theorem digitValue_digitChar : ∀ d : Fin 10, digitValue (Nat.digitChar d.val) = d := by decide

theorem isDigit_digitChar (d : Fin 10) : (Nat.digitChar d.val).isDigit = true := by
  rw [Nat.isDigit_digitChar]
  exact decide_eq_true d.isLt

theorem isDigit_of_mem_toDigits {n : Nat} {c : Char} (member : c ∈ Nat.toDigits 10 n) :
    c.isDigit = true :=
  Nat.isDigit_of_mem_toDigits (by decide) (by decide) member

/-- The characters of a number never start with a superfluous zero. -/
theorem head_toDigits_ne_zero {n : Nat} (positive : 0 < n) :
    ∀ c ∈ (Nat.toDigits 10 n).head?, c ≠ '0' := by
  induction n using Nat.strongRecOn with
  | ind n ih =>
    intro c member
    by_cases small : n < 10
    · rw [Nat.toDigits_of_lt_base small] at member
      obtain rfl : Nat.digitChar n = c := by simpa using member
      have noZero : ∀ m : Fin 10, 0 < m.val → Nat.digitChar m.val ≠ '0' := by decide
      exact noZero ⟨n, small⟩ positive
    · have earlier := ih (n / 10) (by omega) (by omega) c
      rw [Nat.toDigits_of_base_le (by decide) (by omega)] at member
      cases digits : Nat.toDigits 10 (n / 10) with
      | nil => exact absurd digits Nat.toDigits_ne_nil
      | cons d ds =>
        rw [digits] at earlier member
        exact earlier member

theorem digits_toDigits (n : Nat) : Digits (Nat.toDigits 10 n) :=
  ⟨Nat.toDigits_ne_nil, fun _ member => isDigit_of_mem_toDigits member⟩

/-- No digit comes first. -/
def NoDigitHead (cs : List Char) : Prop :=
  ∀ c ∈ cs.head?, c.isDigit = false

/-! ## Each part -/

theorem whole?_eq_some_iff {cs : List Char} (digits : ∀ c ∈ cs, c.isDigit = true) {n : Nat} :
    whole? cs = some n ↔ WholeSpelled n cs := by
  constructor
  · intro read
    unfold whole? at read
    split at read
    next => cases read
    next => cases read; exact .zero
    next => cases read
    next some noZero superfluous =>
      cases read
      cases cs with
      | nil => exact absurd rfl some
      | cons d ds =>
        refine .digits ?_ ⟨List.cons_ne_nil d ds, digits⟩
        rintro rfl
        exact superfluous ds rfl
  · intro spelled
    cases spelled with
    | zero => rfl
    | @digits d ds noZero _ =>
      unfold whole?
      split
      next nothing => cases nothing
      next zero => cases zero; exact absurd rfl noZero
      next zero => cases zero; exact absurd rfl noZero
      next => rfl

theorem digits?_eq_some_iff {cs : List Char} {n : Nat} :
    digits? cs = some n ↔ Digits cs ∧ Nat.ofDigitChars 10 cs 0 = n := by
  simp only [digits?, Digits, List.all_eq_true, Option.ite_none_right_eq_some, Option.some.injEq]

theorem digits?_toDigits (n : Nat) : digits? (Nat.toDigits 10 n) = some n :=
  digits?_eq_some_iff.mpr ⟨digits_toDigits n, Nat.ofDigitChars_ten_toDigits⟩

theorem exponent?_eq_some_iff {cs : List Char} {exponent : Option Int} :
    exponent? cs = some exponent ↔ ExponentSpelled exponent cs := by
  constructor
  · intro read
    unfold exponent? at read
    split at read
    next => cases read; exact .absent
    next =>
      split at read
      next letter =>
        split at read
        all_goals
          obtain ⟨z, signed, rfl⟩ := Option.map_eq_some_iff.mp read
          obtain ⟨n, unsigned, ⟨⟩⟩ := Option.bind_eq_some_iff.mp signed
          obtain ⟨digits, rfl⟩ := digits?_eq_some_iff.mp unsigned
        · exact .minus letter digits
        · exact .plus letter digits
        · exact .plain letter digits
      next => cases read
  · intro spelled
    cases spelled with
    | absent => rfl
    | plus letter digits =>
      rw [exponent?, if_pos letter]
      simp only [digits?_eq_some_iff.mpr ⟨digits, rfl⟩]
      rfl
    | minus letter digits =>
      rw [exponent?, if_pos letter]
      simp only [digits?_eq_some_iff.mpr ⟨digits, rfl⟩]
      rfl
    | plain letter digits =>
      simp only [exponent?, if_pos letter]
      -- Without a sign the reader must not take the first digit for one.
      split
      next => exact absurd (digits.2 '-' List.mem_cons_self) (by decide)
      next => exact absurd (digits.2 '+' List.mem_cons_self) (by decide)
      next =>
        rw [digits?_eq_some_iff.mpr ⟨digits, rfl⟩]
        rfl

theorem ExponentSpelled.noDigitHead {exponent : Option Int} {es : List Char}
    (spelled : ExponentSpelled exponent es) : NoDigitHead es := by
  cases spelled with
  | absent => simp [NoDigitHead]
  | plain letter | plus letter | minus letter => rcases letter with rfl | rfl <;> simp [NoDigitHead]

theorem FractionSpelled.noDigitHead {fraction : List (Fin 10)} {exponent : Option Int}
    {fs es : List Char} (fractionSpelled : FractionSpelled fraction fs)
    (exponentSpelled : ExponentSpelled exponent es) : NoDigitHead (fs ++ es) := by
  cases fractionSpelled with
  | absent => exact exponentSpelled.noDigitHead
  | digits => simp [NoDigitHead]

theorem fraction?_of_spelled {fraction : List (Fin 10)} {exponent : Option Int}
    {fs es : List Char} (fractionSpelled : FractionSpelled fraction fs)
    (exponentSpelled : ExponentSpelled exponent es) :
    fraction? (fs ++ es) = some (fraction, es) := by
  cases fractionSpelled with
  | absent =>
    cases exponentSpelled with
    | absent => rfl
    | plain letter | plus letter | minus letter => rcases letter with rfl | rfl <;> rfl
  | @digits ds digits =>
    have stops := exponentSpelled.noDigitHead
    simp only [fraction?, List.cons_append]
    rw [takeWhile_of_stops digits.2 stops, dropWhile_of_stops digits.2 stops, if_neg digits.1]

theorem spelled_of_fraction? {fraction : List (Fin 10)} {cs rest : List Char}
    (read : fraction? cs = some (fraction, rest)) :
    ∃ fs, FractionSpelled fraction fs ∧ fs ++ rest = cs := by
  unfold fraction? at read
  split at read
  next cs =>
    simp only at read
    split at read
    next => cases read
    next some =>
      cases read
      refine ⟨'.' :: cs.takeWhile Char.isDigit, .digits ⟨some, ?_⟩, ?_⟩
      · exact fun c member => List.mem_takeWhile_imp member
      · rw [List.cons_append, List.takeWhile_append_dropWhile]
  next =>
    cases read
    exact ⟨[], .absent, rfl⟩

/-! ## The whole -/

theorem WholeSpelled.isDigits {whole : Nat} {ws : List Char} (spelled : WholeSpelled whole ws) :
    Digits ws := by
  cases spelled with
  | zero => exact ⟨List.cons_ne_nil _ _, by simp⟩
  | digits _ digits => exact digits

theorem unsigned?_of_spelled (negative : Bool) {whole : Nat} {fraction : List (Fin 10)}
    {exponent : Option Int} {ws fs es : List Char} (wholeSpelled : WholeSpelled whole ws)
    (fractionSpelled : FractionSpelled fraction fs)
    (exponentSpelled : ExponentSpelled exponent es) :
    unsigned? negative (ws ++ (fs ++ es)) = some ⟨negative, whole, fraction, exponent⟩ := by
  have digits := wholeSpelled.isDigits.2
  have stops := fractionSpelled.noDigitHead exponentSpelled
  rw [unsigned?, takeWhile_of_stops digits stops, dropWhile_of_stops digits stops,
    (whole?_eq_some_iff digits).mpr wholeSpelled,
    fraction?_of_spelled fractionSpelled exponentSpelled]
  simp [exponent?_eq_some_iff.mpr exponentSpelled]

theorem spelled_of_unsigned? {negative : Bool} {cs : List Char} {n : Number}
    (read : unsigned? negative cs = some n) : n.Spelled (sign negative ++ cs) := by
  obtain ⟨whole, readWhole, read⟩ := Option.bind_eq_some_iff.mp read
  obtain ⟨⟨fraction, rest⟩, readFraction, read⟩ := Option.bind_eq_some_iff.mp read
  obtain ⟨exponent, readExponent, read⟩ := Option.bind_eq_some_iff.mp read
  cases read
  obtain ⟨fs, fractionSpelled, split⟩ := spelled_of_fraction? readFraction
  have digits : ∀ c ∈ cs.takeWhile Char.isDigit, c.isDigit = true :=
    fun c member => List.mem_takeWhile_imp member
  -- The parts that the reader cuts off, one after another, are the whole text again.
  rw [← List.takeWhile_append_dropWhile (p := Char.isDigit) (l := cs), ← split]
  exact .parts negative ((whole?_eq_some_iff digits).mp readWhole) fractionSpelled
    (exponent?_eq_some_iff.mp readExponent)

theorem ofChars?_eq_some_iff {cs : List Char} {n : Number} :
    ofChars? cs = some n ↔ n.Spelled cs := by
  constructor
  · intro read
    unfold ofChars? at read
    split at read
    next => exact spelled_of_unsigned? read
    next => exact spelled_of_unsigned? read
  · intro spelled
    cases spelled with
    | @parts negative _ _ _ ws _ _ wholeSpelled fractionSpelled exponentSpelled =>
      have read := unsigned?_of_spelled negative wholeSpelled fractionSpelled exponentSpelled
      cases negative with
      | true => exact read
      | false =>
        obtain ⟨some, digits⟩ := wholeSpelled.isDigits
        cases ws with
        | nil => exact absurd rfl some
        | cons d ds =>
          rw [sign, if_neg Bool.false_ne_true, List.nil_append]
          unfold ofChars?
          -- Without a sign the first character is a digit, so only the second pattern is left.
          split
          next minus =>
            cases minus
            exact absurd (digits '-' List.mem_cons_self) (by decide)
          next => exact read

/-! ## What numbers look like -/

theorem isNumberChar_of_isDigit {c : Char} (isDigit : c.isDigit = true) :
    isNumberChar c = true := by
  simp [isNumberChar, isDigit]

theorem Digits.isNumberChar {ds : List Char} (digits : Digits ds) :
    ∀ c ∈ ds, isNumberChar c = true :=
  fun c member => isNumberChar_of_isDigit (digits.2 c member)

theorem FractionSpelled.isNumberChar {fraction : List (Fin 10)} {fs : List Char}
    (spelled : FractionSpelled fraction fs) : ∀ c ∈ fs, isNumberChar c = true := by
  cases spelled with
  | absent => simp
  | digits digits => exact List.forall_mem_cons.mpr ⟨rfl, digits.isNumberChar⟩

theorem ExponentSpelled.isNumberChar {exponent : Option Int} {es : List Char}
    (spelled : ExponentSpelled exponent es) : ∀ c ∈ es, isNumberChar c = true := by
  have letters : ∀ {e : Char}, e = 'e' ∨ e = 'E' → Number.isNumberChar e = true := by
    rintro e (rfl | rfl) <;> rfl
  cases spelled with
  | absent => simp
  | plain letter digits => exact List.forall_mem_cons.mpr ⟨letters letter, digits.isNumberChar⟩
  | plus letter digits | minus letter digits =>
    exact List.forall_mem_cons.mpr
      ⟨letters letter, List.forall_mem_cons.mpr ⟨rfl, digits.isNumberChar⟩⟩

theorem Spelled.isNumberChar {n : Number} {cs : List Char} (spelled : n.Spelled cs) :
    ∀ c ∈ cs, isNumberChar c = true := by
  cases spelled with
  | parts negative wholeSpelled fractionSpelled exponentSpelled =>
    intro c member
    simp only [List.mem_append] at member
    rcases member with sign | whole | fraction | exponent
    · cases negative with
      | true =>
        obtain rfl := List.mem_singleton.mp sign
        rfl
      | false => cases sign
    · exact wholeSpelled.isDigits.isNumberChar c whole
    · exact fractionSpelled.isNumberChar c fraction
    · exact exponentSpelled.isNumberChar c exponent

/-- A number starts with a digit or with its sign. -/
theorem Spelled.eq_cons {n : Number} {cs : List Char} (spelled : n.Spelled cs) :
    ∃ c rest, cs = c :: rest ∧ (c.isDigit = true ∨ c = '-') := by
  cases spelled with
  | @parts negative _ _ _ ws _ _ wholeSpelled _ _ =>
    cases negative with
    | true => exact ⟨'-', _, rfl, .inr rfl⟩
    | false =>
      obtain ⟨some, digits⟩ := wholeSpelled.isDigits
      cases ws with
      | nil => exact absurd rfl some
      | cons d ds => exact ⟨d, _, rfl, .inl (digits d List.mem_cons_self)⟩

/-! ## Written numbers -/

theorem wholeSpelled_toDigits (n : Nat) : WholeSpelled n (Nat.toDigits 10 n) := by
  cases n with
  | zero => exact .zero
  | succ n =>
    have noZero := head_toDigits_ne_zero (Nat.succ_pos n)
    have digits := digits_toDigits (n + 1)
    have value : Nat.ofDigitChars 10 (Nat.toDigits 10 (n + 1)) 0 = n + 1 :=
      Nat.ofDigitChars_ten_toDigits
    cases chars : Nat.toDigits 10 (n + 1) with
    | nil => exact absurd chars Nat.toDigits_ne_nil
    | cons d ds =>
      rw [chars] at noZero digits value
      have spelled := WholeSpelled.digits (noZero d rfl) digits
      rwa [value] at spelled

theorem fractionSpelled_fractionText (fraction : List (Fin 10)) :
    FractionSpelled fraction (fractionText fraction) := by
  cases fraction with
  | nil => exact .absent
  | cons d ds =>
    have digits : Digits ((d :: ds).map fun d => Nat.digitChar d.val) := by
      refine ⟨by simp, ?_⟩
      intro c member
      obtain ⟨digit, -, rfl⟩ := List.mem_map.mp member
      exact isDigit_digitChar digit
    have values : ((d :: ds).map fun d => Nat.digitChar d.val).map digitValue = d :: ds := by
      rw [List.map_map]
      exact List.map_id'' digitValue_digitChar _
    have spelled := FractionSpelled.digits digits
    rwa [values] at spelled

theorem exponentSpelled_exponentText (exponent : Option Int) :
    ExponentSpelled exponent (exponentText exponent) := by
  cases exponent with
  | none => exact .absent
  | some e =>
    have digits := digits_toDigits e.natAbs
    have value : Nat.ofDigitChars 10 (Nat.toDigits 10 e.natAbs) 0 = e.natAbs :=
      Nat.ofDigitChars_ten_toDigits
    by_cases negative : e < 0
    · have spelled := ExponentSpelled.minus (.inl rfl) digits
      have same : -(e.natAbs : Int) = e := by omega
      rw [value, same] at spelled
      simpa [exponentText, negative] using spelled
    · have spelled := ExponentSpelled.plain (.inl rfl) digits
      have same : (e.natAbs : Int) = e := by omega
      rw [value, same] at spelled
      simpa [exponentText, negative] using spelled

theorem spelled_text (n : Number) : n.Spelled n.text := by
  rw [text, List.append_assoc, List.append_assoc]
  exact .parts n.negative (wholeSpelled_toDigits n.whole)
    (fractionSpelled_fractionText n.fraction) (exponentSpelled_exponentText n.exponent)

/-! ## Small whole numbers

A whole number with few digits is held as it is, and no floating point gets in its way. -/

theorem integer?_ofInt (z : Int) : (ofInt z).integer? = some z := by
  rw [integer?, if_neg (by simp [ofInt])]
  by_cases negative : z < 0
  · have notZero : (ofInt z).whole ≠ 0 := by
      change z.natAbs ≠ 0
      omega
    have minus : (ofInt z).negative = true := decide_eq_true negative
    rw [if_pos minus, if_neg notZero]
    change some (-(z.natAbs : Int)) = some z
    congr 1
    omega
  · have noMinus : (ofInt z).negative ≠ true := by simpa [ofInt] using negative
    rw [if_neg noMinus]
    change some (z.natAbs : Int) = some z
    congr 1
    omega

/-- No other number stands for a whole number. -/
theorem integer?_eq_some_iff {n : Number} {z : Int} : n.integer? = some z ↔ n = ofInt z := by
  constructor
  · intro read
    obtain ⟨negative, whole, fraction, exponent⟩ := n
    unfold integer? at read
    split at read
    next => cases read
    next plain =>
      simp only [not_or, ne_eq, not_not] at plain
      obtain ⟨rfl, rfl⟩ := plain
      split at read
      next minus =>
        split at read
        next => cases read
        next notZero =>
          cases read
          obtain rfl : negative = true := minus
          have positive : 0 < whole := Nat.pos_of_ne_zero notZero
          simp [ofInt, positive]
      next noMinus =>
        cases read
        obtain rfl : negative = false := Bool.eq_false_iff.mpr noMinus
        simp [ofInt]
  · rintro rfl
    exact integer?_ofInt z

theorem val_digitValue {c : Char} (isDigit : c.isDigit = true) :
    (digitValue c).val = c.toNat - '0'.toNat := by
  have greatest : c.toNat ≤ 57 := (Char.isDigit_iff_toNat.mp isDigit).2
  change (c.toNat - 48) % 10 = c.toNat - 48
  omega

theorem le_ofDigitChars (cs : List Char) (value : Nat) : value ≤ Nat.ofDigitChars 10 cs value := by
  rw [Nat.ofDigitChars_eq_ofDigitChars_zero]
  have grown := Nat.le_mul_of_pos_left value (Nat.pow_pos (n := cs.length) (show 0 < 10 by decide))
  omega

theorem appendDigits_digits {cs : List Char} (digits : ∀ c ∈ cs, c.isDigit = true) {value : Nat}
    (fits : Nat.ofDigitChars 10 cs value < UInt64.size) :
    appendDigits value (cs.map fun c => (digitValue c).val)
      = (Nat.ofDigitChars 10 cs value, []) := by
  induction cs generalizing value with
  | nil => simp [appendDigits]
  | cons c cs ih =>
    rw [Nat.ofDigitChars_cons] at fits ⊢
    -- The number only grows with its later digits, so every part of it fits as well.
    have grown := le_ofDigitChars cs (10 * value + (c.toNat - '0'.toNat))
    have laterDigits := fun d member => digits d (List.mem_cons_of_mem c member)
    rw [List.map_cons, appendDigits, val_digitValue (digits c List.mem_cons_self),
      if_pos (by omega), ih laterDigits fits]

theorem leading_ofInt {n : Nat} (fits : n < UInt64.size) : (ofInt n).leading = (n, 0) := by
  have read : appendDigits 0 ((Nat.toDigits 10 n).map fun c => (digitValue c).val) = (n, []) := by
    rw [appendDigits_digits (fun c member => isDigit_of_mem_toDigits member)]
    · rw [Nat.ofDigitChars_ten_toDigits]
    · rwa [Nat.ofDigitChars_ten_toDigits]
  simp [leading, ofInt, read, appendDigits]

theorem roundToDouble_of_lt {n : Nat} (small : n < UInt32.size) : roundToDouble n = n := by
  have noUnit : n.log2 - 52 = 0 := by
    by_cases zero : n = 0
    · rw [zero]
      rfl
    · have places : n.log2 < 32 := (Nat.log2_lt zero).mpr small
      omega
  simp [roundToDouble, noUnit, Nat.mod_one]

theorem exceedsDouble_ofInt {n : Nat} (small : n < UInt32.size) :
    (ofInt n).exceedsDouble = false := by
  have bound : n < doubleBound := Nat.lt_of_lt_of_le small (by decide +kernel)
  have one : roundToDouble 1 = 1 := roundToDouble_of_lt (by decide)
  have fits : n < UInt64.size := Nat.lt_trans small (by decide)
  simp only [exceedsDouble, leading_ofInt fits]
  simpa [greatestScale, roundToDouble_of_lt small, one] using fun _ => bound

end GridRobot.Json.Number
