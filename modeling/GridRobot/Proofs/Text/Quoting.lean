import GridRobot.Text.Quoted
import GridRobot.Proofs.Text.Spans

/-! # Quoted characters

Between single quotes a character is shown in one of three ways (`Shows`): by a short escape, by an
escape with its code point, or by itself if it is printable and no backslash. The first two
characters tell these apart, and each of them tells where it ends. So what stands between the quotes
stands for one character only (`quotedChar_unique`), and all of it is printable
(`printable_quotedChar`). -/

namespace GridRobot.Text

/-! ## Numbers in hexadecimal -/

theorem toDigits_sixteen (n : Nat) :
    Nat.toDigits 16 n
      = (if n < 16 then [] else Nat.toDigits 16 (n / 16)) ++ [Nat.digitChar (n % 16)] := by
  split
  next small => rw [Nat.toDigits_of_lt_base small, Nat.mod_eq_of_lt small, List.nil_append]
  next great => exact Nat.toDigits_of_base_le (by decide) (Nat.not_lt.mp great)

theorem exists_of_mem_toDigits {n : Nat} {c : Char} (member : c ∈ Nat.toDigits 16 n) :
    ∃ d : Fin 16, c = Nat.digitChar d.val := by
  induction n using Nat.strongRecOn with
  | ind n ih =>
    rw [toDigits_sixteen] at member
    rcases List.mem_append.mp member with earlier | last
    · split at earlier
      next => cases earlier
      next great => exact ih (n / 16) (by omega) earlier
    · exact ⟨⟨n % 16, Nat.mod_lt n (by decide)⟩, List.mem_singleton.mp last⟩

theorem digitChar_inj : ∀ d e : Fin 16, Nat.digitChar d.val = Nat.digitChar e.val → d = e := by
  decide

theorem toDigits_sixteen_inj {m n : Nat} (same : Nat.toDigits 16 m = Nat.toDigits 16 n) :
    m = n := by
  induction m using Nat.strongRecOn generalizing n with
  | ind m ih =>
    rw [toDigits_sixteen m, toDigits_sixteen n] at same
    obtain ⟨earlier, last⟩ := List.append_inj' same rfl
    have remainders : m % 16 = n % 16 :=
      congrArg Fin.val (digitChar_inj ⟨m % 16, Nat.mod_lt m (by decide)⟩
        ⟨n % 16, Nat.mod_lt n (by decide)⟩ (List.head_eq_of_cons_eq last))
    have quotients : m / 16 = n / 16 := by
      split at earlier
      next small =>
        split at earlier
        next otherSmall => rw [Nat.div_eq_of_lt small, Nat.div_eq_of_lt otherSmall]
        next => exact absurd earlier.symm Nat.toDigits_ne_nil
      next great =>
        split at earlier
        next => exact absurd earlier Nat.toDigits_ne_nil
        next => exact ih (m / 16) (by omega) earlier
    omega

/-! ## Printable texts -/

/-- Every character is printable. -/
def Printable (cs : List Char) : Prop :=
  ∀ c ∈ cs, isPrintable c = true

instance (cs : List Char) : Decidable (Printable cs) :=
  List.decidableBAll (fun c => isPrintable c = true) cs

theorem Printable.append {cs ds : List Char} (first : Printable cs) (second : Printable ds) :
    Printable (cs ++ ds) :=
  fun c member => (List.mem_append.mp member).elim (first c) (second c)

theorem printable_digitChar : ∀ d : Fin 16, isPrintable (Nat.digitChar d.val) = true := by
  decide

theorem printable_toDigits_sixteen (n : Nat) : Printable (Nat.toDigits 16 n) := by
  intro c member
  obtain ⟨d, rfl⟩ := exists_of_mem_toDigits member
  exact printable_digitChar d

theorem printable_repr (n : Nat) : Printable n.repr.toList := by
  intro c member
  rw [Nat.toList_repr] at member
  have digit := Nat.isDigit_of_mem_toDigits (by decide) (by decide) member
  obtain ⟨least, greatest⟩ : 48 ≤ c.toNat ∧ c.toNat ≤ 57 := Char.isDigit_iff_toNat.mp digit
  simp only [isPrintable, Bool.or_eq_true, Bool.and_eq_true, decide_eq_true_eq]
  exact .inl ⟨by omega, by omega⟩

/-- Has a code point of no control character, and breaks no line. -/
structure IsShowable (c : Char) : Prop where
  noControl : 0x20 ≤ c.toNat ∧ (c.toNat < 0x7F ∨ 0x9F < c.toNat)
  noNewline : c ≠ '\n'
  noSeparator : c ≠ '\u2028' ∧ c ≠ '\u2029'

theorem isShowable_of_isPrintable {c : Char} (printable : isPrintable c = true) :
    IsShowable c := by
  refine ⟨?_, ?_, ?_, ?_⟩
  · simp only [isPrintable, isControl, Bool.or_eq_true, Bool.and_eq_true, Bool.not_eq_true',
      Bool.or_eq_false_iff, Bool.and_eq_false_iff, decide_eq_true_eq, decide_eq_false_iff_not]
      at printable
    omega
  all_goals
    rintro rfl
    exact absurd printable (by decide)

/-! ## What stands for a character -/

/-- The characters with a short escape, and what stands after the backslash in it. -/
def shortEscapes : List (Char × Char) :=
  [('\x00', '0'), ('\t', 't'), ('\r', 'r'), ('\n', 'n'), ('\\', '\\'), ('\'', '\'')]

inductive Shows (c : Char) : List Char → Prop where
  | short {e : Char} (escape : (c, e) ∈ shortEscapes) : Shows c ['\\', e]
  | codePoint : Shows c (codePointEscape c)
  | raw (noBackslash : c ≠ '\\') (printable : isPrintable c = true) : Shows c [c]

theorem shows_quotedBody (c : Char) : Shows c (quotedBody '\'' c) := by
  unfold quotedBody
  split
  next same => rw [same]; exact .short (by decide)
  split
  next same => rw [same]; exact .short (by decide)
  split
  next same => rw [same]; exact .short (by decide)
  split
  next same => rw [same]; exact .short (by decide)
  split
  next same => rcases same with rfl | rfl <;> exact .short (by decide)
  next noSign =>
    split
    next => exact .codePoint
    next plain =>
      simp only [Bool.or_eq_true, Bool.not_eq_true', not_or, Bool.not_eq_false] at plain
      exact .raw (fun same => noSign (.inl same)) plain.2

theorem eq_of_short {c d e : Char} (first : (c, e) ∈ shortEscapes)
    (second : (d, e) ∈ shortEscapes) : c = d := by
  have once : ∀ p ∈ shortEscapes, ∀ q ∈ shortEscapes, p.2 = q.2 → p.1 = q.1 := by decide
  exact once (c, e) first (d, e) second rfl

/-- No short escape is taken for the beginning of an escape with a code point. -/
theorem short_ne_u {c e : Char} (escape : (c, e) ∈ shortEscapes) : e ≠ 'u' := by
  have none : ∀ p ∈ shortEscapes, p.2 ≠ 'u' := by decide
  exact none (c, e) escape

theorem codePointEscape_unique {c d : Char} {rest left : List Char}
    (same : codePointEscape c ++ rest = codePointEscape d ++ left) : c = d ∧ rest = left := by
  have free : ∀ n, Free ['\x7d'] (Nat.toDigits 16 n) := by
    intro n c member
    obtain ⟨d, rfl⟩ := exists_of_mem_toDigits member
    have noBrace : ∀ d : Fin 16, Nat.digitChar d.val ∉ ['\x7d'] := by decide
    exact noBrace d
  simp only [codePointEscape, List.cons_append, List.append_assoc, List.cons.injEq, true_and,
    List.nil_append] at same
  obtain ⟨digits, rests⟩ := before_unique (free c.toNat) (free d.toNat) same
  exact ⟨Char.toNat_inj.mp (toDigits_sixteen_inj digits), rests⟩

namespace Shows

variable {c d : Char} {cs ds rest left : List Char}

/-- The first character tells an escape from a character that is shown as it is, and the second one
tells the two sorts of escape apart. -/
theorem unique (shown : Shows c cs) (other : Shows d ds) (same : cs ++ rest = ds ++ left) :
    c = d ∧ rest = left := by
  cases shown with
  | short escape =>
    cases other with
    | short otherEscape =>
      obtain ⟨letters, rests⟩ := List.cons_eq_cons.mp (List.tail_eq_of_cons_eq same)
      rw [← letters] at otherEscape
      exact ⟨eq_of_short escape otherEscape, rests⟩
    | codePoint =>
      have letter := List.head_eq_of_cons_eq (List.tail_eq_of_cons_eq same)
      exact absurd letter (short_ne_u escape)
    | raw noBackslash => exact absurd (List.head_eq_of_cons_eq same).symm noBackslash
  | codePoint =>
    cases other with
    | short otherEscape =>
      have letter := List.head_eq_of_cons_eq (List.tail_eq_of_cons_eq same)
      exact absurd letter.symm (short_ne_u otherEscape)
    | codePoint => exact codePointEscape_unique same
    | raw noBackslash => exact absurd (List.head_eq_of_cons_eq same).symm noBackslash
  | raw noBackslash =>
    cases other with
    | short => exact absurd (List.head_eq_of_cons_eq same) noBackslash
    | codePoint => exact absurd (List.head_eq_of_cons_eq same) noBackslash
    | raw => exact List.cons_eq_cons.mp same

theorem printable (shown : Shows c cs) : Printable cs := by
  cases shown with
  | @short e escape =>
    have signs : ∀ p ∈ shortEscapes, Printable ['\\', p.2] := by decide
    exact signs (c, e) escape
  | codePoint =>
    have opening : Printable ['\\', 'u', '\x7b'] := by decide
    have closing : Printable ['\x7d'] := by decide
    exact opening.append ((printable_toDigits_sixteen c.toNat).append closing)
  | raw _ printable =>
    intro d member
    rwa [List.mem_singleton.mp member]

end Shows

theorem toList_quotedChar (c : Char) :
    (quotedChar c).toList = '\'' :: (quotedBody '\'' c ++ ['\'']) :=
  String.toList_ofList

theorem quotedChar_unique {c d : Char} {rest left : List Char}
    (same : (quotedChar c).toList ++ rest = (quotedChar d).toList ++ left) :
    c = d ∧ rest = left := by
  simp only [toList_quotedChar, List.cons_append, List.append_assoc] at same
  obtain ⟨chars, rests⟩ :=
    (shows_quotedBody c).unique (shows_quotedBody d) (List.tail_eq_of_cons_eq same)
  exact ⟨chars, List.tail_eq_of_cons_eq rests⟩

theorem printable_quotedChar (c : Char) : Printable (quotedChar c).toList := by
  have quote : Printable ['\''] := by decide
  rw [toList_quotedChar]
  exact quote.append ((shows_quotedBody c).printable.append quote)

end GridRobot.Text
