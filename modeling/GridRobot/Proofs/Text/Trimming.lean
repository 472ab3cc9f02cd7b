import GridRobot.Text.Blank
import Mathlib.Data.List.DropRight
import Mathlib.Data.List.Induction

/-! # Trimming

A trimmed text is what lies between the blanks at both ends: it is the only part of a text with
nothing but blanks before and after it that has no blank at its own ends (`trim_eq_iff`). -/

namespace GridRobot.Text

/-- Nothing but blanks, if anything at all. -/
def Blank (cs : List Char) : Prop :=
  ∀ c ∈ cs, isBlank c = true

/-- Neither begins nor ends with a blank. -/
structure NoBlankEnds (cs : List Char) : Prop where
  first : ∀ c ∈ cs.head?, isBlank c = false
  last : ∀ c ∈ cs.getLast?, isBlank c = false

instance (cs : List Char) : Decidable (Blank cs) :=
  List.decidableBAll (fun c => isBlank c = true) cs

instance (cs : List Char) : Decidable (NoBlankEnds cs) :=
  decidable_of_iff
    ((cs.head?.all fun c => !isBlank c) = true ∧ (cs.getLast?.all fun c => !isBlank c) = true) <| by
    simp only [Option.all_eq_true, Bool.not_eq_true']
    exact ⟨fun ends => ⟨ends.1, ends.2⟩, fun ends => ⟨ends.first, ends.last⟩⟩

/-! ## Blanks that are added -/

theorem trim_concat_blank (cs : List Char) {c : Char} (blank : isBlank c = true) :
    trim (cs ++ [c]) = trim cs := by
  unfold trim trimStart
  rw [List.dropWhile_append]
  cases start : cs.dropWhile isBlank with
  | nil => simp [trimEnd, blank]
  | cons d ds => simp [trimEnd, blank]

theorem trim_append_blank (cs : List Char) {after : List Char} (blank : Blank after) :
    trim (cs ++ after) = trim cs := by
  induction after using List.reverseRecOn with
  | nil => rw [List.append_nil]
  | append_singleton after c ih =>
    rw [← List.append_assoc, trim_concat_blank _ (blank c (by simp))]
    exact ih fun d member => blank d (List.mem_append_left _ member)

theorem trim_blank_append {before : List Char} (blank : Blank before) (cs : List Char) :
    trim (before ++ cs) = trim cs := by
  rw [trim, trimStart, List.dropWhile_append_of_pos blank]
  rfl

theorem trim_of_noBlankEnds {cs : List Char} (ends : NoBlankEnds cs) : trim cs = cs := by
  have start : trimStart cs = cs := by
    cases cs with
    | nil => rfl
    | cons c cs =>
      have first : isBlank c = false := ends.first c rfl
      exact List.dropWhile_cons_of_neg (by rw [first]; exact Bool.false_ne_true)
  rw [trim, start]
  apply List.rdropWhile_eq_self_iff.mpr
  intro nonempty
  rw [ends.last _ (List.getLast?_eq_some_getLast nonempty)]
  exact Bool.false_ne_true

/-! ## What trimming takes away -/

theorem trimStart_trim (cs : List Char) : trimStart (trim cs) = trim cs := by
  obtain ⟨rest, start⟩ : trim cs <+: trimStart cs := List.rdropWhile_prefix isBlank (trimStart cs)
  have again : trimStart (trimStart cs) = trimStart cs := List.dropWhile_idempotent isBlank cs
  rw [← start] at again
  cases trimmed : trim cs with
  | nil => rfl
  | cons c left =>
    -- What starts a trimmed text starts it before its end is trimmed, too.
    rw [trimmed, List.cons_append] at again
    have noBlank : ¬ isBlank c = true := List.dropWhile_eq_self_iff.mp again (Nat.zero_lt_succ _)
    exact List.dropWhile_cons_of_neg noBlank

theorem trim_trim (cs : List Char) : trim (trim cs) = trim cs := by
  calc trim (trim cs) = trimEnd (trim cs) := congrArg trimEnd (trimStart_trim cs)
    _ = trim cs := List.rdropWhile_idempotent isBlank (trimStart cs)

theorem trim_sublist (cs : List Char) : (trim cs).Sublist cs :=
  (List.rdropWhile_prefix isBlank (trimStart cs)).sublist.trans (List.dropWhile_sublist isBlank)

theorem noBlankEnds_trim (cs : List Char) : NoBlankEnds (trim cs) := by
  constructor
  · intro c first
    have start := trimStart_trim cs
    cases trimmed : trim cs with
    | nil => simp [trimmed] at first
    | cons d left =>
      obtain rfl : d = c := by simpa [trimmed] using first
      rw [trimmed] at start
      simpa using List.dropWhile_eq_self_iff.mp start (Nat.zero_lt_succ _)
  · intro c last
    have nonempty : trim cs ≠ [] := by
      intro nothing
      simp [nothing] at last
    rw [List.getLast?_eq_some_getLast nonempty] at last
    obtain rfl := Option.some.inj last
    have noBlank : ¬ isBlank ((trim cs).getLast nonempty) = true :=
      List.rdropWhile_last_not isBlank (trimStart cs) nonempty
    simpa using noBlank

theorem exists_blank_around_trim (cs : List Char) :
    ∃ before after, Blank before ∧ Blank after ∧ cs = before ++ trim cs ++ after := by
  refine ⟨cs.takeWhile isBlank, (trimStart cs).rtakeWhile isBlank, ?_, ?_, ?_⟩
  · exact fun c member => List.mem_takeWhile_imp member
  · exact fun c member => List.mem_rtakeWhile_imp member
  · have rest : trim cs ++ (trimStart cs).rtakeWhile isBlank = trimStart cs :=
      List.rdropWhile_append_rtakeWhile
    rw [List.append_assoc, rest]
    exact List.takeWhile_append_dropWhile.symm

theorem trim_eq_iff {cs text : List Char} :
    trim cs = text ↔
      NoBlankEnds text
        ∧ ∃ before after, Blank before ∧ Blank after ∧ cs = before ++ text ++ after := by
  constructor
  · rintro rfl
    exact ⟨noBlankEnds_trim cs, exists_blank_around_trim cs⟩
  · rintro ⟨ends, before, after, blankBefore, blankAfter, rfl⟩
    rw [trim_append_blank _ blankAfter, trim_blank_append blankBefore, trim_of_noBlankEnds ends]

/-! ## What trimming leaves

Nothing is taken from between two characters that are no blanks. -/

theorem suffix_trimStart {before cs : List Char} (nonempty : cs ≠ [])
    (first : ∀ c ∈ cs.head?, isBlank c = false) : cs <:+ trimStart (before ++ cs) := by
  rw [trimStart, List.dropWhile_append]
  split
  · cases cs with
    | nil => exact absurd rfl nonempty
    | cons c cs =>
      have noBlank : isBlank c = false := first c rfl
      have kept : (c :: cs).dropWhile isBlank = c :: cs :=
        List.dropWhile_cons_of_neg (by rw [noBlank]; exact Bool.false_ne_true)
      exact ⟨[], kept.symm⟩
  · exact List.suffix_append _ cs

theorem prefix_trimEnd {cs after : List Char} (nonempty : cs ≠ [])
    (last : ∀ c ∈ cs.getLast?, isBlank c = false) : cs <+: trimEnd (cs ++ after) := by
  rw [← List.head?_reverse] at last
  have suffix : cs.reverse <:+ trimStart (after.reverse ++ cs.reverse) :=
    suffix_trimStart (List.reverse_ne_nil_iff.mpr nonempty) last
  rw [trimEnd, List.reverse_append, ← List.reverse_suffix, List.reverse_reverse]
  exact suffix

theorem infix_trim {cs : List Char} (nonempty : cs ≠ []) (ends : NoBlankEnds cs)
    (before after : List Char) : cs <:+: trim (before ++ cs ++ after) := by
  have start : (cs ++ after).head? = cs.head? := by
    cases cs with
    | nil => exact absurd rfl nonempty
    | cons c cs => rfl
  have suffix : cs ++ after <:+ trimStart (before ++ (cs ++ after)) :=
    suffix_trimStart (by simp [nonempty]) (start ▸ ends.first)
  obtain ⟨kept, whole⟩ := suffix
  obtain ⟨rest, left⟩ : kept ++ cs <+: trimEnd (kept ++ cs ++ after) := by
    apply prefix_trimEnd (by simp [nonempty])
    rw [List.getLast?_append_of_ne_nil _ nonempty]
    exact ends.last
  rw [trim, List.append_assoc, ← whole, ← List.append_assoc, ← left]
  exact ⟨kept, rest, rfl⟩

end GridRobot.Text
