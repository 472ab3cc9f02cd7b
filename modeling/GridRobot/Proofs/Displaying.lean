import GridRobot.Report
import GridRobot.Proofs.Text.Quoting
import Mathlib

/-! # What is shown of instructions and warnings

An instruction is shown by its name and, after a space, by the magnitude of a boost or by a quoted
character. A warning shows a quoted character and an index. Each such text is shown of one
instruction or warning only, and it can be printed whatever the character is
(`display_unambiguous`). -/

namespace GridRobot

/-! ## Instructions -/

namespace Instruction

/-- What is shown of an instruction after its name. -/
def detail : Instruction → List Char
  | boost value => ' ' :: value.toNat.repr.toList
  | unknown c => ' ' :: (Text.quotedChar c).toList
  | _ => []

theorem toList_display (i : Instruction) :
    i.display.toList = i.mnemonic.toList ++ i.detail := by
  cases i with
  | boost value => simp [display, mnemonic, detail]
  | unknown c => simp [display, mnemonic, detail]
  | _ => exact (List.append_nil _).symm

theorem free_mnemonic (i : Instruction) : Text.Free [' '] i.mnemonic.toList := by
  cases i <;> simp only [mnemonic] <;> decide

theorem detail_stops (i : Instruction) : ∀ c ∈ i.detail.head?, c ∈ [' '] := by
  intro c first
  cases i <;> cases first <;> exact List.mem_singleton_self ' '

theorem display_inj {i j : Instruction} (same : i.display = j.display) : i = j := by
  have same := congrArg String.toList same
  rw [toList_display, toList_display] at same
  obtain ⟨names, details⟩ := Text.free_unique i.free_mnemonic j.free_mnemonic i.detail_stops
    j.detail_stops same
  have names := String.toList_inj.mp names
  cases i with
  | boost value =>
    cases j with
    | boost other =>
      have values := String.toList_inj.mp (List.tail_eq_of_cons_eq details)
      rw [UInt8.toNat_inj.mp (Nat.repr_inj.mp values)]
    | _ => simp [mnemonic] at names
  | unknown c =>
    cases j with
    | unknown d =>
      have quoted := congrArg (· ++ []) (List.tail_eq_of_cons_eq details)
      rw [(Text.quotedChar_unique quoted).1]
    | _ => simp [mnemonic] at names
  | _ => cases j <;> first | rfl | simp [mnemonic] at names

theorem printable_display (i : Instruction) : Text.Printable i.display.toList := by
  have space : Text.Printable [' '] := by decide
  have name : Text.Printable i.mnemonic.toList := by
    cases i <;> simp only [mnemonic] <;> decide
  rw [toList_display]
  refine name.append ?_
  cases i with
  | boost value => exact space.append (Text.printable_repr value.toNat)
  | unknown c => exact space.append (Text.printable_quotedChar c)
  | _ => exact List.forall_mem_nil _

end Instruction

/-! ## Warnings -/

namespace Warning

theorem toList_display (w : Warning) :
    w.display.toList
      = "bad instruction ".toList ++ ((Text.quotedChar w.character).toList
        ++ (" at index ".toList ++ w.index.repr.toList)) := by
  have pieces : ∀ a b c d : String,
      (a ++ b ++ c ++ d).toList = a.toList ++ (b.toList ++ (c.toList ++ d.toList)) := by
    intro a b c d
    simp only [String.toList_append, List.append_assoc]
  exact pieces _ _ _ _

theorem display_inj {v w : Warning} (same : v.display = w.display) : v = w := by
  have same := congrArg String.toList same
  rw [toList_display, toList_display] at same
  obtain ⟨characters, same⟩ := Text.quotedChar_unique (List.append_cancel_left same)
  have indices := Nat.repr_inj.mp (String.toList_inj.mp (List.append_cancel_left same))
  obtain ⟨index, character⟩ := v
  rw [Warning.mk.injEq]
  exact ⟨indices, characters⟩

theorem printable_display (w : Warning) : Text.Printable w.display.toList := by
  have opening : Text.Printable "bad instruction ".toList := by decide
  have middle : Text.Printable " at index ".toList := by decide
  rw [toList_display]
  exact opening.append ((Text.printable_quotedChar w.character).append
    (middle.append (Text.printable_repr w.index)))

end Warning

/-- **What is shown is unambiguous and printable.** No two instructions are shown in the same way,
be it boosts of any magnitude or characters of any kind, and no two warnings are. No character of
what is shown is a control character or breaks a line, not even where the character that the text is
about does. -/
theorem display_unambiguous :
    (∀ i j : Instruction, i.display = j.display → i = j)
      ∧ (∀ v w : Warning, v.display = w.display → v.index = w.index ∧ v.character = w.character)
      ∧ (∀ i : Instruction, ∀ c ∈ i.display.toList, Text.isPrintable c = true ∧ Text.IsShowable c)
      ∧ ∀ w : Warning, ∀ c ∈ w.display.toList, Text.isPrintable c = true ∧ Text.IsShowable c := by
  refine ⟨fun _ _ => Instruction.display_inj, ?_, ?_, ?_⟩
  · intro v w same
    rw [Warning.display_inj same]
    exact ⟨rfl, rfl⟩
  · intro i c member
    have printable := i.printable_display c member
    exact ⟨printable, Text.isShowable_of_isPrintable printable⟩
  · intro w c member
    have printable := w.printable_display c member
    exact ⟨printable, Text.isShowable_of_isPrintable printable⟩

/-- Two separators of lines, a digit as a boost and as a character, and a letter that is shown as it
is. -/
theorem display_unambiguous_separators :
    let w : Warning := ⟨3, '\u2028'⟩
    let i : Instruction := .decode 'é'
    w.display = "bad instruction '\\u\x7b2028\x7d' at index 3" ∧ '8' ∈ w.display.toList
      ∧ (∀ c ∈ w.display.toList, Text.isPrintable c = true ∧ Text.IsShowable c)
      ∧ w.display ≠ (⟨3, '\u2029'⟩ : Warning).display
      ∧ (Instruction.boost 5).display ≠ (Instruction.unknown '5').display
      ∧ i.display = "UNKNOWN 'é'" ∧ i = .unknown 'é' := by
  intro w i
  obtain ⟨instructions, warnings, -, showable⟩ := display_unambiguous
  have shown : i.display = (Instruction.unknown 'é').display := rfl
  refine ⟨by decide +kernel, by decide +kernel, showable w, fun same => ?_, fun same => ?_,
    by decide +kernel, instructions i (.unknown 'é') shown⟩
  · exact absurd (warnings _ _ same).2 (by decide)
  · exact absurd (instructions _ _ same) (by decide)

end GridRobot
