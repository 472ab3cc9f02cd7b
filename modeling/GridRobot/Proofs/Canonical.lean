import GridRobot.Proofs.Following
import GridRobot.Wire.Document

/-! # Canonical instructions

Every character asks for an instruction, but not every instruction is asked for by a character: one
that was read from elsewhere may be a boost beyond nine, or a letter of the instruction set that is
called unknown. What characters ask for are the canonical instructions, and these are the ones that
their own characters ask for (`Instruction.characters_canonical`). -/

namespace GridRobot

namespace Instruction

/-! ## Texts -/

theorem map_fst_decodeText (text : String) :
    (decodeText text).map Prod.fst = List.range text.length := by
  have indices : (decodeText text).map Prod.fst = text.toList.zipIdx.map Prod.snd := by
    rw [decodeText, List.map_map]
    rfl
  rw [indices, List.zipIdx_map_snd, String.length_toList, List.range_eq_range']

theorem map_snd_decodeText (text : String) :
    (decodeText text).map Prod.snd = text.toList.map decode := by
  have instructions : (decodeText text).map Prod.snd
      = (text.toList.zipIdx.map Prod.fst).map decode := by
    rw [decodeText, List.map_map, List.map_map]
    rfl
  rw [instructions, List.zipIdx_map_fst]

theorem ofList_map_toChar_decodeText (text : String) :
    String.ofList ((decodeText text).map fun (_, instruction) => instruction.toChar) = text := by
  have characters : ((decodeText text).map fun (_, instruction) => instruction.toChar)
      = ((decodeText text).map Prod.snd).map toChar := by
    rw [List.map_map]
    rfl
  have inverse : toChar ∘ decode = id := funext toChar_decode
  rw [characters, map_snd_decodeText, List.map_map, inverse, List.map_id, String.ofList_toList]

/-! ## Characters -/

theorem decode_of_isDigit {c : Char} (isDigit : c.isDigit = true) :
    decode c = boost (digitValue c).toUInt8 := by
  obtain ⟨instruction, decoded, reads⟩ := exists_reads c
  cases reads with
  | forward | backward | left | right => cases isDigit
  | digit => exact decoded
  | other noDigit => cases isDigit.symm.trans noDigit

theorem decode_of_other {c : Char} (noDigit : c.isDigit = false)
    (noLetter : c ∉ ['F', 'B', 'L', 'R']) : decode c = unknown c := by
  obtain ⟨instruction, decoded, reads⟩ := exists_reads c
  cases reads with
  | forward | backward | left | right => exact absurd (by decide) noLetter
  | digit isDigit => cases isDigit.symm.trans noDigit
  | other => exact decoded

theorem toNat_toChar_boost (value : UInt8) :
    (boost value).toChar.toNat = '0'.toNat + value.toNat := by
  have small := value.toNat_lt
  have zero : '0'.toNat = 48 := rfl
  have valid : ('0'.toNat + value.toNat).isValidChar := .inl (by omega)
  rw [toChar, Char.ofNat, dif_pos valid]
  rfl

/-! ### In bytes

Both ways between a digit and its value can be gone in words of eight bits, as long as the character
of a boost is a byte. -/

/-- A boost, if the instruction is one, goes no further past the digits than bytes do. -/
def InByte : Instruction → Prop
  | boost value => value ≤ 207
  | forward | backward | left | right | unknown _ => True

instance : DecidablePred InByte
  | boost value => inferInstanceAs (Decidable (value ≤ 207))
  | forward | backward | left | right | unknown _ => .isTrue trivial

/-- The sum of bytes does not wrap around. -/
theorem toChar_boost_eq_ofUInt8 {value : UInt8} (inByte : (boost value).InByte) :
    (boost value).toChar = Char.ofUInt8 ('0'.toUInt8 + value) := by
  have small : value.toNat ≤ 207 := UInt8.le_iff_toNat_le.mp inByte
  have zero : '0'.toNat = 48 := rfl
  have zeroByte : '0'.toUInt8.toNat = 48 := rfl
  have sum : (Char.ofUInt8 ('0'.toUInt8 + value)).toNat = ('0'.toUInt8 + value).toNat := rfl
  apply Char.toNat_inj.mp
  rw [toNat_toChar_boost, sum, UInt8.toNat_add]
  omega

/-- No digit comes before the least one, so the difference of bytes does not wrap around. -/
theorem toUInt8_digitValue {c : Char} (isDigit : c.isDigit = true) :
    (digitValue c).toUInt8 = c.toUInt8 - '0'.toUInt8 := by
  obtain ⟨least, greatest⟩ := Char.isDigit_iff_toNat.mp isDigit
  have zero : '0'.toNat = 48 := rfl
  have nine : '9'.toNat = 57 := rfl
  have zeroByte : '0'.toUInt8.toNat = 48 := rfl
  have byte : c.toUInt8.toNat = c.toNat := by
    change c.toNat % 2 ^ 8 = c.toNat
    omega
  have noBorrow : '0'.toUInt8 ≤ c.toUInt8 := by
    rw [UInt8.le_iff_toNat_le]
    omega
  apply UInt8.toNat_inj.mp
  rw [toNat_digitValue isDigit, UInt8.toNat_sub_of_le _ _ noBorrow, byte, digitValue, zeroByte,
    zero]

/-! ## Canonical instructions -/

/-- Neither a boost beyond nine nor an unknown character that is in the instruction set. -/
def IsCanonical : Instruction → Prop
  | boost value => value ≤ 9
  | unknown c => c.isDigit = false ∧ c ∉ ['F', 'B', 'L', 'R']
  | forward | backward | left | right => True

instance : DecidablePred IsCanonical
  | boost value => inferInstanceAs (Decidable (value ≤ 9))
  | unknown c => inferInstanceAs (Decidable (c.isDigit = false ∧ c ∉ ['F', 'B', 'L', 'R']))
  | forward | backward | left | right => .isTrue trivial

theorem isCanonical_decode (c : Char) : (decode c).IsCanonical := by
  obtain ⟨instruction, decoded, reads⟩ := exists_reads c
  rw [decoded]
  cases reads with
  | forward | backward | left | right => trivial
  | digit isDigit =>
    change (digitValue c).toUInt8 ≤ 9
    rw [UInt8.le_iff_toNat_le, toNat_digitValue isDigit]
    exact digitValue_le_nine isDigit
  | other noDigit notForward notBackward notLeft notRight =>
    exact ⟨noDigit, by simp [notForward, notBackward, notLeft, notRight]⟩

theorem decode_toChar_of_isCanonical {i : Instruction} (canonical : i.IsCanonical) :
    decode i.toChar = i := by
  cases i with
  | forward | backward | left | right => rfl
  | boost value =>
    have small : value.toNat ≤ 9 := UInt8.le_iff_toNat_le.mp canonical
    have zero : '0'.toNat = 48 := rfl
    have nine : '9'.toNat = 57 := rfl
    have code := toNat_toChar_boost value
    have isDigit : (boost value).toChar.isDigit = true :=
      Char.isDigit_iff_toNat.mpr ⟨by omega, by omega⟩
    have same : digitValue (boost value).toChar = value.toNat := by
      rw [digitValue, code, Nat.add_sub_cancel_left]
    rw [decode_of_isDigit isDigit, same, Nat.toUInt8, UInt8.ofNat_toNat]
  | unknown c => exact decode_of_other canonical.1 canonical.2

/-- What becomes of an instruction by way of its character is always canonical, so nothing else
comes back. -/
theorem decode_toChar_eq_iff (i : Instruction) : decode i.toChar = i ↔ i.IsCanonical := by
  constructor
  · intro same
    rw [← same]
    exact isCanonical_decode i.toChar
  · exact decode_toChar_of_isCanonical

theorem isCanonical_iff_exists (i : Instruction) : i.IsCanonical ↔ ∃ c, decode c = i := by
  constructor
  · intro canonical
    exact ⟨i.toChar, decode_toChar_of_isCanonical canonical⟩
  · rintro ⟨c, rfl⟩
    exact isCanonical_decode c

/-- **Characters of instructions.** A text is decoded into one instruction for each character, with
the indices in order, and the characters of the instructions are the text again. An instruction
comes back by way of its character exactly if it is canonical, and the canonical instructions are
those that some character asks for. No sum or difference of bytes on the way wraps around. -/
theorem characters_canonical :
    (∀ text : String,
        (decodeText text).map Prod.fst = List.range text.length
          ∧ (decodeText text).map Prod.snd = text.toList.map decode
          ∧ String.ofList ((decodeText text).map fun (_, i) => i.toChar) = text)
      ∧ (∀ i : Instruction, i.InByte → (decode i.toChar = i ↔ i.IsCanonical))
      ∧ (∀ i : Instruction, i.IsCanonical ↔ ∃ c, decode c = i)
      ∧ (∀ value : UInt8, (boost value).InByte →
          (boost value).toChar = Char.ofUInt8 ('0'.toUInt8 + value))
      ∧ ∀ c : Char, c.isDigit = true → decode c = boost (c.toUInt8 - '0'.toUInt8) := by
  refine ⟨?_, fun i _ => i.decode_toChar_eq_iff, isCanonical_iff_exists,
    fun _ => toChar_boost_eq_ofUInt8, ?_⟩
  · intro text
    exact ⟨map_fst_decodeText text, map_snd_decodeText text, ofList_map_toChar_decodeText text⟩
  · intro c isDigit
    rw [decode_of_isDigit isDigit, toUInt8_digitValue isDigit]

/-- A boost that was read from a document and whose character is a letter, the last boost in a byte,
a digit that is called unknown, and a text of several bytes to a character. -/
theorem characters_canonical_letterBoost :
    let letter : Instruction := .boost 22
    let last : Instruction := .boost 207
    Document.parse? Instruction "\x7b\"op\":\"BOOST\",\"value\":22\x7d" = some letter
      ∧ letter.InByte ∧ letter.toChar = 'F' ∧ decode letter.toChar ≠ letter
      ∧ last.InByte ∧ last.toChar = Char.ofUInt8 ('0'.toUInt8 + 207)
      ∧ (¬ ∃ c, decode c = last)
      ∧ (unknown '7').InByte ∧ decode (unknown '7').toChar ≠ unknown '7'
      ∧ '7'.isDigit = true ∧ decode '7' = boost ('7'.toUInt8 - '0'.toUInt8)
      ∧ (decodeText "é5F").map Prod.fst = List.range 3 := by
  intro letter last
  obtain ⟨texts, back, asked, sums, differences⟩ := characters_canonical
  refine ⟨by decide +kernel, by decide, by decide, ?_, by decide, sums 207 (by decide), ?_,
    by decide, ?_, by decide, differences '7' (by decide), (texts "é5F").1⟩
  · exact fun same => absurd ((back letter (by decide)).mp same) (by decide)
  · exact fun found => absurd ((asked last).mpr found) (by decide)
  · exact fun same => absurd ((back (unknown '7') (by decide)).mp same) (by decide)

end Instruction
end GridRobot
