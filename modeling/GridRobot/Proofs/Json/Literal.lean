import GridRobot.Proofs.Json.Grammar

/-! # Literals are read exactly

Between two quotes there is no quote outside an escape (`Unquoted`), and there the reader of
literals and the grammar say the same: `read?_eq_some_iff`. What is written of a text is one of its
spellings (`spelled_body`). A character stands there in one of three ways, which `Writes` tells
apart. -/

namespace GridRobot.Json.Literal

/-! ## Items -/

/-- No quote stands outside an escape. -/
inductive Unquoted : List Char → Prop where
  | nil : Unquoted []
  | plain {c : Char} {cs : List Char} (noQuote : c ≠ '"') (noBackslash : c ≠ '\\')
      (rest : Unquoted cs) : Unquoted (c :: cs)
  | escaped (e : Char) {cs : List Char} (rest : Unquoted cs) : Unquoted ('\\' :: e :: cs)

namespace Unquoted

theorem of_plain {c : Char} {cs : List Char} (unquoted : Unquoted (c :: cs))
    (noBackslash : c ≠ '\\') : c ≠ '"' ∧ Unquoted cs := by
  cases unquoted with
  | plain noQuote _ rest => exact ⟨noQuote, rest⟩
  | escaped => exact absurd rfl noBackslash

theorem of_escaped {e : Char} {cs : List Char} (unquoted : Unquoted ('\\' :: e :: cs)) :
    Unquoted cs := by
  cases unquoted with
  | plain _ noBackslash => exact absurd rfl noBackslash
  | escaped _ rest => exact rest

theorem append_iff_of_plain {cs rest : List Char} (plain : ∀ c ∈ cs, c ≠ '"' ∧ c ≠ '\\') :
    Unquoted (cs ++ rest) ↔ Unquoted rest := by
  induction cs with
  | nil => rfl
  | cons c cs ih =>
    obtain ⟨noQuote, noBackslash⟩ := plain c List.mem_cons_self
    rw [List.cons_append, ← ih fun d member => plain d (List.mem_cons_of_mem c member)]
    exact ⟨fun unquoted => (unquoted.of_plain noBackslash).2, .plain noQuote noBackslash⟩

end Unquoted

theorem plain_of_hexValue? {c : Char} {n : Nat} (hex : hexValue? c = some n) :
    c ≠ '"' ∧ c ≠ '\\' := by
  constructor
  · rintro rfl
    cases hex
  · rintro rfl
    cases hex

/-- All four characters of a unit are digits of base sixteen. -/
theorem plain_of_unit? {a b c d : Char} {n : Nat} (hex : unit? a b c d = some n) :
    ∀ x ∈ [a, b, c, d], x ≠ '"' ∧ x ≠ '\\' := by
  obtain ⟨_, first, hex⟩ := Option.bind_eq_some_iff.mp hex
  obtain ⟨_, second, hex⟩ := Option.bind_eq_some_iff.mp hex
  obtain ⟨_, third, hex⟩ := Option.bind_eq_some_iff.mp hex
  obtain ⟨_, fourth, _⟩ := Option.bind_eq_some_iff.mp hex
  intro x member
  simp only [List.mem_cons, List.not_mem_nil, or_false] at member
  rcases member with rfl | rfl | rfl | rfl
  · exact plain_of_hexValue? first
  · exact plain_of_hexValue? second
  · exact plain_of_hexValue? third
  · exact plain_of_hexValue? fourth

theorem PiecesSpelled.unquoted {ps : List Piece} {cs : List Char} (spelled : PiecesSpelled ps cs) :
    Unquoted cs := by
  induction spelled with
  | nil => exact .nil
  | raw _ noQuote noBackslash _ ih => exact .plain noQuote noBackslash ih
  | escape _ _ ih => exact .escaped _ ih
  | unit hex _ ih =>
    exact .escaped 'u' ((Unquoted.append_iff_of_plain (plain_of_unit? hex)).mpr ih)

theorem pieces?_escape {e : Char} (noUnit : e ≠ 'u') (rest : List Char) :
    pieces? ('\\' :: e :: rest)
      = (escaped? e).bind fun c => (pieces? rest).map (.char c :: ·) := by
  rw [pieces?.eq_def]
  -- The patterns overlap: an escape by number also looks like a named one.
  split
  next nothing => exact absurd nothing (List.cons_ne_nil _ _)
  next unit =>
    rw [List.cons.injEq, List.cons.injEq] at unit
    exact absurd unit.2.1 noUnit
  next _ named =>
    rw [List.cons.injEq, List.cons.injEq] at named
    obtain ⟨-, rfl, rfl⟩ := named
    cases escaped? e with
    | none => rfl
    | some c => cases pieces? rest <;> rfl
  next alone =>
    rw [List.cons.injEq] at alone
    exact absurd alone.2 (List.cons_ne_nil _ _)
  next noEscape _ plain =>
    rw [List.cons.injEq] at plain
    exact (noEscape e rest plain.1.symm plain.2.symm).elim

theorem pieces?_raw {c : Char} (noControl : ¬ c.toNat < 0x20) (noBackslash : c ≠ '\\')
    (rest : List Char) : pieces? (c :: rest) = (pieces? rest).map (.char c :: ·) := by
  rw [pieces?.eq_def]
  split
  next nothing => exact absurd nothing (List.cons_ne_nil _ _)
  next unit =>
    rw [List.cons.injEq] at unit
    exact absurd unit.1 noBackslash
  next _ named =>
    rw [List.cons.injEq] at named
    exact absurd named.1 noBackslash
  next alone =>
    rw [List.cons.injEq] at alone
    exact absurd alone.1 noBackslash
  next plain =>
    rw [List.cons.injEq] at plain
    obtain ⟨rfl, rfl⟩ := plain
    rw [if_neg noControl]
    cases pieces? rest <;> rfl

theorem pieces?_of_spelled {ps : List Piece} {cs : List Char} (spelled : PiecesSpelled ps cs) :
    pieces? cs = some ps := by
  induction spelled with
  | nil => rfl
  | raw noControl _ noBackslash _ ih => rw [pieces?_raw noControl noBackslash, ih, Option.map_some]
  | @escape e _ _ _ escaped _ ih =>
    have noUnit : e ≠ 'u' := by
      rintro rfl
      cases escaped
    rw [pieces?_escape noUnit, escaped, ih, Option.bind_some, Option.map_some]
  | unit hex _ ih =>
    simp only [pieces?, hex, ih, Option.bind_eq_bind, Option.bind_some, Option.pure_def]

theorem spelled_of_pieces? {cs : List Char} {ps : List Piece} (unquoted : Unquoted cs)
    (read : pieces? cs = some ps) : PiecesSpelled ps cs := by
  fun_induction pieces? cs generalizing ps with
  | case1 =>
    cases read
    exact .nil
  | case2 a b c d rest ih =>
    obtain ⟨n, hex, read⟩ := Option.bind_eq_some_iff.mp read
    obtain ⟨later, readLater, read⟩ := Option.bind_eq_some_iff.mp read
    cases read
    have afterUnit : Unquoted rest :=
      (Unquoted.append_iff_of_plain (plain_of_unit? hex)).mp unquoted.of_escaped
    exact .unit hex (ih afterUnit readLater)
  | case3 e rest _ ih =>
    obtain ⟨c, escaped, read⟩ := Option.bind_eq_some_iff.mp read
    obtain ⟨later, readLater, read⟩ := Option.bind_eq_some_iff.mp read
    cases read
    exact .escape escaped (ih unquoted.of_escaped readLater)
  | case4 => cases read
  | case5 => cases read
  -- A plain character; that it is no backslash is left over from the patterns before it.
  | case6 c rest _ noEscape notAlone noControl ih =>
    obtain ⟨later, readLater, read⟩ := Option.bind_eq_some_iff.mp read
    cases read
    have noBackslash : c ≠ '\\' := by
      rintro rfl
      cases rest with
      | nil => exact notAlone rfl rfl
      | cons e rest => exact noEscape e rest rfl rfl
    obtain ⟨noQuote, unquoted⟩ := unquoted.of_plain noBackslash
    exact .raw noControl noQuote noBackslash (ih unquoted readLater)

/-! ## Characters -/

/-- A unit outside the halves of pairs is a character of its own, whatever comes after it. -/
theorem chars?_unit {n : Nat} (noHigh : isHighHalf n = false) (noLow : isLowHalf n = false)
    (pieces : List Piece) :
    chars? (.unit n :: pieces) = (chars? pieces).map (Char.ofNat n :: ·) := by
  cases pieces with
  | nil => simp [chars?, noHigh, noLow]
  | cons piece pieces =>
    cases piece with
    | char c => simp [chars?, noHigh, noLow]
    | unit low => simp [chars?, noHigh, noLow]

theorem chars?_eq_some_iff {ps : List Piece} {cs : List Char} :
    chars? ps = some cs ↔ Gives ps cs := by
  constructor
  · intro given
    fun_induction chars? ps generalizing cs with
    | case1 =>
      cases given
      exact .nil
    | case2 c rest ih =>
      obtain ⟨later, givenLater, rfl⟩ := Option.map_eq_some_iff.mp given
      exact .char c (ih givenLater)
    | case3 high low rest isHigh isLow ih =>
      obtain ⟨later, givenLater, rfl⟩ := Option.map_eq_some_iff.mp given
      exact .pair isHigh isLow (ih givenLater)
    | case4 => cases given
    | case5 => cases given
    | case6 high low rest noHigh noLow ih =>
      obtain ⟨later, givenLater, rfl⟩ := Option.map_eq_some_iff.mp given
      exact .unit (Bool.eq_false_iff.mpr noHigh) (Bool.eq_false_iff.mpr noLow) (ih givenLater)
    | case7 => cases given
    | case8 n rest _ noHalf ih =>
      obtain ⟨later, givenLater, rfl⟩ := Option.map_eq_some_iff.mp given
      rw [Bool.not_eq_true, Bool.or_eq_false_iff] at noHalf
      exact .unit noHalf.1 noHalf.2 (ih givenLater)
  · intro gives
    induction gives with
    | nil => rfl
    | char c _ ih => rw [chars?, ih, Option.map_some]
    | unit noHigh noLow _ ih => rw [chars?_unit noHigh noLow, ih, Option.map_some]
    | pair isHigh isLow _ ih => rw [chars?, if_pos isHigh, if_pos isLow, ih, Option.map_some]

/-! ## Whole literals -/

theorem Spelled.unquoted {s : Option String} {body : List Char} (spelled : Spelled s body) :
    Unquoted body := by
  cases spelled with
  | text pieces => exact pieces.unquoted
  | noText pieces => exact pieces.unquoted

theorem read?_eq_some_iff {body : List Char} (unquoted : Unquoted body) {s : Option String} :
    read? body = some s ↔ Spelled s body := by
  constructor
  · intro read
    obtain ⟨ps, readPieces, rfl⟩ := Option.map_eq_some_iff.mp read
    have pieces := spelled_of_pieces? unquoted readPieces
    cases given : chars? ps with
    | some cs => exact .text pieces (chars?_eq_some_iff.mp given)
    | none =>
      refine .noText pieces fun cs gives => ?_
      cases given.symm.trans (chars?_eq_some_iff.mpr gives)
  · intro spelled
    cases spelled with
    | text pieces gives =>
      rw [read?, pieces?_of_spelled pieces, Option.map_some, chars?_eq_some_iff.mpr gives,
        Option.map_some]
    | @noText ps _ pieces halves =>
      have nothing : chars? ps = none := by
        rw [Option.eq_none_iff_forall_ne_some]
        exact fun cs given => halves cs (chars?_eq_some_iff.mp given)
      rw [read?, pieces?_of_spelled pieces, Option.map_some, nothing, Option.map_none]

/-! ## Written literals -/

/-- How a character stands between the quotes. -/
inductive Writes : Char → List Char → Prop where
  | escape {c e : Char} (escaped : escaped? e = some c) : Writes c ['\\', e]
  | unit {c : Char} (control : c.toNat < 0x20) :
      Writes c ['\\', 'u', '0', '0', Nat.digitChar (c.toNat / 16), Nat.digitChar (c.toNat % 16)]
  | raw {c : Char} (noControl : ¬ c.toNat < 0x20) (noQuote : c ≠ '"') (noBackslash : c ≠ '\\') :
      Writes c [c]

theorem charText_writes (c : Char) : Writes c (charText c) := by
  unfold charText
  -- The seven short escapes come first, in the order of the definition.
  split
  · exact .escape rfl
  · exact .escape rfl
  · exact .escape rfl
  · exact .escape rfl
  · exact .escape rfl
  · exact .escape rfl
  · exact .escape rfl
  next noQuote noBackslash _ _ _ _ _ =>
    split
    next control => exact .unit control
    next noControl => exact .raw noControl noQuote noBackslash

theorem hexValue?_digitChar : ∀ n : Fin 16, hexValue? (Nat.digitChar n.val) = some n.val := by
  decide

theorem unit?_control {n : Nat} (control : n < 0x20) :
    unit? '0' '0' (Nat.digitChar (n / 16)) (Nat.digitChar (n % 16)) = some n := by
  have high := hexValue?_digitChar ⟨n / 16, by omega⟩
  have low := hexValue?_digitChar ⟨n % 16, by omega⟩
  have zero : hexValue? '0' = some 0 := rfl
  simp only at high low
  simp only [unit?, zero, high, low, Option.bind_eq_bind, Option.bind_some, Option.pure_def]
  congr 1
  omega

/-- What stands for a character is one item, and that item gives the character. -/
theorem Writes.piece {c : Char} {cs : List Char} (writes : Writes c cs) :
    ∃ piece, (∀ {ps rest}, PiecesSpelled ps rest → PiecesSpelled (piece :: ps) (cs ++ rest))
      ∧ ∀ {ps rest}, Gives ps rest → Gives (piece :: ps) (c :: rest) := by
  cases writes with
  | escape escaped => exact ⟨.char c, .escape escaped, .char c⟩
  | raw noControl noQuote noBackslash =>
    exact ⟨.char c, .raw noControl noQuote noBackslash, .char c⟩
  | unit control =>
    refine ⟨.unit c.toNat, .unit (unit?_control control), fun {ps rest} gives => ?_⟩
    -- Control characters lie far below the halves of pairs.
    have noHigh : isHighHalf c.toNat = false := by
      simp only [isHighHalf, Bool.and_eq_false_iff, decide_eq_false_iff_not]
      omega
    have noLow : isLowHalf c.toNat = false := by
      simp only [isLowHalf, Bool.and_eq_false_iff, decide_eq_false_iff_not]
      omega
    have given := Gives.unit noHigh noLow gives
    rwa [Char.ofNat_toNat] at given

/-- What stands between the quotes. -/
def body : Option String → List Char
  | some s => s.toList.flatMap charText
  | none => ['\\', 'u', 'd', '8', '0', '0']

theorem text_eq_body (s : Option String) : text s = '"' :: (body s ++ ['"']) := by
  cases s with
  | none => rfl
  | some s => rfl

theorem pieces_flatMap_charText (cs : List Char) :
    ∃ ps, PiecesSpelled ps (cs.flatMap charText) ∧ Gives ps cs := by
  induction cs with
  | nil => exact ⟨[], .nil, .nil⟩
  | cons c cs ih =>
    obtain ⟨ps, spelled, gives⟩ := ih
    obtain ⟨piece, spelledFirst, givesFirst⟩ := (charText_writes c).piece
    exact ⟨piece :: ps, spelledFirst spelled, givesFirst gives⟩

theorem spelled_body (s : Option String) : Spelled s (body s) := by
  cases s with
  | some s =>
    obtain ⟨ps, spelled, gives⟩ := pieces_flatMap_charText s.toList
    have text := Spelled.text spelled gives
    rwa [String.ofList_toList] at text
  | none =>
    refine .noText (.unit rfl .nil) fun cs gives => ?_
    cases gives with
    | unit noHigh => cases noHigh

end GridRobot.Json.Literal
