import GridRobot.Generation
import GridRobot.Proofs.Text.Trimming

/-! # Names of generations

A generation goes by its number, alone or after the two letters `mk`, and nothing else is one of
its names (`ofCanonical?_map_toLower`). Whether a text names a generation is then a matter of the
blanks around a name. -/

namespace GridRobot

/-! ## Small letters -/

namespace Text

theorem eq_or_toNat_add_of_toLower {c d : Char} (small : c.toLower = d) :
    c = d ∨ (65 ≤ c.toNat ∧ c.toNat + 32 = d.toNat) := by
  by_cases capital : c.val ≥ 'A'.val ∧ c.val ≤ 'Z'.val
  · right
    have least : 65 ≤ c.val.toNat := UInt32.le_iff_toNat_le.mp capital.1
    have greatest : c.val.toNat ≤ 90 := UInt32.le_iff_toNat_le.mp capital.2
    have value : d.val = c.val + 32 := by
      rw [← small]
      exact congrArg Char.val (dif_pos capital)
    have sum : d.val.toNat = c.val.toNat + 32 := by
      rw [value, UInt32.toNat_add]
      change (c.val.toNat + 32) % 4294967296 = c.val.toNat + 32
      omega
    exact ⟨least, sum.symm⟩
  · have unchanged : c.toLower = c := dif_neg capital
    exact .inl (unchanged.symm.trans small)

/-- A letter has two forms. -/
theorem toLower_eq_letter {c letter : Char} (capital : Char)
    (capitals : capital.toNat + 32 = letter.toNat) (small : c.toLower = letter) : c = letter ∨ c = capital := by
  rcases eq_or_toNat_add_of_toLower small with same | ⟨-, sum⟩
  · exact .inl same
  · exact .inr (Char.toNat_inj.mp (by omega))

/-- Nothing but letters has two forms. -/
theorem toLower_eq_sign {c sign : Char} (noLetter : sign.toNat < 97) (small : c.toLower = sign) :
    c = sign := by
  rcases eq_or_toNat_add_of_toLower small with same | ⟨least, sum⟩
  · exact same
  · omega

end Text

namespace Generation

open Text

/-! ## Names -/

/-- The number of a generation, as a digit. -/
def digit : Generation → Char
  | mk1 => '1'
  | mk2 => '2'
  | mk3 => '3'

/-- The names of a generation, in all their spellings. -/
inductive IsName (g : Generation) : List Char → Prop where
  | number : IsName g [g.digit]
  | full {m k : Char} (isM : m = 'm' ∨ m = 'M') (isK : k = 'k' ∨ k = 'K') :
      IsName g [m, k, g.digit]

/-- A text that names a generation, with any blanks around the name. -/
def Names (g : Generation) (s : String) : Prop :=
  ∃ before name after, Blank before ∧ Blank after ∧ g.IsName name
    ∧ s.toList = before ++ name ++ after

theorem ofCanonical?_eq_some_iff {cs : List Char} {g : Generation} :
    ofCanonical? cs = some g ↔ cs = [g.digit] ∨ cs = ['m', 'k', g.digit] := by
  constructor
  · intro named
    unfold ofCanonical? at named
    split at named
    case h_7 => cases named
    all_goals
      cases named
      simp [digit]
  · rintro (rfl | rfl)
    · cases g <;> rfl
    · cases g <;> rfl

theorem toLower_digit (g : Generation) : g.digit.toLower = g.digit := by
  cases g <;> rfl

theorem toNat_digit_lt (g : Generation) : g.digit.toNat < 97 := by
  cases g <;> decide

theorem ofCanonical?_map_toLower {cs : List Char} {g : Generation} :
    ofCanonical? (cs.map Char.toLower) = some g ↔ g.IsName cs := by
  rw [ofCanonical?_eq_some_iff]
  constructor
  · rintro (number | full)
    · obtain ⟨d, rfl, isDigit⟩ := List.map_eq_singleton_iff.mp number
      rw [toLower_eq_sign g.toNat_digit_lt isDigit]
      exact .number
    · obtain ⟨m, rest, rfl, isM, full⟩ := List.map_eq_cons_iff.mp full
      obtain ⟨k, rest, rfl, isK, number⟩ := List.map_eq_cons_iff.mp full
      obtain ⟨d, rfl, isDigit⟩ := List.map_eq_singleton_iff.mp number
      rw [toLower_eq_sign g.toNat_digit_lt isDigit]
      exact .full (toLower_eq_letter 'M' rfl isM) (toLower_eq_letter 'K' rfl isK)
  · rintro (_ | ⟨rfl | rfl, rfl | rfl⟩)
    · exact .inl (by rw [List.map_singleton, toLower_digit])
    all_goals
      right
      simp only [List.map_cons, List.map_nil, toLower_digit]
      rfl

/-- The characters that names are made of. -/
def nameChars : List Char :=
  ['m', 'M', 'k', 'K', '1', '2', '3']

theorem IsName.mem_nameChars {g : Generation} {name : List Char} (isName : g.IsName name) :
    ∀ c ∈ name, c ∈ nameChars := by
  have number : g.digit ∈ nameChars := by cases g <;> decide
  intro c member
  cases isName with
  | number =>
    obtain rfl := List.mem_singleton.mp member
    exact number
  | full isM isK =>
    simp only [List.mem_cons, List.not_mem_nil, or_false] at member
    rcases member with rfl | rfl | rfl
    · rcases isM with rfl | rfl <;> decide
    · rcases isK with rfl | rfl <;> decide
    · exact number

/-- No blank is a part of a name. -/
theorem IsName.noBlank {g : Generation} {name : List Char} (isName : g.IsName name) :
    ∀ c ∈ name, isBlank c = false := by
  have none : nameChars.all (fun c => !isBlank c) = true := by decide
  intro c member
  simpa using List.all_eq_true.mp none c (isName.mem_nameChars c member)

theorem IsName.noBlankEnds {g : Generation} {name : List Char} (isName : g.IsName name) :
    NoBlankEnds name :=
  ⟨fun c first => isName.noBlank c (List.mem_of_mem_head? first),
    fun c last => isName.noBlank c (List.mem_of_mem_getLast? last)⟩

theorem names_iff_trim {g : Generation} {s : String} : g.Names s ↔ g.IsName (trim s.toList) := by
  constructor
  · rintro ⟨before, name, after, blankBefore, blankAfter, isName, whole⟩
    have trimmed : trim s.toList = name :=
      trim_eq_iff.mpr ⟨isName.noBlankEnds, before, after, blankBefore, blankAfter, whole⟩
    rwa [trimmed]
  · intro isName
    obtain ⟨before, after, blankBefore, blankAfter, whole⟩ := exists_blank_around_trim s.toList
    exact ⟨before, trim s.toList, after, blankBefore, blankAfter, isName, whole⟩

theorem IsName.unique {g h : Generation} {name : List Char} (first : g.IsName name)
    (second : h.IsName name) : g = h := by
  have named := ofCanonical?_map_toLower.mpr first
  rw [ofCanonical?_map_toLower.mpr second] at named
  exact (Option.some.inj named).symm

/-! ## Texts that look like names -/

theorem Names.mem_nameChars {g : Generation} {s : String} (names : g.Names s) {c : Char}
    (member : c ∈ s.toList) (noBlank : isBlank c = false) : c ∈ nameChars := by
  obtain ⟨before, name, after, blankBefore, blankAfter, isName, whole⟩ := names
  rw [whole, List.mem_append, List.mem_append] at member
  rcases member with (leading | inside) | trailing
  · cases noBlank.symm.trans (blankBefore c leading)
  · exact isName.mem_nameChars c inside
  · cases noBlank.symm.trans (blankAfter c trailing)

/-- No two characters of a name have a blank between them. -/
theorem Names.noBlank_between {g : Generation} {s : String} (names : g.Names s)
    {before inside after : List Char} (whole : s.toList = before ++ inside ++ after)
    (nonempty : inside ≠ []) (ends : NoBlankEnds inside) : ∀ c ∈ inside, isBlank c = false := by
  have isName := names_iff_trim.mp names
  rw [whole] at isName
  exact fun c member => isName.noBlank c ((infix_trim nonempty ends before after).subset member)

/-! ## Reading a name -/

theorem parse_eq_ok_iff {g : Generation} {s : String} : parse s = .ok g ↔ g.Names s := by
  rw [names_iff_trim, ← ofCanonical?_map_toLower, parse]
  cases ofCanonical? ((trim s.toList).map Char.toLower) with
  | none => exact ⟨nofun, nofun⟩
  | some found => rw [Except.ok.injEq, Option.some.injEq]

theorem parse_of_not_names {s : String} (unnamed : ∀ g : Generation, ¬ g.Names s) :
    parse s = .error (unknownName s) := by
  have none : ofCanonical? ((trim s.toList).map Char.toLower) = none := by
    rw [Option.eq_none_iff_forall_not_mem]
    intro g found
    exact unnamed g (names_iff_trim.mpr (ofCanonical?_map_toLower.mp found))
  rw [parse, none]

/-- **Names of generations.** A text is read as a generation if and only if it is one of its names
between blanks, and then as no other. Nothing that merely looks like a name is one: every other
character is refused, and so is a blank with something else on both sides. A refused text stands in
the fault as it was given. -/
theorem parse_names (s : String) :
    (∀ g : Generation, parse s = .ok g ↔ g.Names s)
      ∧ (∀ g h : Generation, g.Names s → h.Names s → g = h)
      ∧ (∀ g : Generation, g.Names s → ∀ c ∈ s.toList, isBlank c = true ∨ c ∈ nameChars)
      ∧ (∀ g : Generation, g.Names s → ∀ before inside after,
        s.toList = before ++ inside ++ after → inside ≠ [] → NoBlankEnds inside →
          ∀ c ∈ inside, isBlank c = false)
      ∧ ((∀ g : Generation, ¬ g.Names s) →
        parse s = .error
          { kind := .invalidArgument
            message := "unknown robot generation '" ++ s ++ "'"
            operation := "control::parse_generation"
            context := [("generation", s), ("expected", "mk1, mk2, mk3")] }) := by
  refine ⟨fun g => parse_eq_ok_iff, ?_, ?_, ?_, fun unnamed => parse_of_not_names unnamed⟩
  · intro g h first second
    exact (names_iff_trim.mp first).unique (names_iff_trim.mp second)
  · intro g names c member
    cases blank : isBlank c with
    | true => exact .inl rfl
    | false => exact .inr (names.mem_nameChars member blank)
  · intro g names before inside after whole nonempty ends
    exact names.noBlank_between whole nonempty ends

/-- A sign that looks like a letter of a name is no such letter. -/
example : parse "\u3000Mk2\t\r\n" = .ok mk2 ∧ parse "m\u212a2" = .error (unknownName "m\u212a2") :=
  ⟨rfl, rfl⟩

end Generation
end GridRobot
