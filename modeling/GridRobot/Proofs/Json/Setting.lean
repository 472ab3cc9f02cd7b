import GridRobot.Proofs.Json.Fields
import GridRobot.Proofs.Json.Printing

/-! # A field in its setting

A structure with one field left open is a `Setting`: an object with any members around that of the
field, or an array that has the place of the field open. What the structure comes to with a value
in that place differs from what it comes to with another value in that field only
(`Setting.exists_fields`).

In a text, the setting is what stands before the value and what stands after it (`Frames`). Every
text of the structure is cut so (`Setting.exists_frames`), so a statement about texts between the
two is a statement about all texts of the value. -/

namespace GridRobot.Json

/-- Structures with fields of these names, as functions of what is given for one of them. -/
inductive Setting (names : List String) (name : String) : (Json → Json) → Prop where
  | member (before after : List (String × Json)) :
      Setting names name fun value => .ofMembers (before ++ (name, value) :: after)
  | item (before after : List Json) (inPlace : names[before.length]? = some name) :
      Setting names name fun value => .array (before ++ value :: after)

/-- Any text of a value, set between the two, is a text of the structure with that value. -/
def Frames (front back : String) (host : Json → Json) : Prop :=
  ∀ value text, value.IsWrittenAs text → (host value).IsWrittenAs (front ++ text ++ back)

/-! ## What the fields come to -/

section

variable {names : List String} {name : String} {first last : Fields}

theorem lookup_given (noEarlier : name ∉ first.map Prod.fst) (value : Json) :
    (first ++ (name, value) :: last).lookup name = some value := by
  rw [List.lookup_append, lookup_eq_none_iff.mpr noEarlier, Option.none_or, List.lookup_cons_self]

theorem lookup_other {other : String} (differs : other ≠ name) (value another : Json) :
    (first ++ (name, value) :: last).lookup other
      = (first ++ (name, another) :: last).lookup other := by
  rw [List.lookup_append, List.lookup_append, List.lookup_cons, List.lookup_cons,
    beq_false_of_ne differs]

theorem known_around (isField : name ∈ names) (before after : List (String × Json)) (value : Json) :
    known names (before ++ (name, value) :: after)
      = known names before ++ (name, value) :: known names after := by
  simp [known, isField]

/-- Which fields are given does not depend on the value, so they stay distinct. -/
theorem fields?_member (isField : name ∈ names) {before after : List (String × Json)}
    {filler : Json} (once : Once names (before ++ (name, filler) :: after)) (value : Json) :
    (ofMembers (before ++ (name, value) :: after)).fields? names
      = some (known names before ++ (name, value) :: known names after) := by
  refine fields?_ofMembers_eq_some_iff.mpr ⟨?_, known_around isField before after value⟩
  rw [once_iff_nodup, known_around isField, List.map_append, List.map_cons] at once ⊢
  exact once

theorem fields?_item {earlier later : List String} {before after : List Json}
    (same : earlier.length = before.length) (fits : after.length ≤ later.length) (value : Json) :
    (array (before ++ value :: after)).fields? (earlier ++ name :: later)
      = some (earlier.zip before ++ (name, value) :: later.zip after) := by
  have fitsAll : (before ++ value :: after).length ≤ (earlier ++ name :: later).length := by
    simp only [List.length_append, List.length_cons]
    omega
  rw [← List.zip_cons_cons, ← List.zip_append same]
  exact if_pos fitsAll

theorem exists_split_of_getElem? {place : Nat} (inPlace : names[place]? = some name) :
    ∃ earlier later, names = earlier ++ name :: later ∧ earlier.length = place := by
  obtain ⟨inside, there⟩ := List.getElem?_eq_some_iff.mp inPlace
  refine ⟨names.take place, names.drop (place + 1), ?_, List.length_take_of_le inside.le⟩
  rw [← there, List.getElem_cons_drop, List.take_append_drop]

variable {host : Json → Json}

/-- The fields are the same, in the same order, whatever is given for the one left open. -/
theorem Setting.exists_around (setting : Setting names name host) (distinct : names.Nodup)
    (isField : name ∈ names) {filler : Json} {given : Fields}
    (fields : (host filler).fields? names = some given) :
    ∃ first last : Fields, name ∉ first.map Prod.fst
      ∧ ∀ value, (host value).fields? names = some (first ++ (name, value) :: last) := by
  cases setting with
  | member before after =>
    obtain ⟨once, -⟩ := fields?_ofMembers_eq_some_iff.mp fields
    refine ⟨known names before, known names after, ?_, fields?_member isField once⟩
    -- A field that is given twice would not have been read with any value.
    rw [once_iff_nodup, known_around isField, List.map_append] at once
    intro earlier
    exact (List.nodup_append.mp once).2.2 name earlier name List.mem_cons_self rfl
  | item before after inPlace =>
    obtain ⟨earlier, later, rfl, same⟩ := exists_split_of_getElem? inPlace
    have fits : (before ++ filler :: after).length ≤ (earlier ++ name :: later).length := by
      by_contra tooMany
      cases (if_neg tooMany).symm.trans fields
    simp only [List.length_append, List.length_cons] at fits
    refine ⟨earlier.zip before, later.zip after, ?_, fields?_item same (by omega)⟩
    rw [List.map_fst_zip same.le]
    intro among
    exact (List.nodup_append.mp distinct).2.2 name among name List.mem_cons_self rfl

theorem Setting.exists_fields (setting : Setting names name host) (distinct : names.Nodup)
    (isField : name ∈ names) {filler : Json} {given : Fields}
    (fields : (host filler).fields? names = some given) (value : Json) :
    ∃ others, (host value).fields? names = some others ∧ others.lookup name = some value
      ∧ ∀ other ≠ name, others.lookup other = given.lookup other := by
  obtain ⟨first, last, noEarlier, around⟩ := setting.exists_around distinct isField fields
  obtain rfl := Option.some.inj (fields.symm.trans (around filler))
  exact ⟨_, around value, lookup_given noEarlier value, fun _ differs => lookup_other differs _ _⟩

end

/-! ## What the text is cut into -/

theorem SpelledOut.append {ts us : List Token} {cs ds : List Char} (first : SpelledOut ts cs)
    (second : SpelledOut us ds) : SpelledOut (ts ++ us) (cs ++ ds) := by
  induction first with
  | nil => exact second
  | gap isGap _ ih => exact .gap isGap ih
  | token spelled _ ih =>
    rw [List.append_assoc]
    exact .token spelled ih

theorem SpelledOut.exists_split {ts us : List Token} {cs : List Char}
    (text : SpelledOut (ts ++ us) cs) :
    ∃ front back, cs = front ++ back ∧ SpelledOut ts front ∧ SpelledOut us back := by
  -- The induction is on the text, so the tokens on both sides of the cut must be free to change.
  generalize whole : ts ++ us = all at text
  induction text generalizing ts with
  | nil =>
    obtain ⟨rfl, rfl⟩ := List.append_eq_nil_iff.mp whole
    exact ⟨[], [], rfl, .nil, .nil⟩
  | @gap _ c _ isGap _ ih =>
    obtain ⟨front, back, rfl, first, second⟩ := ih whole
    exact ⟨c :: front, back, rfl, .gap isGap first, second⟩
  | @token t later cs ds spelled rest ih =>
    cases ts with
    | nil =>
      obtain rfl : us = t :: later := whole
      exact ⟨[], cs ++ ds, rfl, .nil, .token spelled rest⟩
    | cons u ts =>
      cases whole
      obtain ⟨front, back, rfl, first, second⟩ := ih rfl
      refine ⟨cs ++ front, back, ?_, .token spelled first, second⟩
      rw [List.append_assoc]

/-- The tokens of a value stand among those of the structure. -/
def TokensAround (host : Json → Json) (before after : List Token) : Prop :=
  ∀ value, (host value).tokens = before ++ (value.tokens ++ after)

theorem exists_itemTokens (before after : List Json) :
    ∃ ts us, ∀ value : Json,
      itemTokens (before ++ value :: after) = ts ++ (value.tokens ++ us) := by
  induction before with
  | nil => exact ⟨[], _, fun value => itemTokens_cons value after⟩
  | cons first before ih =>
    obtain ⟨ts, us, tokens⟩ := ih
    -- Something follows the first item, so there is a comma after it.
    refine ⟨first.tokens ++ .comma :: ts, us, fun value => ?_⟩
    rw [List.cons_append, itemTokens, tokens, List.append_assoc, List.cons_append]
    exact List.append_ne_nil_of_right_ne_nil before (List.cons_ne_nil value after)

theorem exists_memberTokens (before after : List (Option String × Json)) (key : Option String) :
    ∃ ts us, ∀ value : Json,
      memberTokens (before ++ (key, value) :: after) = ts ++ (value.tokens ++ us) := by
  induction before with
  | nil => exact ⟨[.string key, .colon], _, fun value => memberTokens_cons (key, value) after⟩
  | cons first before ih =>
    obtain ⟨ts, us, tokens⟩ := ih
    refine ⟨.string first.1 :: .colon :: (first.2.tokens ++ .comma :: ts), us, fun value => ?_⟩
    rw [List.cons_append, memberTokens, tokens]
    · simp
    · exact List.append_ne_nil_of_right_ne_nil before (List.cons_ne_nil (key, value) after)

theorem Setting.exists_tokensAround {names : List String} {name : String} {host : Json → Json}
    (setting : Setting names name host) : ∃ before after, TokensAround host before after := by
  cases setting with
  | member before after =>
    obtain ⟨ts, us, tokens⟩ := exists_memberTokens
      (before.map fun member => (some member.1, member.2))
      (after.map fun member => (some member.1, member.2)) (some name)
    refine ⟨.openObject :: ts, us ++ [.closeObject], fun value => ?_⟩
    simp [ofMembers, Json.tokens, tokens]
  | item before after =>
    obtain ⟨ts, us, tokens⟩ := exists_itemTokens before after
    refine ⟨.openArray :: ts, us ++ [.closeArray], fun value => ?_⟩
    simp [Json.tokens, tokens]

theorem TokensAround.frames {host : Json → Json} {before after : List Token} {front back : String}
    (around : TokensAround host before after) (spelledFront : SpelledOut before front.toList)
    (spelledBack : SpelledOut after back.toList) : Frames front back host := by
  intro value text written
  rw [IsWrittenAs, around, String.toList_append, String.toList_append, List.append_assoc]
  exact spelledFront.append (written.append spelledBack)

/-- Every text of the structure has a text of the value between what frames it. -/
theorem Setting.exists_frames {names : List String} {name : String} {host : Json → Json}
    (setting : Setting names name host) {value : Json} {text : String}
    (written : (host value).IsWrittenAs text) :
    ∃ front given back, text = front ++ given ++ back ∧ value.IsWrittenAs given
      ∧ Frames front back host := by
  obtain ⟨before, after, around⟩ := setting.exists_tokensAround
  rw [IsWrittenAs, around] at written
  obtain ⟨front, rest, whole, spelledFront, spelledRest⟩ := written.exists_split
  obtain ⟨given, back, rfl, spelledGiven, spelledBack⟩ := spelledRest.exists_split
  refine ⟨.ofList front, .ofList given, .ofList back, ?_, ?_, around.frames ?_ ?_⟩
  · apply String.toList_inj.mp
    simpa using whole
  · rwa [IsWrittenAs, String.toList_ofList]
  · rwa [String.toList_ofList]
  · rwa [String.toList_ofList]

end GridRobot.Json
