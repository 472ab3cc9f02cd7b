import GridRobot.Proofs.Json.Setting
import GridRobot.Proofs.Json.WholeNumbers
import GridRobot.Proofs.Wire.Instructions
import GridRobot.Proofs.Wire.Structures
import GridRobot.Wire.Document

/-! # Integer fields are read exactly or not at all

Whatever number stands in an integer field of a structure, the field has exactly the value that the
digits of the number write, or the structure is refused: no text is rounded, wrapped or cut off to
fit (`documents_readExactly`). The rest of the structure does not matter. With another value in the
field it comes to the same but for the field (`Fills`), so reading the structure is reading the
single value. -/

namespace GridRobot

open Json (Setting Frames TokensAround ReadsRange)
open Json.Number (IsWhole numeral)

/-! ## What a structure comes to with another value in a field -/

/-- If a structure is read with some value in a field, then it is read with another one exactly if
that is read as a part, and the part takes its place in what it was read as before. -/
def Fills {α β : Type} (ofJson? : Json → Option α) (names : List String) (name : String)
    (value? : α → Option Int) (read? : Json → Option β) (put : α → β → α) : Prop :=
  ∀ host, Setting names name host → ∀ filler a, ofJson? (host filler) = some a →
    (value? a).isSome = true → ∀ j, ofJson? (host j) = (read? j).map (put a)

theorem Position.fills_x :
    Fills Position.ofJson? ["x", "y"] "x" (fun p => some p.x.val) Coordinate.ofJson?
      fun p x => { p with x } := by
  intro host setting filler p read _ j
  obtain ⟨given, fields, -, y⟩ := Position.ofJson?_eq_some.mp read
  obtain ⟨others, fields, there, same⟩ := setting.exists_fields (by decide) (by decide) fields j
  rw [← Json.Fields.required_congr (same "y" (by decide))] at y
  simp only [Position.ofJson?, fields, Json.Fields.required_of_lookup there, y,
    Option.bind_eq_bind, Option.bind_some]
  cases Coordinate.ofJson? j <;> rfl

theorem Position.fills_y :
    Fills Position.ofJson? ["x", "y"] "y" (fun p => some p.y.val) Coordinate.ofJson?
      fun p y => { p with y } := by
  intro host setting filler p read _ j
  obtain ⟨given, fields, x, -⟩ := Position.ofJson?_eq_some.mp read
  obtain ⟨others, fields, there, same⟩ := setting.exists_fields (by decide) (by decide) fields j
  rw [← Json.Fields.required_congr (same "x" (by decide))] at x
  simp only [Position.ofJson?, fields, Json.Fields.required_of_lookup there, x,
    Option.bind_eq_bind, Option.bind_some]
  cases Coordinate.ofJson? j <;> rfl

theorem Warning.fills_index :
    Fills Warning.ofJson? ["index", "character"] "index" (fun w => some w.index) Json.count?
      fun w index => { w with index } := by
  intro host setting filler w read _ j
  obtain ⟨given, fields, -, character⟩ := Warning.ofJson?_eq_some.mp read
  obtain ⟨others, fields, there, same⟩ := setting.exists_fields (by decide) (by decide) fields j
  rw [← Json.Fields.required_congr (same "character" (by decide))] at character
  simp only [Warning.ofJson?, fields, Json.Fields.required_of_lookup there, character,
    Option.bind_eq_bind, Option.bind_some]
  cases j.count? <;> rfl

theorem Config.fills_initialFuel :
    Fills Config.ofJson? ["initial_fuel", "max_boost", "record_trace"] "initial_fuel"
      (fun c => some c.initialFuel.toNat) Json.uint32?
      fun c initialFuel => { c with initialFuel } := by
  intro host setting filler c read _ j
  obtain ⟨given, fields, -, boost, trace⟩ := Config.ofJson?_eq_some.mp read
  obtain ⟨others, fields, there, same⟩ := setting.exists_fields (by decide) (by decide) fields j
  rw [← Json.Fields.defaulted_congr (same "max_boost" (by decide))] at boost
  rw [← Json.Fields.defaulted_congr (same "record_trace" (by decide))] at trace
  simp only [Config.ofJson?, fields, Json.Fields.defaulted_of_lookup there, boost, trace,
    Option.bind_eq_bind, Option.bind_some]
  cases j.uint32? <;> rfl

theorem Config.fills_maxBoost :
    Fills Config.ofJson? ["initial_fuel", "max_boost", "record_trace"] "max_boost"
      (fun c => some c.maxBoost.toNat) Json.uint32?
      fun c maxBoost => { c with maxBoost } := by
  intro host setting filler c read _ j
  obtain ⟨given, fields, fuel, -, trace⟩ := Config.ofJson?_eq_some.mp read
  obtain ⟨others, fields, there, same⟩ := setting.exists_fields (by decide) (by decide) fields j
  rw [← Json.Fields.defaulted_congr (same "initial_fuel" (by decide))] at fuel
  rw [← Json.Fields.defaulted_congr (same "record_trace" (by decide))] at trace
  simp only [Config.ofJson?, fields, Json.Fields.defaulted_of_lookup there, fuel, trace,
    Option.bind_eq_bind, Option.bind_some]
  cases j.uint32? <;> rfl

namespace Instruction

/-- By how much a boost boosts. -/
def boostValue? : Instruction → Option Int
  | boost value => some value.toNat
  | _ => none

theorem exists_of_boostValue? {i : Instruction} (isBoost : i.boostValue?.isSome = true) :
    ∃ value, i = boost value := by
  cases i with
  | boost value => exact ⟨value, rfl⟩
  | forward | backward | left | right | unknown => cases isBoost

theorem sole_of_ofMembers?_eq_boost {tag : String} {members : Json.Fields} {value : UInt8}
    (read : ofMembers? tag members = some (boost value)) :
    tag = "BOOST" ∧ ∃ given, sole? "value" members = some given := by
  unfold ofMembers? at read
  split at read
  case h_1 | h_2 | h_3 | h_4 | h_7 => cases read
  case h_5 =>
    obtain ⟨given, sole, -⟩ := Option.bind_eq_some_iff.mp read
    exact ⟨rfl, given, sole⟩
  case h_6 =>
    obtain ⟨_, -, character⟩ := Option.bind_eq_some_iff.mp read
    obtain ⟨_, -, other⟩ := Option.map_eq_some_iff.mp character
    cases other

theorem of_ofItems?_eq_boost {tag : String} {items : List Json} {value : UInt8}
    (read : ofItems? tag items = some (boost value)) :
    tag = "BOOST" ∧ ∃ given, items = [given] := by
  unfold ofItems? at read
  split at read
  case h_1 | h_2 | h_3 | h_4 | h_7 => cases read
  case h_5 given => exact ⟨rfl, given, rfl⟩
  case h_6 =>
    obtain ⟨_, -, other⟩ := Option.map_eq_some_iff.mp read
    cases other

section

variable {name : String} {before after : Json.Fields}

/-- A member that is the only one of its name is so with any value. -/
theorem sole?_around {filler given : Json}
    (sole : sole? name (before ++ (name, filler) :: after) = some given) (value : Json) :
    sole? name (before ++ (name, value) :: after) = some value := by
  simp only [sole?_eq_some_iff, List.filter_append, List.filter_cons, beq_self_eq_true,
    if_true] at sole ⊢
  have alone := List.append_eq_singleton_iff.mp sole
  simp only [List.cons.injEq, reduceCtorEq, and_false, or_false] at alone
  rw [alone.1, alone.2.2, List.nil_append]

theorem sole?_around_other {other : String} (differs : name ≠ other) (value another : Json) :
    sole? other (before ++ (name, value) :: after)
      = sole? other (before ++ (name, another) :: after) := by
  simp only [sole?, List.filter_append, List.filter_cons, beq_false_of_ne differs,
    Bool.false_eq_true, if_false]

/-- Whatever value is given for a boost, the rest of the object stays fit for one. -/
theorem ofJson?_boost_member {room : Nat} {filler : Json} {value : UInt8}
    (read : Instruction.ofJson? room (.ofMembers (before ++ ("value", filler) :: after))
      = some (boost value)) (j : Json) :
    Instruction.ofJson? room (.ofMembers (before ++ ("value", j) :: after))
      = j.uint8?.map boost := by
  obtain ⟨tag, tagged, held, read⟩ := ofJson?_ofMembers_eq_some_iff.mp read
  obtain ⟨rfl, given, sole⟩ := sole_of_ofMembers?_eq_boost read
  -- The tag is found past the value, and the value among what is left without the tag.
  have noTag : ("value" != "op") = true := rfl
  simp only [List.filter_append, List.filter_cons, noTag, if_true] at sole
  rw [sole?_around_other (by decide) filler j] at tagged
  have others : ofMembers? "BOOST"
      ((before ++ ("value", j) :: after).filter fun member => member.1 != "op")
        = j.uint8?.map boost := by
    simp only [ofMembers?, List.filter_append, List.filter_cons, noTag, if_true]
    rw [sole?_around sole j, Option.bind_some]
  apply Option.ext
  intro i
  rw [ofJson?_ofMembers_eq_some_iff, ← others]
  constructor
  · rintro ⟨tag, sole, -, read⟩
    obtain ⟨⟨⟩⟩ := Option.some.inj (tagged.symm.trans sole)
    exact read
  · intro read
    refine ⟨"BOOST", tagged, ?_, read⟩
    rw [others] at read
    obtain ⟨word, accepted, rfl⟩ := Option.map_eq_some_iff.mp read
    -- What is given must also be held until the tag is known: a small number always can be.
    obtain ⟨rfl, -⟩ := (Json.readsRange_uint8? j word.toNat).mp (by rw [accepted, Option.map_some])
    have small : word.toNat < UInt32.size := Nat.lt_trans word.toNat_lt (by decide)
    rw [List.forall_mem_append, List.forall_mem_cons] at held ⊢
    exact ⟨held.1, fun _ => Json.isHoldable_ofNat small (room - 1), held.2.2⟩

end

theorem ofJson?_boost_item {room : Nat} {before after : List Json}
    (inPlace : ["op", "value"][before.length]? = some "value") {filler : Json} {value : UInt8}
    (read : Instruction.ofJson? room (.array (before ++ filler :: after)) = some (boost value))
    (j : Json) :
    Instruction.ofJson? room (.array (before ++ j :: after)) = j.uint8?.map boost := by
  -- Exactly the tag comes before the value.
  match before with
  | [] => exact absurd inPlace (by decide)
  | _ :: _ :: _ => cases inPlace
  | [.string (some tag)] =>
    obtain ⟨rfl, given, only⟩ := of_ofItems?_eq_boost read
    obtain ⟨-, rfl⟩ := List.cons_eq_cons.mp only
    rfl
  | [.string none] | [.null] | [.bool _] | [.number _] | [.array _] | [.object _] => cases read

theorem fills_value (room : Nat) :
    Fills (Instruction.ofJson? room) ["op", "value"] "value" boostValue? Json.uint8?
      fun _ value => boost value := by
  intro host setting filler i read isBoost j
  obtain ⟨value, rfl⟩ := exists_of_boostValue? isBoost
  cases setting with
  | member => exact ofJson?_boost_member read j
  | item _ _ inPlace => exact ofJson?_boost_item inPlace read j

end Instruction

/-! ## Documents -/

theorem Coordinate.readsRange_ofJson? :
    ReadsRange Coordinate.ofJson? Coordinate.val leastCoordinate greatestCoordinate := by
  intro j z
  simp only [Coordinate.ofJson?, Coordinate.ofInt?, Option.map_eq_some_iff,
    Option.bind_eq_some_iff, Json.integer?_eq_some_iff]
  constructor
  · rintro ⟨c, ⟨z, rfl, inRange⟩, rfl⟩
    split at inRange
    next range =>
      cases inRange
      exact ⟨rfl, range⟩
    next => cases inRange
  · rintro ⟨rfl, range⟩
    exact ⟨⟨z, range.1, range.2⟩, ⟨z, rfl, dif_pos range⟩, rfl⟩

namespace Document

/-- What stands before and after the value of a field, in a text that is read with some value
there. -/
def Surrounds (α : Type) [Document α] (names : List String) (name : String)
    (value? : α → Option Int) (front back : String) : Prop :=
  ∃ host, Setting names name host ∧ Frames front back host
    ∧ ∃ filler a, ofJson? (host filler) = some a ∧ (value? a).isSome = true

/-- A number in the field is read if it is written as a whole number in the range, and as nothing
but that whole number. -/
structure ReadsExactly (α : Type) [Document α] (names : List String) (name : String)
    (value? : α → Option Int) (least greatest : Int) : Prop where
  read_iff : ∀ front back, Surrounds α names name value? front back →
    ∀ (n : Json.Number) (t : String), n.Spelled t.toList →
      ((parse? α (front ++ t ++ back)).isSome = true
        ↔ IsWhole t.toList ∧ least ≤ numeral t.toList ∧ numeral t.toList ≤ greatest)
  exact : ∀ front back, Surrounds α names name value? front back →
    ∀ (n : Json.Number) (t : String), n.Spelled t.toList →
      ∀ a, parse? α (front ++ t ++ back) = some a → value? a = some (numeral t.toList)

theorem isWrittenAs_number {n : Json.Number} {t : String} (spelled : n.Spelled t.toList) :
    (Json.number n).IsWrittenAs t := by
  have alone := Json.SpelledOut.token (.number spelled) .nil
  rwa [List.append_nil] at alone

section

variable {α β : Type} [Document α] {names : List String} {name : String} {value? : α → Option Int}
  {read? : Json → Option β} {put : α → β → α}

/-- With a number in the field, the text is read as far as the number is. -/
theorem exists_parse?_eq (fills : Fills ofJson? names name value? read? put) {front back : String}
    (around : Surrounds α names name value? front back) {n : Json.Number} {t : String}
    (spelled : n.Spelled t.toList) :
    ∃ a, parse? α (front ++ t ++ back) = (read? (.number n)).map (put a) := by
  obtain ⟨host, setting, frames, filler, a, read, hasField⟩ := around
  have written := Json.parse?_eq_some_iff.mpr (frames _ t (isWrittenAs_number spelled))
  refine ⟨a, ?_⟩
  rw [parse?, written, Option.bind_some, fills host setting filler a read hasField]

theorem readsExactly {value : β → Int} {least greatest : Int}
    (fills : Fills ofJson? names name value? read? put)
    (range : ReadsRange read? value least greatest)
    (holds : ∀ a b, value? (put a b) = some (value b)) :
    ReadsExactly α names name value? least greatest where
  read_iff front back around n t spelled := by
    obtain ⟨a, parsed⟩ := exists_parse?_eq fills around spelled
    rw [parsed, Option.isSome_map, range.isSome_number_iff spelled]
  exact front back around n t spelled a read := by
    obtain ⟨rest, parsed⟩ := exists_parse?_eq fills around spelled
    rw [parsed] at read
    obtain ⟨b, accepted, rfl⟩ := Option.map_eq_some_iff.mp read
    rw [holds, range.value_of_number spelled accepted]

end

end Document

open Document (ReadsExactly)

/-- **Integer fields.** A number in an integer field is read if it has no fraction, no exponent, is
not minus zero and is in the range of the field, and what is read is that number; with any other
number in the field the text is refused. -/
theorem documents_readExactly :
    ReadsExactly Position ["x", "y"] "x" (fun p => some p.x.val)
        (-9223372036854775808) 9223372036854775807
      ∧ ReadsExactly Position ["x", "y"] "y" (fun p => some p.y.val)
        (-9223372036854775808) 9223372036854775807
      ∧ ReadsExactly Config ["initial_fuel", "max_boost", "record_trace"] "initial_fuel"
        (fun c => some c.initialFuel.toNat) 0 4294967295
      ∧ ReadsExactly Config ["initial_fuel", "max_boost", "record_trace"] "max_boost"
        (fun c => some c.maxBoost.toNat) 0 4294967295
      ∧ ReadsExactly Warning ["index", "character"] "index" (fun w => some w.index)
        0 18446744073709551615
      ∧ ReadsExactly Instruction ["op", "value"] "value" Instruction.boostValue? 0 255 := by
  refine ⟨?_, ?_, ?_, ?_, ?_, ?_⟩
  · exact Document.readsExactly Position.fills_x Coordinate.readsRange_ofJson? fun _ _ => rfl
  · exact Document.readsExactly Position.fills_y Coordinate.readsRange_ofJson? fun _ _ => rfl
  · exact Document.readsExactly Config.fills_initialFuel Json.readsRange_uint32? fun _ _ => rfl
  · exact Document.readsExactly Config.fills_maxBoost Json.readsRange_uint32? fun _ _ => rfl
  · exact Document.readsExactly Warning.fills_index Json.readsRange_count? fun _ _ => rfl
  · exact Document.readsExactly (Instruction.fills_value _) Json.readsRange_uint8? fun _ _ => rfl

/-- The least coordinate is read, and the number after the greatest is refused. -/
theorem documents_readExactly_limits :
    let front := "\x7b\"x\": "
    let back := ", \"y\" :0\x7d"
    Document.Surrounds Position ["x", "y"] "x" (fun p => some p.x.val) front back
      ∧ (Document.parse? Position (front ++ "-9223372036854775808" ++ back)).map (·.x.val)
        = some (-9223372036854775808)
      ∧ Document.parse? Position (front ++ "9223372036854775808" ++ back) = none := by
  intro front back
  have opened : Json.SpelledOut [.openObject, .string "x", .colon] front.toList := by
    subst front
    exact Json.spelledOut_of_tokens? rfl
  have closed : Json.SpelledOut
      [.comma, .string "y", .colon, .number (.ofInt 0), .closeObject] back.toList := by
    subst back
    exact Json.spelledOut_of_tokens? rfl
  have frames : Frames front back fun value =>
      .ofMembers ([] ++ ("x", value) :: [("y", .ofInt 0)]) := by
    refine TokensAround.frames (fun value => ?_) opened closed
    simp [Json.ofMembers, Json.tokens, Json.memberTokens, Json.ofInt]
  have around : Document.Surrounds Position ["x", "y"] "x" (fun p => some p.x.val) front back :=
    ⟨_, .member [] _, frames, .ofInt 0, ⟨.zero, .zero⟩, rfl, rfl⟩
  have least : (Json.Number.ofInt (-9223372036854775808)).Spelled "-9223372036854775808".toList :=
    Json.Number.ofChars?_eq_some_iff.mp rfl
  have beyond : (Json.Number.ofInt 9223372036854775808).Spelled "9223372036854775808".toList :=
    Json.Number.ofChars?_eq_some_iff.mp rfl
  have whole : IsWhole "-9223372036854775808".toList :=
    ⟨by decide, ⟨by decide, by decide⟩, by decide⟩
  obtain ⟨x, -⟩ := documents_readExactly
  refine ⟨around, ?_, ?_⟩
  · have accepted := (x.read_iff front back around _ _ least).mpr ⟨whole, by decide, by decide⟩
    obtain ⟨p, read⟩ := Option.isSome_iff_exists.mp accepted
    rw [read, Option.map_some]
    exact x.exact front back around _ _ least p read
  · rw [← Option.not_isSome_iff_eq_none, x.read_iff front back around _ _ beyond]
    rintro ⟨-, -, inRange⟩
    exact absurd inRange (by decide)

end GridRobot
