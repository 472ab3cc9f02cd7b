import GridRobot.Proofs.CommandLine.Gates
import GridRobot.Proofs.Json.Fields
import GridRobot.Proofs.Json.Printing

/-! # Configurations as overlays

A configuration that is read from an object is the default one, with the members of the object over
it: `parse_overlay`. Only what a field is given counts, so the order of the members and the members
that are no field make no difference (`ofJson?_of_perm`), and neither do the gaps of the text, for
texts of one value have one answer (`parse_of_isWrittenAs`). An object gives no configuration only
if a field is given twice or is given a value that is not of its type. -/

namespace GridRobot

namespace Config

open Json (Once Settles known)

/-! ## Objects -/

def fieldNames : List String :=
  ["initial_fuel", "max_boost", "record_trace"]

/-- The default configuration with the members of an object over it. -/
structure IsOverlay (members : List (String × Json)) (config : Config) : Prop where
  initialFuel : Settles members "initial_fuel" Json.ofUInt32 defaultFuel config.initialFuel
  maxBoost : Settles members "max_boost" Json.ofUInt32 defaultMaxBoost config.maxBoost
  recordTrace : Settles members "record_trace" Json.bool false config.recordTrace

/-- No field is given twice, and what a field is given is of its type. -/
structure Readable (members : List (String × Json)) : Prop where
  once : Once fieldNames members
  initialFuel : ∀ given, ("initial_fuel", given) ∈ members → ∃ n, given = Json.ofUInt32 n
  maxBoost : ∀ given, ("max_boost", given) ∈ members → ∃ n, given = Json.ofUInt32 n
  recordTrace : ∀ given, ("record_trace", given) ∈ members → ∃ b, given = Json.bool b

section

variable {members others : List (String × Json)} {config : Config}

theorem ofJson?_ofMembers_eq_some_iff : ofJson? (Json.ofMembers members) = some config
    ↔ Once fieldNames members ∧ IsOverlay members config := by
  rw [ofJson?_eq_some]
  constructor
  · rintro ⟨fields, given, fuel, boost, trace⟩
    obtain ⟨once, rfl⟩ := Json.fields?_ofMembers_eq_some_iff.mp given
    refine ⟨once, ?_, ?_, ?_⟩
    · exact (Json.defaulted_known_eq_some_iff once (by decide) Json.uint32?_eq_some_iff).mp fuel
    · exact (Json.defaulted_known_eq_some_iff once (by decide) Json.uint32?_eq_some_iff).mp boost
    · exact (Json.defaulted_known_eq_some_iff once (by decide) Json.bool?_eq_some_iff).mp trace
  · rintro ⟨once, fuel, boost, trace⟩
    refine ⟨known fieldNames members, Json.fields?_ofMembers_eq_some_iff.mpr ⟨once, rfl⟩, ?_, ?_, ?_⟩
    · exact (Json.defaulted_known_eq_some_iff once (by decide) Json.uint32?_eq_some_iff).mpr fuel
    · exact (Json.defaulted_known_eq_some_iff once (by decide) Json.uint32?_eq_some_iff).mpr boost
    · exact (Json.defaulted_known_eq_some_iff once (by decide) Json.bool?_eq_some_iff).mpr trace

theorem isOverlay_of_perm (same : (known fieldNames members).Perm (known fieldNames others))
    (overlay : IsOverlay members config) : IsOverlay others config where
  initialFuel := Json.settles_of_perm (by decide) same overlay.initialFuel
  maxBoost := Json.settles_of_perm (by decide) same overlay.maxBoost
  recordTrace := Json.settles_of_perm (by decide) same overlay.recordTrace

theorem ofJson?_of_perm (same : (known fieldNames members).Perm (known fieldNames others)) :
    ofJson? (Json.ofMembers others) = ofJson? (Json.ofMembers members) := by
  apply Option.ext
  intro config
  rw [ofJson?_ofMembers_eq_some_iff, ofJson?_ofMembers_eq_some_iff]
  constructor
  · rintro ⟨once, overlay⟩
    exact ⟨Json.once_of_perm same.symm once, isOverlay_of_perm same.symm overlay⟩
  · rintro ⟨once, overlay⟩
    exact ⟨Json.once_of_perm same once, isOverlay_of_perm same overlay⟩

/-- Two configurations over which an object lies are the same. -/
theorem IsOverlay.unique {other : Config} (once : Once fieldNames members)
    (overlay : IsOverlay members config) (second : IsOverlay members other) : other = config :=
  Option.some.inj ((ofJson?_ofMembers_eq_some_iff.mpr ⟨once, second⟩).symm.trans
    (ofJson?_ofMembers_eq_some_iff.mpr ⟨once, overlay⟩))

theorem Readable.exists_isOverlay (readable : Readable members) :
    ∃ config, IsOverlay members config := by
  obtain ⟨initialFuel, fuel⟩ := Json.exists_settles readable.initialFuel defaultFuel
  obtain ⟨maxBoost, boost⟩ := Json.exists_settles readable.maxBoost defaultMaxBoost
  obtain ⟨recordTrace, trace⟩ := Json.exists_settles readable.recordTrace false
  exact ⟨⟨initialFuel, maxBoost, recordTrace⟩, fuel, boost, trace⟩

theorem readable_of_isOverlay (once : Once fieldNames members)
    (overlay : IsOverlay members config) : Readable members where
  once := once
  initialFuel := Json.ofType_of_settles once (by decide) overlay.initialFuel
  maxBoost := Json.ofType_of_settles once (by decide) overlay.maxBoost
  recordTrace := Json.ofType_of_settles once (by decide) overlay.recordTrace

end

/-! ## Texts -/

/-- The answer to a text that gives no configuration. -/
def refused : Except Fault Config :=
  .error
    { kind := .serializationFailed
      message := "robot config is not valid JSON"
      operation := "config::from_json"
      cause := some .unreadable }

/-- The answer to a text that gives a configuration. -/
def checked (config : Config) : Except Fault Config :=
  if config.maxBoost ≤ 9 then .ok config
  else
    .error
      { kind := .configInvalid
        message := "max_boost " ++ config.maxBoost.toNat.repr
          ++ " can never be reached by a single digit (max 9)"
        operation := "config::validate"
        context := [("field", "max_boost")] }

theorem parse_eq (text : String) :
    parse text = ((Json.parse? text).bind ofJson?).elim refused checked := by
  cases read : Document.parse? Config text with
  | none =>
    have nothing : (Json.parse? text).bind ofJson? = none := read
    rw [parse_of_none read, nothing]
    rfl
  | some config =>
    have given : (Json.parse? text).bind ofJson? = some config := read
    rw [given, Option.elim_some, checked]
    by_cases allowed : config.maxBoost ≤ 9
    · rw [parse_of_le read allowed, if_pos allowed]
    · rw [parse_of_lt read (UInt32.not_le.mp allowed), if_neg allowed, unreachableBoost_eq]

theorem parse_of_isWrittenAs {j : Json} {text : String} (written : j.IsWrittenAs text) :
    parse text = (ofJson? j).elim refused checked := by
  rw [parse_eq, Json.parse?_eq_some_iff.mpr written, Option.bind_some]

/-- No value of another form gives a configuration. -/
theorem ofJson?_eq_none {j : Json} (noObject : ∀ members, j ≠ .object members)
    (tooMany : ∀ items, j = .array items → 3 < items.length) : ofJson? j = none := by
  cases j with
  | object members => exact absurd rfl (noObject members)
  | array items =>
    have beyond : ¬ items.length ≤ 3 := Nat.not_le.mpr (tooMany items rfl)
    have nothing : (Json.array items).fields? fieldNames = none := if_neg beyond
    exact congrArg (Option.bind · _) nothing
  | null | bool _ | number _ | string _ => rfl

/-- **A configuration is an overlay.** An object gives the default configuration with its members
over it, if no field is given twice and each is given a value of its type; what it gives is then
checked. Any other object is refused, and so are texts that are not JSON and values of another form,
an array of a few items apart, which may give the fields in order. Texts whose fields are given the
same values, in any order and however they are written, have the same answer. -/
theorem parse_overlay (text : String) :
    (∀ members, (Json.ofMembers members).IsWrittenAs text →
      (Readable members → ∃ config, IsOverlay members config
          ∧ (∀ other, IsOverlay members other → other = config) ∧ parse text = checked config)
        ∧ (¬ Readable members → parse text = refused))
      ∧ (¬ Json.WellFormed text → parse text = refused)
      ∧ (∀ j : Json, j.IsWrittenAs text → (∀ members, j ≠ .object members) →
          (∀ items, j = .array items → 3 < items.length) → parse text = refused)
      ∧ ∀ members others other, (Json.ofMembers members).IsWrittenAs text →
          (Json.ofMembers others).IsWrittenAs other →
          (known fieldNames members).Perm (known fieldNames others) → parse other = parse text := by
  refine ⟨fun members written => ⟨fun readable => ?_, fun unreadable => ?_⟩, fun illFormed => ?_,
    fun j written noObject tooMany => ?_, fun members others other written rewritten same => ?_⟩
  · obtain ⟨config, overlay⟩ := readable.exists_isOverlay
    refine ⟨config, overlay, fun _ => overlay.unique readable.once, ?_⟩
    rw [parse_of_isWrittenAs written,
      ofJson?_ofMembers_eq_some_iff.mpr ⟨readable.once, overlay⟩, Option.elim_some]
  · rw [parse_of_isWrittenAs written]
    cases read : ofJson? (Json.ofMembers members) with
    | none => rfl
    | some config =>
      obtain ⟨once, overlay⟩ := ofJson?_ofMembers_eq_some_iff.mp read
      exact absurd (readable_of_isOverlay once overlay) unreadable
  · rw [parse_eq, Json.parse?_eq_none_iff.mpr illFormed, Option.bind_none, Option.elim_none]
  · rw [parse_of_isWrittenAs written, ofJson?_eq_none noObject tooMany, Option.elim_none]
  · rw [parse_of_isWrittenAs written, parse_of_isWrittenAs rewritten, ofJson?_of_perm same]

/-- A key may be written with escapes, and what lies within a member that is no field does not
count. -/
theorem parse_overlay_escapedKey :
    let text := "\x7b\"hull\": [\x7b\"max_boost\": -1e3\x7d, null],\n\t\"max\\u005fboost\" : 9 \x7d"
    let hull := Json.array [.ofMembers [("max_boost", .number ⟨true, 1, [], some 3⟩)], .null]
    let members := [("hull", hull), ("max_boost", .ofUInt32 9)]
    (Json.ofMembers members).IsWrittenAs text ∧ Readable members
      ∧ parse text = .ok { maxBoost := 9 } := by
  intro text hull members
  have read : Json.parse? text = some (.ofMembers members) := by
    subst text
    rfl
  have written := Json.parse?_eq_some_iff.mp read
  have overlay : IsOverlay members { maxBoost := 9 } :=
    ⟨.inr ⟨by decide, rfl⟩, .inl (by simp [members]), .inr ⟨by decide, rfl⟩⟩
  have once : Once fieldNames members := by
    intro name isField
    revert name
    decide
  have readable := readable_of_isOverlay once overlay
  obtain ⟨config, -, unique, parsed⟩ := ((parse_overlay text).1 members written).1 readable
  obtain rfl := unique _ overlay
  exact ⟨written, readable, parsed⟩

end Config
end GridRobot
