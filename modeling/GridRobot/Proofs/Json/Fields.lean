import GridRobot.Json.Fields
import GridRobot.Json.Holdable
import GridRobot.Proofs.Json.Number
import GridRobot.Wire.Write
import Mathlib.Data.List.Nodup

/-! # Reading the fields of an object

The fields of an object are its members that are known, if none of them is given twice
(`fields?_ofMembers_eq_some_iff`). What each single value needs comes after, then what a field with
a default comes to (`defaulted_known_eq_some_iff`), and last what accepted values are known to
satisfy. -/

namespace GridRobot.Json

/-! ## Members of an object -/

/-- Items that are each read back are read back as a list. -/
theorem mapM_map_of_read {α β : Type} {read? : β → Option α} {write : α → β} {as : List α}
    (read : ∀ a ∈ as, read? (write a) = some a) : (as.map write).mapM read? = some as := by
  induction as with
  | nil => rfl
  | cons a as ih =>
    have later := ih fun next member => read next (List.mem_cons_of_mem a member)
    rw [List.map_cons, List.mapM_cons, read a List.mem_cons_self, later]
    rfl

theorem namedMembers?_map (members : List (String × Json)) :
    namedMembers? (members.map fun member => (some member.1, member.2)) = some members :=
  mapM_map_of_read fun _ _ => rfl

/-- The members that are fields. -/
def known (names : List String) (members : List (String × Json)) : List (String × Json) :=
  members.filter fun member => names.contains member.1

/-- No field is given twice. -/
def Once (names : List String) (members : List (String × Json)) : Prop :=
  ∀ name ∈ names, (members.map Prod.fst).count name ≤ 1

/-- What a field comes to: what the member of its name writes, or the default if there is none. -/
def Settles {α : Type} (members : List (String × Json)) (name : String) (write : α → Json)
    (default value : α) : Prop :=
  (name, write value) ∈ members ∨ (name ∉ members.map Prod.fst ∧ value = default)

section

variable {names : List String} {members : List (String × Json)} {name : String}

theorem mem_known_iff (isField : name ∈ names) {value : Json} :
    (name, value) ∈ known names members ↔ (name, value) ∈ members := by
  rw [known, List.mem_filter]
  exact and_iff_left (List.contains_iff_mem.mpr isField)

theorem keys_known : (known names members).map Prod.fst
    = (members.map Prod.fst).filter fun key => names.contains key := by
  rw [List.filter_map]
  rfl

theorem once_iff_nodup : Once names members ↔ ((known names members).map Prod.fst).Nodup := by
  rw [List.nodup_iff_count_le_one, keys_known]
  constructor
  · intro once key
    by_cases isField : key ∈ names
    · rw [List.count_filter (List.contains_iff_mem.mpr isField)]
      exact once key isField
    -- A key that is no field does not stand among the known members at all.
    · have absent : key ∉ (members.map Prod.fst).filter fun key => names.contains key :=
        fun member => isField (List.contains_iff_mem.mp (List.mem_filter.mp member).2)
      rw [List.count_eq_zero_of_not_mem absent]
      exact Nat.zero_le 1
  · intro once key isField
    rw [← List.count_filter (List.contains_iff_mem.mpr isField)]
    exact once key

theorem fields?_ofMembers_eq_some_iff {fields : Fields} :
    (ofMembers members).fields? names = some fields
      ↔ Once names members ∧ known names members = fields := by
  change (namedMembers? (members.map fun member => (some member.1, member.2))).bind _ = _ ↔ _
  rw [namedMembers?_map, Option.bind_some, once_iff_nodup]
  change (if ((known names members).map Prod.fst).Nodup then some (known names members) else none)
    = some fields ↔ _
  rw [Option.ite_none_right_eq_some, Option.some.injEq]

end

namespace Fields

variable {α : Type} {fields : Fields} {name : String} {read? : Json → Option α}

theorem required_of_lookup {value : Json} (found : fields.lookup name = some value) :
    fields.required name read? = read? value := by
  rw [required, found, Option.bind_some]

theorem defaulted_of_lookup {default : α} {value : Json}
    (found : fields.lookup name = some value) :
    fields.defaulted name default read? = read? value := by
  rw [defaulted, found]

section

variable {others : Fields} (same : fields.lookup name = others.lookup name)

include same

/-- A field depends on nothing but what is found under its name. -/
theorem required_congr : fields.required name read? = others.required name read? := by
  rw [required, required, same]

theorem defaulted_congr {default : α} :
    fields.defaulted name default read? = others.defaulted name default read? := by
  rw [defaulted, defaulted, same]

end

end Fields

/-! ## Single values -/

theorem integer?_ofInt (z : Int) : (ofInt z).integer? = some z :=
  Number.integer?_ofInt z

theorem naturalBelow?_ofNat {bound n : Nat} (below : n < bound) :
    (ofNat n).naturalBelow? bound = some n := by
  have inRange : (0 : Int) ≤ n ∧ (n : Int) < bound := by omega
  rw [naturalBelow?, ofNat, integer?_ofInt, Option.bind_eq_bind, Option.bind_some, if_pos inRange,
    Int.toNat_natCast]

theorem uint8?_ofNat (value : UInt8) : (ofNat value.toNat).uint8? = some value := by
  rw [uint8?, naturalBelow?_ofNat value.toNat_lt, Option.map_some]
  exact congrArg some UInt8.ofNat_toNat

theorem uint32?_ofUInt32 (value : UInt32) : (ofUInt32 value).uint32? = some value := by
  rw [uint32?, ofUInt32, naturalBelow?_ofNat value.toNat_lt, Option.map_some]
  exact congrArg some UInt32.ofNat_toNat

theorem count?_ofNat {n : Nat} (fits : n < UInt64.size) : (ofNat n).count? = some n :=
  naturalBelow?_ofNat fits

theorem char?_ofChar (c : Char) : (ofChar c).char? = some c := by
  simp [ofChar, ofString, char?]

/-! ## What fields come to -/

section

variable {names : List String} {members : List (String × Json)} {name : String}

theorem lookup_eq_some_iff {fields : Fields} (once : (fields.map Prod.fst).Nodup) {value : Json} :
    fields.lookup name = some value ↔ (name, value) ∈ fields := by
  induction fields with
  | nil => simp
  | cons field fields ih =>
    obtain ⟨key, given⟩ := field
    rw [List.map_cons, List.nodup_cons] at once
    by_cases same : name = key
    -- The first member of a name hides later ones, of which there are none.
    · subst same
      have later : (name, value) ∉ fields := fun among => once.1 (List.mem_map.mpr ⟨_, among, rfl⟩)
      rw [List.lookup_cons_self, List.mem_cons, Option.some.injEq, Prod.mk.injEq]
      simp [later, eq_comm]
    · have other : (name == key) = false := beq_false_of_ne same
      rw [List.lookup_cons, other, List.mem_cons, Prod.mk.injEq]
      simpa [same] using ih once.2

theorem lookup_eq_none_iff {fields : Fields} :
    fields.lookup name = none ↔ name ∉ fields.map Prod.fst := by
  rw [List.lookup_eq_none_iff, List.mem_map]
  constructor
  · rintro absent ⟨field, among, rfl⟩
    simpa using absent field among
  · rintro absent field among
    rw [bne_iff_ne]
    rintro rfl
    exact absent ⟨field, among, rfl⟩

variable {α : Type} {read? : Json → Option α} {write : α → Json} {default value : α}

theorem settles_known_iff (isField : name ∈ names) :
    Settles (known names members) name write default value
      ↔ Settles members name write default value := by
  have key : name ∈ (known names members).map Prod.fst ↔ name ∈ members.map Prod.fst := by
    rw [keys_known, List.mem_filter]
    exact and_iff_left (List.contains_iff_mem.mpr isField)
  rw [Settles, Settles, mem_known_iff isField, key]

/-- The reader of a field reads what the field comes to. -/
theorem defaulted_known_eq_some_iff (once : Once names members) (isField : name ∈ names)
    (exact : ∀ {j a}, read? j = some a ↔ j = write a) :
    Fields.defaulted (known names members) name default read? = some value
      ↔ Settles members name write default value := by
  rw [← settles_known_iff isField, Fields.defaulted, Settles, ← lookup_eq_none_iff,
    ← lookup_eq_some_iff (once_iff_nodup.mp once)]
  cases found : (known names members).lookup name with
  | none => simp [eq_comm]
  | some given => simp [exact]

/-- Only the members that are fields count, in any order. -/
theorem settles_of_perm {others : List (String × Json)} (isField : name ∈ names)
    (same : (known names members).Perm (known names others))
    (settles : Settles members name write default value) :
    Settles others name write default value := by
  rw [← settles_known_iff isField] at settles ⊢
  rwa [Settles, ← same.mem_iff, ← (same.map Prod.fst).mem_iff]

theorem once_of_perm {others : List (String × Json)}
    (same : (known names members).Perm (known names others)) (once : Once names members) :
    Once names others := by
  rw [once_iff_nodup] at once ⊢
  exact (same.map Prod.fst).nodup_iff.mp once

theorem ofType_of_settles (once : Once names members) (isField : name ∈ names)
    (settles : Settles members name write default value) (given : Json)
    (among : (name, given) ∈ members) : ∃ a, given = write a := by
  rcases settles with written | ⟨absent, -⟩
  · refine ⟨value, ?_⟩
    rw [← mem_known_iff isField, ← lookup_eq_some_iff (once_iff_nodup.mp once)] at among written
    exact Option.some.inj (among.symm.trans written)
  · exact absurd (List.mem_map.mpr ⟨_, among, rfl⟩) absent

/-- A field comes to something if all that it is given is of its type. -/
theorem exists_settles (ofType : ∀ given, (name, given) ∈ members → ∃ a, given = write a)
    (default : α) : ∃ value, Settles members name write default value := by
  by_cases isGiven : name ∈ members.map Prod.fst
  · obtain ⟨⟨key, given⟩, among, rfl⟩ := List.mem_map.mp isGiven
    obtain ⟨value, rfl⟩ := ofType given among
    exact ⟨value, .inl among⟩
  · exact ⟨default, .inr ⟨isGiven, rfl⟩⟩

end

/-! ## Values that are held -/

theorem isHoldable_ofNat {n : Nat} (small : n < UInt32.size) (room : Nat) :
    (ofNat n).isHoldable room = true := by
  change (!(Number.ofInt n).exceedsDouble) = true
  rw [Number.exceedsDouble_ofInt small]
  rfl

theorem isHoldable_ofString (s : String) (room : Nat) : (ofString s).isHoldable room = true := by
  simp only [ofString, isHoldable, Option.isSome_some]

/-! ## What accepted values satisfy -/

theorem integer?_eq_some_iff {j : Json} {z : Int} : j.integer? = some z ↔ j = ofInt z := by
  constructor
  · intro read
    cases j with
    | number n => rw [ofInt, Number.integer?_eq_some_iff.mp read]
    | null | bool _ | string _ | array _ | object _ => cases read
  · rintro rfl
    exact integer?_ofInt z

theorem naturalBelow?_eq_some_iff {bound n : Nat} {j : Json} :
    j.naturalBelow? bound = some n ↔ n < bound ∧ j = ofNat n := by
  constructor
  · intro read
    obtain ⟨z, integer, accepted⟩ := Option.bind_eq_some_iff.mp read
    split at accepted
    next inRange =>
      cases accepted
      refine ⟨by omega, ?_⟩
      rw [integer?_eq_some_iff.mp integer, ofNat, Int.toNat_of_nonneg inRange.1]
    next => cases accepted
  · rintro ⟨below, rfl⟩
    exact naturalBelow?_ofNat below

theorem uint32?_eq_some_iff {j : Json} {n : UInt32} : j.uint32? = some n ↔ j = ofUInt32 n := by
  constructor
  · intro read
    obtain ⟨m, accepted, rfl⟩ := Option.map_eq_some_iff.mp read
    obtain ⟨below, rfl⟩ := naturalBelow?_eq_some_iff.mp accepted
    rw [ofUInt32]
    exact congrArg ofNat (UInt32.toNat_ofNat_of_lt below).symm
  · rintro rfl
    exact uint32?_ofUInt32 n

theorem bool?_eq_some_iff {j : Json} {b : Bool} : j.bool? = some b ↔ j = bool b := by
  cases j with
  | bool given => simp [bool?]
  | null | number _ | string _ | array _ | object _ => simp [bool?]

theorem lt_of_count? {j : Json} {n : Nat} (read : j.count? = some n) : n < UInt64.size :=
  (naturalBelow?_eq_some_iff.mp read).1

theorem Fields.exists_of_required {α : Type} {fields : Fields} {name : String}
    {read? : Json → Option α} {a : α} (read : fields.required name read? = some a) :
    ∃ value, fields.lookup name = some value ∧ read? value = some a :=
  Option.bind_eq_some_iff.mp read

theorem exists_of_mem_list? {α : Type} {read? : Json → Option α} {j : Json} {as : List α}
    (read : list? read? j = some as) {a : α} (member : a ∈ as) : ∃ item, read? item = some a := by
  cases j with
  | array items =>
    change items.mapM read? = some as at read
    induction items generalizing as with
    | nil =>
      cases read
      cases member
    | cons item items ih =>
      rw [List.mapM_cons] at read
      obtain ⟨first, readFirst, rest⟩ := Option.bind_eq_some_iff.mp read
      obtain ⟨later, readLater, whole⟩ := Option.bind_eq_some_iff.mp rest
      cases whole
      rcases List.mem_cons.mp member with rfl | among
      · exact ⟨item, readFirst⟩
      · exact ih among readLater
  | null | bool _ | number _ | string _ | object _ => cases read

end GridRobot.Json
