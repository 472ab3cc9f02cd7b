import GridRobot.Proofs.Json.Fields

/-! # Spellings of a structure

A structure may be spelled as an object of its fields in any order or as the array of its fields in
their own order, and a field that holds nothing may be left out where no other field takes its
place. Which values may stand for a field is said by the field (`FieldSpelling`), so structures may
lie within each other, each spelled in its own way.

However it is spelled, each field is found under its name (`StructureSpelled.exists_fields`): an
object has its members in some other order, and an array, with the names beside its items, is an
object in the order of the fields (`ItemsSpelled.zip`). -/

namespace GridRobot.Json

/-- A field of a structure, and how it may be spelled. -/
structure FieldSpelling where
  name : String
  /-- The values that may stand for what the field holds. -/
  Spelled : Json → Prop
  /-- Holds nothing and may be left out. -/
  isAbsent : Bool

namespace FieldSpelling

/-- A field that always holds something. -/
def required (name : String) (Spelled : Json → Prop) : FieldSpelling :=
  { name, Spelled, isAbsent := false }

/-- A field that may hold nothing, which null stands for as well. -/
def optional {α : Type} (name : String) (Spelled : α → Json → Prop) (value : Option α) :
    FieldSpelling where
  name := name
  Spelled j := value.elim (j = null) fun a => Spelled a j
  isAbsent := value.isNone

end FieldSpelling

/-- Members for the fields in order, without some that hold nothing. -/
inductive MembersSpelled : List FieldSpelling → List (String × Json) → Prop where
  | nil : MembersSpelled [] []
  | given {field : FieldSpelling} {fields : List FieldSpelling} {value : Json}
      {members : List (String × Json)} (spelled : field.Spelled value)
      (rest : MembersSpelled fields members) :
      MembersSpelled (field :: fields) ((field.name, value) :: members)
  | leftOut {field : FieldSpelling} {fields : List FieldSpelling}
      {members : List (String × Json)} (absent : field.isAbsent = true)
      (rest : MembersSpelled fields members) : MembersSpelled (field :: fields) members

/-- Items for the fields in order, up to a point where all that follow hold nothing. -/
inductive ItemsSpelled : List FieldSpelling → List Json → Prop where
  | done {fields : List FieldSpelling} (absent : ∀ field ∈ fields, field.isAbsent = true) :
      ItemsSpelled fields []
  | given {field : FieldSpelling} {fields : List FieldSpelling} {value : Json} {items : List Json}
      (spelled : field.Spelled value) (rest : ItemsSpelled fields items) :
      ItemsSpelled (field :: fields) (value :: items)

inductive StructureSpelled (fields : List FieldSpelling) : Json → Prop where
  | object {inOrder members : List (String × Json)} (spelled : MembersSpelled fields inOrder)
      (same : members.Perm inOrder) : StructureSpelled fields (ofMembers members)
  | array {items : List Json} (spelled : ItemsSpelled fields items) :
      StructureSpelled fields (.array items)

/-- A list is the array of its items, each spelled in its own way. -/
inductive ListSpelled {α : Type} (Spelled : α → Json → Prop) : List α → Json → Prop where
  | items {as : List α} {items : List Json} (spelled : List.Forall₂ Spelled as items) :
      ListSpelled Spelled as (.array items)

/-- A name is a text, or the only key of an object, with null as its value. -/
inductive NameSpelled (name : String) : Json → Prop where
  | text : NameSpelled name (ofString name)
  | object : NameSpelled name (ofMembers [(name, null)])

/-! ## The fields in order -/

/-- The names of fields. -/
def namesOf (fields : List FieldSpelling) : List String :=
  fields.map FieldSpelling.name

theorem MembersSpelled.sublist {fields : List FieldSpelling} {members : List (String × Json)}
    (spelled : MembersSpelled fields members) :
    (members.map Prod.fst).Sublist (namesOf fields) := by
  induction spelled with
  | nil => exact .slnil
  | given _ _ ih => exact ih.cons_cons _
  | leftOut _ _ ih => exact ih.cons _

theorem MembersSpelled.of_absent {fields : List FieldSpelling}
    (absent : ∀ field ∈ fields, field.isAbsent = true) : MembersSpelled fields [] := by
  induction fields with
  | nil => exact .nil
  | cons field fields ih =>
    obtain ⟨first, later⟩ := List.forall_mem_cons.mp absent
    exact .leftOut first (ih later)

theorem ItemsSpelled.zip {fields : List FieldSpelling} {items : List Json}
    (spelled : ItemsSpelled fields items) :
    items.length ≤ (namesOf fields).length
      ∧ MembersSpelled fields ((namesOf fields).zip items) := by
  induction spelled with
  | done absent =>
    rw [List.zip_nil_right]
    exact ⟨Nat.zero_le _, .of_absent absent⟩
  | given spelled _ ih => exact ⟨Nat.succ_le_succ ih.1, .given spelled ih.2⟩

/-! ## Each field under its name -/

/-- The field is given one of its spellings, or it may be left out and is. -/
def FieldSpelling.Found (field : FieldSpelling) (given : Fields) : Prop :=
  (∃ value, given.lookup field.name = some value ∧ field.Spelled value)
    ∨ given.lookup field.name = none ∧ field.isAbsent = true

theorem FieldSpelling.found_cons {field : FieldSpelling} {given : Fields} {key : String}
    (other : field.name ≠ key) (value : Json) :
    field.Found ((key, value) :: given) ↔ field.Found given := by
  rw [Found, Found, List.lookup_cons, beq_false_of_ne other]

theorem MembersSpelled.found {fields : List FieldSpelling} {members : List (String × Json)}
    (spelled : MembersSpelled fields members) (distinct : (namesOf fields).Nodup) :
    ∀ field ∈ fields, field.Found members := by
  induction spelled with
  | nil => exact List.forall_mem_nil _
  | @given field fields value members spelled rest ih =>
    obtain ⟨first, later⟩ := List.nodup_cons.mp distinct
    refine List.forall_mem_cons.mpr ⟨.inl ⟨value, List.lookup_cons_self, spelled⟩, ?_⟩
    intro other among
    have noSame : other.name ≠ field.name := fun same => first (same ▸ List.mem_map_of_mem among)
    exact (FieldSpelling.found_cons noSame value).mpr (ih later other among)
  | @leftOut field fields members absent rest ih =>
    obtain ⟨first, later⟩ := List.nodup_cons.mp distinct
    have notThere : field.name ∉ members.map Prod.fst := fun member =>
      first (rest.sublist.subset member)
    exact List.forall_mem_cons.mpr ⟨.inr ⟨lookup_eq_none_iff.mpr notThere, absent⟩, ih later⟩

/-- In another order the fields are found just as well. -/
theorem lookup_of_perm {members others : List (String × Json)} (same : others.Perm members)
    (distinct : (members.map Prod.fst).Nodup) (name : String) :
    others.lookup name = members.lookup name := by
  apply Option.ext
  intro value
  have distinctOthers := (same.map Prod.fst).nodup_iff.mpr distinct
  rw [lookup_eq_some_iff distinctOthers, lookup_eq_some_iff distinct, same.mem_iff]

theorem StructureSpelled.exists_fields {fields : List FieldSpelling} {j : Json}
    (spelled : StructureSpelled fields j) (distinct : (namesOf fields).Nodup) :
    ∃ given, j.fields? (namesOf fields) = some given ∧ ∀ field ∈ fields, field.Found given := by
  cases spelled with
  | @object inOrder members spelled same =>
    have once := distinct.sublist spelled.sublist
    have allKnown : known (namesOf fields) members = members := by
      apply List.filter_eq_self.mpr
      intro member among
      have key := (same.map Prod.fst).mem_iff.mp (List.mem_map_of_mem among)
      exact List.contains_iff_mem.mpr (spelled.sublist.subset key)
    have onceGiven : Once (namesOf fields) members := by
      rwa [once_iff_nodup, allKnown, (same.map Prod.fst).nodup_iff]
    -- The order of the members is of no account once no name comes twice.
    refine ⟨members, fields?_ofMembers_eq_some_iff.mpr ⟨onceGiven, allKnown⟩, ?_⟩
    intro field among
    have found := spelled.found distinct field among
    rwa [FieldSpelling.Found, ← lookup_of_perm same once] at found
  | @array items spelled =>
    exact ⟨_, if_pos spelled.zip.1, spelled.zip.2.found distinct⟩

/-! ## What the fields are read as -/

namespace FieldSpelling.Found

variable {α : Type} {given : Fields} {name : String} {read? : Json → Option α}

theorem exists_value {Spelled : Json → Prop} (found : (required name Spelled).Found given) :
    ∃ value, given.lookup name = some value ∧ Spelled value := by
  rcases found with value | ⟨-, absent⟩
  · exact value
  · cases absent

theorem read_required {Spelled : Json → Prop} {a : α}
    (found : (required name Spelled).Found given) (read : ∀ j, Spelled j → read? j = some a) :
    given.required name read? = some a := by
  obtain ⟨value, there, spelled⟩ := found.exists_value
  rw [Fields.required_of_lookup there, read value spelled]

theorem read_defaulted {Spelled : Json → Prop} {default a : α}
    (found : (required name Spelled).Found given) (read : ∀ j, Spelled j → read? j = some a) :
    given.defaulted name default read? = some a := by
  obtain ⟨value, there, spelled⟩ := found.exists_value
  rw [Fields.defaulted_of_lookup there, read value spelled]

theorem read_optional {Spelled : α → Json → Prop} {value : Option α}
    (found : (optional name Spelled value).Found given)
    (read : ∀ a j, Spelled a j → read? j = some a) (noNull : read? null = none) :
    given.optional name read? = some value := by
  rw [Fields.optional]
  rcases found with ⟨j, there, spelled⟩ | ⟨nothing, absent⟩
  · change given.lookup name = some j at there
    rw [there]
    cases value with
    | none =>
      obtain rfl : j = null := spelled
      rfl
    | some a =>
      -- What stands for a value is read, so it is not the null that stands for none.
      have readSpelled := read a j spelled
      cases j with
      | null => rw [noNull] at readSpelled; cases readSpelled
      | _ => simp only [readSpelled, Option.map_some]
  · change given.lookup name = none at nothing
    rw [nothing, Option.isNone_iff_eq_none.mp absent]

end FieldSpelling.Found

theorem choice?_of_spelled {name : String} {j : Json} (spelled : NameSpelled name j) :
    j.choice? = some name := by
  cases spelled with
  | text => rfl
  | object => rfl

theorem list?_of_spelled {α : Type} {Spelled : α → Json → Prop} {read? : Json → Option α}
    {as : List α} {j : Json} (spelled : ListSpelled Spelled as j)
    (read : ∀ a ∈ as, ∀ j, Spelled a j → read? j = some a) : list? read? j = some as := by
  obtain ⟨items⟩ := spelled
  change List.mapM read? _ = some as
  induction items with
  | nil => rfl
  | @cons a item as items first _ ih =>
    rw [List.mapM_cons, read a List.mem_cons_self item first,
      ih fun next among => read next (List.mem_cons_of_mem a among)]
    rfl

end GridRobot.Json
