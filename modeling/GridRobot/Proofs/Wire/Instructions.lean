import GridRobot.Proofs.Json.Fields
import GridRobot.Wire.Read
import GridRobot.Wire.Write

/-! # Instructions are told by their tag

An instruction is an object of its tag and what else it carries. The reader takes it if the tag
stands there once, anywhere, and everything else can be held until the tag is known
(`Instruction.ofJson?_ofMembers_eq_some_iff`), so the members may come in any order
(`Instruction.ofJson?_of_perm`). -/

namespace GridRobot

namespace Instruction

/-- What an instruction carries besides its tag. -/
def details : Instruction → List (String × Json)
  | boost value => [("value", .ofNat value.toNat)]
  | unknown c => [("character", .ofChar c)]
  | _ => []

theorem toJson_eq (i : Instruction) :
    i.toJson = .ofMembers (("op", .ofString i.mnemonic) :: i.details) := by
  cases i <;> rfl

theorem noTag_details (i : Instruction) : ∀ member ∈ i.details, member.1 ≠ "op" := by
  cases i <;> simp [details]

/-- What is held here is small, so no limit on held values is reached, whatever the room. -/
theorem isHoldable_details (i : Instruction) (room : Nat) :
    ∀ member ∈ i.details, member.2.isHoldable room = true := by
  cases i with
  | forward | backward | left | right => exact List.forall_mem_nil _
  | boost value =>
    have small : value.toNat < UInt32.size := Nat.lt_trans value.toNat_lt (by decide)
    intro member among
    obtain rfl := List.mem_singleton.mp among
    exact Json.isHoldable_ofNat small room
  | unknown c =>
    intro member among
    obtain rfl := List.mem_singleton.mp among
    exact Json.isHoldable_ofString (String.singleton c) room

theorem ofMembers?_details (i : Instruction) : ofMembers? i.mnemonic i.details = some i := by
  cases i with
  | forward | backward | left | right => rfl
  | boost value =>
    have sole : sole? "value" [("value", .ofNat value.toNat)] = some (.ofNat value.toNat) := rfl
    rw [mnemonic, details, ofMembers?, sole, Option.bind_some, Json.uint8?_ofNat, Option.map_some]
  | unknown c =>
    have sole : sole? "character" [("character", .ofChar c)] = some (.ofChar c) := rfl
    rw [mnemonic, details, ofMembers?, sole, Option.bind_some, Json.char?_ofChar, Option.map_some]

theorem sole?_eq_some_iff {name : String} {members : Json.Fields} {value : Json} :
    sole? name members = some value
      ↔ (members.filter fun member => member.1 == name) = [(name, value)] := by
  unfold sole?
  constructor
  · intro found
    split at found
    next key given only =>
      cases found
      have isNamed := (List.mem_filter.mp (only ▸ List.mem_singleton_self (key, value))).2
      obtain rfl : key = name := eq_of_beq isNamed
      exact only
    next => cases found
  · intro only
    rw [only]

/-- An object is told by its only tag, if the rest of it can be held. -/
theorem ofJson?_ofMembers_eq_some_iff {room : Nat} {members : List (String × Json)}
    {i : Instruction} :
    Instruction.ofJson? room (.ofMembers members) = some i ↔ ∃ tag,
      sole? "op" members = some (.ofString tag)
        ∧ (∀ member ∈ members, member.1 ≠ "op" → member.2.isHoldable (room - 1) = true)
        ∧ ofMembers? tag (members.filter fun member => member.1 != "op") = some i := by
  have named : Json.namedMembers? (members.map fun member => (some member.1, member.2))
      = some members := Json.namedMembers?_map members
  have held : ((members.filter fun member => member.1 != "op").all fun member =>
        member.2.isHoldable (room - 1)) = true
      ↔ ∀ member ∈ members, member.1 ≠ "op" → member.2.isHoldable (room - 1) = true := by
    simp only [List.all_eq_true, List.mem_filter, bne_iff_ne, and_imp]
  change (Json.namedMembers? (members.map fun member => (some member.1, member.2))).bind _
    = some i ↔ _
  rw [named, Option.bind_some, ← held]
  constructor
  · intro read
    split at read
    next tag sole =>
      rw [Option.ite_none_right_eq_some] at read
      exact ⟨tag, sole, read.1, read.2⟩
    next => cases read
  · rintro ⟨tag, sole, held, read⟩
    simp only [sole, Json.ofString, if_pos held, read]

/-- The tag may stand anywhere among the members. -/
theorem ofJson?_of_perm {room : Nat} {i : Instruction} {members : List (String × Json)}
    (same : members.Perm (("op", .ofString i.mnemonic) :: i.details)) :
    Instruction.ofJson? room (.ofMembers members) = some i := by
  have noOther : (i.details.filter fun member => member.1 == "op") = [] := by
    apply List.filter_eq_nil_iff.mpr
    intro member among
    simpa using i.noTag_details member among
  have others : (i.details.filter fun member => member.1 != "op") = i.details :=
    List.filter_eq_self.mpr fun member among => bne_iff_ne.mpr (i.noTag_details member among)
  apply ofJson?_ofMembers_eq_some_iff.mpr
  refine ⟨i.mnemonic, ?_, ?_, ?_⟩
  · have tags := same.filter fun member => member.1 == "op"
    rw [List.filter_cons_of_pos (by simp), noOther] at tags
    exact sole?_eq_some_iff.mpr tags.eq_singleton
  · intro member among noTag
    rcases List.mem_cons.mp (same.mem_iff.mp among) with rfl | detail
    · exact absurd rfl noTag
    · exact i.isHoldable_details (room - 1) member detail
  · have rest := same.filter fun member => member.1 != "op"
    rw [List.filter_cons_of_neg (by simp), others] at rest
    -- There is at most one detail, so nothing is left to be in another order.
    have inOrder : (members.filter fun member => member.1 != "op") = i.details := by
      cases i with
      | forward | backward | left | right => exact rest.eq_nil
      | boost | unknown => exact rest.eq_singleton
    rw [inOrder, ofMembers?_details]

end Instruction

end GridRobot
