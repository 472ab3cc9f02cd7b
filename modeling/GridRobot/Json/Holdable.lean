import GridRobot.Json.Value

/-! # Values that are held

A value whose meaning is not known yet is held until it is. A value that is passed over may be
anything well formed, but one that is held must be a value that a program can keep. -/

namespace GridRobot.Json

/-- How many arrays and objects may lie within each other where values are held. -/
def greatestDepth : Nat := 127

mutual

/-- Can be held until its meaning is known: every literal stands for a text, every number fits
floating point, and no more than `room` arrays and objects lie within each other. -/
def isHoldable (room : Nat) : Json → Bool
  | null => true
  | bool _ => true
  | number n => !n.exceedsDouble
  | string s => s.isSome
  | array items => 0 < room && areItemsHoldable (room - 1) items
  | object members => 0 < room && areMembersHoldable (room - 1) members

def areItemsHoldable (room : Nat) : List Json → Bool
  | [] => true
  | item :: items => item.isHoldable room && areItemsHoldable room items

def areMembersHoldable (room : Nat) : List (Option String × Json) → Bool
  | [] => true
  | (key, value) :: members =>
    key.isSome && value.isHoldable room && areMembersHoldable room members

end

end GridRobot.Json
