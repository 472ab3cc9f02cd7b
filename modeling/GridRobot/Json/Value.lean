import GridRobot.Json.Token

/-! # Values of JSON

A value keeps what its text says: members in order, repeated keys, numbers by their parts. A value
is built from its tokens one at a time, and the values and lists that are still open wait on a
stack. -/

namespace GridRobot

/-- A value of JSON. Keys and strings are `none` where a literal stands for no text. -/
inductive Json where
  | null
  | bool (b : Bool)
  | number (n : Json.Number)
  | string (s : Option String)
  | array (items : List Json)
  | object (members : List (Option String × Json))
  deriving Repr, Inhabited

namespace Json

/-! ## The tokens of a value -/

mutual

def tokens : Json → List Token
  | null => [.null]
  | bool b => [.bool b]
  | number n => [.number n]
  | string s => [.string s]
  | array items => .openArray :: (itemTokens items ++ [.closeArray])
  | object members => .openObject :: (memberTokens members ++ [.closeObject])

/-- The tokens of the items of an array, with a comma between two. -/
def itemTokens : List Json → List Token
  | [] => []
  | [item] => item.tokens
  | item :: items => item.tokens ++ .comma :: itemTokens items

/-- The tokens of the members of an object, with a comma between two. -/
def memberTokens : List (Option String × Json) → List Token
  | [] => []
  | [(key, value)] => .string key :: .colon :: value.tokens
  | (key, value) :: members =>
    .string key :: .colon :: (value.tokens ++ .comma :: memberTokens members)

end

/-! ## Building a value -/

/-- An array or object that is still open, with the newest part first. -/
inductive Frame where
  | array (items : List Json)
  /-- The value of the member with this key is on its way. -/
  | object (members : List (Option String × Json)) (key : Option String)

/-- What may come next, below the open arrays and objects. -/
inductive Builder where
  | value (stack : List Frame)
  /-- Right inside an array: a value or the end. -/
  | firstItem (stack : List Frame)
  /-- Right inside an object: a key or the end. -/
  | firstKey (stack : List Frame)
  | key (members : List (Option String × Json)) (stack : List Frame)
  | colon (members : List (Option String × Json)) (key : Option String) (stack : List Frame)
  /-- A value is complete. -/
  | complete (value : Json) (stack : List Frame)

namespace Builder

def startValue (stack : List Frame) : Token → Option Builder
  | .null => some (complete .null stack)
  | .bool b => some (complete (.bool b) stack)
  | .number n => some (complete (.number n) stack)
  | .string s => some (complete (.string s) stack)
  | .openArray => some (firstItem stack)
  | .openObject => some (firstKey stack)
  | _ => none

/-- One token after a complete value, inside the innermost open array or object. -/
def continueFrame (value : Json) : List Frame → Token → Option Builder
  | .array items :: stack, .comma => some (.value (.array (value :: items) :: stack))
  | .array items :: stack, .closeArray =>
    some (complete (.array (value :: items).reverse) stack)
  | .object members k :: stack, .comma => some (key ((k, value) :: members) stack)
  | .object members k :: stack, .closeObject =>
    some (complete (.object ((k, value) :: members).reverse) stack)
  | _, _ => none

def step : Builder → Token → Option Builder
  | value stack, t => startValue stack t
  | firstItem stack, .closeArray => some (complete (.array []) stack)
  | firstItem stack, t => startValue (.array [] :: stack) t
  | firstKey stack, .closeObject => some (complete (.object []) stack)
  | firstKey stack, .string k => some (colon [] k stack)
  | key members stack, .string k => some (colon members k stack)
  | colon members k stack, .colon => some (value (.object members k :: stack))
  | complete v stack, t => continueFrame v stack t
  | _, _ => none

def finish : Builder → Option Json
  | complete v [] => some v
  | _ => none

def run : Builder → List Token → Option Json
  | builder, [] => builder.finish
  | builder, t :: ts =>
    match builder.step t with
    | none => none
    | some next => next.run ts

end Builder

def ofTokens? (ts : List Token) : Option Json :=
  (Builder.value []).run ts

/-- The value that a text writes. -/
def parse? (text : String) : Option Json :=
  (tokens? text.toList).bind ofTokens?

end Json
end GridRobot
