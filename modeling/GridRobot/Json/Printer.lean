import GridRobot.Json.Value

/-! # Written forms of JSON

The compact form puts nothing between two tokens. The pretty form gives every item and every member
a line of its own, indented by two spaces for each array or object around it; an empty array or
object stays in one line. -/

namespace GridRobot.Json

/-- A value with nothing between its tokens. -/
def compact (j : Json) : String :=
  String.ofList (j.tokens.flatMap Token.text)

/-- The start of a new line, inside that many arrays and objects. -/
def newLine (depth : Nat) : List Char :=
  '\n' :: List.replicate (2 * depth) ' '

mutual

/-- A value over several lines, inside that many arrays and objects. -/
def prettyChars (depth : Nat) : Json → List Char
  | array [] => Token.openArray.text ++ Token.closeArray.text
  | array (item :: items) =>
    Token.openArray.text ++ newLine (depth + 1) ++ prettyChars (depth + 1) item
      ++ prettyItems (depth + 1) items ++ newLine depth ++ Token.closeArray.text
  | object [] => Token.openObject.text ++ Token.closeObject.text
  | object ((key, value) :: members) =>
    Token.openObject.text ++ newLine (depth + 1) ++ (Token.string key).text
      ++ Token.colon.text ++ ' ' :: prettyChars (depth + 1) value
      ++ prettyMembers (depth + 1) members ++ newLine depth ++ Token.closeObject.text
  | null => Token.null.text
  | bool b => (Token.bool b).text
  | number n => (Token.number n).text
  | string s => (Token.string s).text

def prettyItems (depth : Nat) : List Json → List Char
  | [] => []
  | item :: items =>
    Token.comma.text ++ newLine depth ++ prettyChars depth item ++ prettyItems depth items

def prettyMembers (depth : Nat) : List (Option String × Json) → List Char
  | [] => []
  | (key, value) :: members =>
    Token.comma.text ++ newLine depth ++ (Token.string key).text ++ Token.colon.text
      ++ ' ' :: prettyChars depth value ++ prettyMembers depth members

end

def pretty (j : Json) : String :=
  String.ofList (prettyChars 0 j)

end GridRobot.Json
