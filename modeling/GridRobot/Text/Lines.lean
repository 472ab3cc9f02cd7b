/-! # Lines

A text cut into lines. A line ends in a line feed, alone or after a carriage return; the last line
may lack its end, and nothing after the last end is no line. -/

namespace GridRobot.Text

/-- Cuts a text after each line feed; every piece but the last ends in one. -/
def cutAfterNewlines : List Char → List (List Char)
  | [] => []
  | c :: cs =>
    if c = '\n' then [c] :: cutAfterNewlines cs
    else
      match cutAfterNewlines cs with
      | [] => [[c]]
      | piece :: pieces => (c :: piece) :: pieces

/-- A line without its end: a line feed, with the carriage return before it if there is one. -/
def withoutEnd (line : List Char) : List Char :=
  match line.reverse with
  | '\n' :: '\r' :: rest => rest.reverse
  | '\n' :: rest => rest.reverse
  | _ => line

def lines (cs : List Char) : List (List Char) :=
  (cutAfterNewlines cs).map withoutEnd

end GridRobot.Text
