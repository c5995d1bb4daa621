/-!
# Colours on a terminal

Text is painted by codes that the terminal takes out again. Where colours are off, painting does nothing.
-/

namespace CodeSurvey

inductive Paint where
  | bold
  | dimmed
  | green
  | yellow
  | blue
  | cyan
deriving DecidableEq, Repr

namespace Paint

def code : Paint → String
  | bold => "1"
  | dimmed => "2"
  | green => "32"
  | yellow => "33"
  | blue => "34"
  | cyan => "36"

/-- Paints a text if colours are on. -/
def apply (color : Bool) (paints : List Paint) (text : String) : String :=
  if color then "\x1b[" ++ ";".intercalate (paints.map code) ++ "m" ++ text ++ "\x1b[0m" else text

end Paint

/-- Fills a text up with spaces to a number of characters. -/
def padRight (width : Nat) (text : String) : String :=
  text ++ String.ofList (List.replicate (width - text.length) ' ')

end CodeSurvey
