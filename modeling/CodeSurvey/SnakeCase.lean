/-!
# Table names from class names

`OrderItem` names the table `order_item`: an underscore goes before each capital that follows a small
letter or a digit, and capitals become small.
-/

namespace CodeSurvey

/-- `low` says whether the character before was a small letter or a digit of ASCII. -/
def snakeCaseFrom (low : Bool) : List Char → List Char
  | [] => []
  | c :: cs =>
    if c.isUpper then
      (if low then ['_'] else []) ++ c.toLower :: snakeCaseFrom false cs
    else c :: snakeCaseFrom (c.isLower || c.isDigit) cs

def snakeCase (name : String) : String := String.ofList (snakeCaseFrom false name.toList)

end CodeSurvey
