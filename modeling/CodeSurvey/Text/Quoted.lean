import CodeSurvey.Text.Hidden

/-!
# Quoted text

Text as it is shown inside a message: between double quotes, with quotes and backslashes escaped and
with characters that do not show written by name or by number.
-/

namespace CodeSurvey.Text

/-- The character number in base 16, in lower case. -/
def hexNumber (c : Char) : List Char := Nat.toDigits 16 c.toNat

/-- How one character is written inside quotes. -/
def quoteChar (c : Char) : List Char :=
  match c with
  | '\x00' => ['\\', '0']
  | '\t' => ['\\', 't']
  | '\n' => ['\\', 'n']
  | '\r' => ['\\', 'r']
  | '"' => ['\\', '"']
  | '\\' => ['\\', '\\']
  | c => if isHidden c then ['\\', 'u', '\x7b'] ++ hexNumber c ++ ['\x7d'] else [c]

def quoted (s : String) : String := String.ofList ('"' :: s.toList.flatMap quoteChar ++ ['"'])

end CodeSurvey.Text
