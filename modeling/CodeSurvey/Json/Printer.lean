import CodeSurvey.Json.Basic

/-!
# Printing JSON

Values are printed over several lines, with one element or field on each and two more spaces of indentation
for each array or object around it. An empty array or object stays on one line.
-/

namespace CodeSurvey.Json

/-- A number of 16 bits in base 16, with all its digits. -/
def hex4 (n : Nat) : List Char :=
  let digits := Nat.toDigits 16 n
  List.replicate (4 - digits.length) '0' ++ digits

/-- How a character is written in a string. -/
def spellChar (c : Char) : List Char :=
  match c with
  | '"' => ['\\', '"']
  | '\\' => ['\\', '\\']
  | '\n' => ['\\', 'n']
  | '\r' => ['\\', 'r']
  | '\t' => ['\\', 't']
  | '\x08' => ['\\', 'b']
  | '\x0C' => ['\\', 'f']
  | c => if c.toNat < 0x20 then ['\\', 'u'] ++ hex4 c.toNat else [c]

def spellString (s : String) : String := String.ofList ('"' :: s.toList.flatMap spellChar ++ ['"'])

def spellNumber (d : Decimal) : String :=
  (if d.negative then "-" else "") ++ toString d.digits ++
    if d.exponent = 0 then "" else "e" ++ toString d.exponent

/-- The start of a line inside `depth` arrays and objects. -/
def newline (depth : Nat) : String := "\n" ++ String.ofList (List.replicate (2 * depth) ' ')

mutual

/-- Writes a value behind a text; it stands inside `depth` arrays and objects. -/
def write (depth : Nat) (out : String) : Json String → String
  | .null => out ++ "null"
  | .bool b => out ++ if b then "true" else "false"
  | .number d => out ++ spellNumber d
  | .string s => out ++ spellString s
  | .array [] => out ++ "[]"
  | .array (x :: xs) =>
    writeElements (depth + 1) (write (depth + 1) (out ++ "[" ++ newline (depth + 1)) x) xs ++
      newline depth ++ "]"
  | .object [] => out ++ "\x7b\x7d"
  | .object ((k, x) :: fs) =>
    writeFields (depth + 1)
      (write (depth + 1) (out ++ "\x7b" ++ newline (depth + 1) ++ spellString k ++ ": ") x) fs ++
      newline depth ++ "\x7d"

/-- Writes elements after the first. -/
def writeElements (depth : Nat) (out : String) : List (Json String) → String
  | [] => out
  | x :: xs => writeElements depth (write depth (out ++ "," ++ newline depth) x) xs

/-- Writes fields after the first. -/
def writeFields (depth : Nat) (out : String) : List (String × Json String) → String
  | [] => out
  | (k, x) :: fs =>
    writeFields depth (write depth (out ++ "," ++ newline depth ++ spellString k ++ ": ") x) fs

end

/-- The text of a value. -/
def text (j : Json String) : String := write 0 "" j

end CodeSurvey.Json
