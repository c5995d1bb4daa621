import CodeSurvey.Json.Basic

/-!
# Reading JSON

Reads exactly the texts of the JSON grammar. A string that names half of a surrogate pair belongs to
the grammar and is read as `none`.
-/

namespace CodeSurvey.Json

/-- A value as it is read. -/
abbrev Source := Json (Option String)

def isSpace (c : Char) : Bool := c = ' ' || c = '\t' || c = '\n' || c = '\r'

def skipSpace (s : List Char) : List Char := s.dropWhile isSpace

def digitValue (c : Char) : Nat := c.toNat - '0'.toNat

/-- The digits at the front of a text, and the rest. -/
def takeDigits (s : List Char) : List Char × List Char := s.span Char.isDigit

def hexValue? (c : Char) : Option Nat :=
  if c.isDigit then some (digitValue c)
  else if 'a' ≤ c ∧ c ≤ 'f' then some (c.toNat - 'a'.toNat + 10)
  else if 'A' ≤ c ∧ c ≤ 'F' then some (c.toNat - 'A'.toNat + 10)
  else none

/-- Four hexadecimal digits. -/
def takeUnit? : List Char → Option (Nat × List Char)
  | a :: b :: c :: d :: rest => do
    return (((← hexValue? a) * 16 + (← hexValue? b)) * 256 + (← hexValue? c) * 16 + (← hexValue? d),
      rest)
  | _ => none

/-- The character that a letter stands for behind a backslash. -/
def escaped? : Char → Option Char
  | '"' => some '"'
  | '\\' => some '\\'
  | '/' => some '/'
  | 'b' => some '\x08'
  | 'f' => some '\x0c'
  | 'n' => some '\n'
  | 'r' => some '\r'
  | 't' => some '\t'
  | _ => none

def isHighSurrogate (n : Nat) : Bool := 0xD800 ≤ n && n < 0xDC00

def isLowSurrogate (n : Nat) : Bool := 0xDC00 ≤ n && n < 0xE000

/-- The character that two halves of a surrogate pair spell. -/
def joinSurrogates (high low : Nat) : Char :=
  Char.ofNat (0x10000 + (high - 0xD800) * 0x400 + (low - 0xDC00))

/-- The rest of a string behind its opening quote. `spelt` is what was read so far, last character
first, or `none` if it cannot be written in characters. -/
def stringTail : (bound : Nat) → (spelt : Option (List Char)) → List Char →
    Option (Option String × List Char)
  | 0, _, _ => none
  | _ + 1, _, [] => none
  | _ + 1, spelt, '"' :: rest => some (spelt.map fun cs => String.ofList cs.reverse, rest)
  | bound + 1, spelt, '\\' :: 'u' :: rest => do
    let (unit, rest) ← takeUnit? rest
    if isHighSurrogate unit then
      match rest with
      | '\\' :: 'u' :: rest' => do
        let (low, rest'') ← takeUnit? rest'
        if isLowSurrogate low then
          stringTail bound (spelt.map (joinSurrogates unit low :: ·)) rest''
        else stringTail bound none rest
      | _ => stringTail bound none rest
    else if isLowSurrogate unit then stringTail bound none rest
    else stringTail bound (spelt.map (Char.ofNat unit :: ·)) rest
  | bound + 1, spelt, '\\' :: c :: rest => do
    let e ← escaped? c
    stringTail bound (spelt.map (e :: ·)) rest
  | bound + 1, spelt, c :: rest =>
    if c.toNat < 0x20 || c = '\\' then none else stringTail bound (spelt.map (c :: ·)) rest

/-- What follows the exponent mark of a number: an optional sign and digits. -/
def takeExponent? (s : List Char) : Option (Int × List Char) :=
  let (negative, s) :=
    match s with
    | '-' :: rest => (true, rest)
    | '+' :: rest => (false, rest)
    | _ => (false, s)
  let (digits, rest) := takeDigits s
  if digits = [] then none
  else
    let n : Int := Decimal.ofDigits digits
    some (if negative then -n else n, rest)

/-- A number. Its whole part is a zero alone, or begins with another digit. -/
def takeNumber? (s : List Char) : Option (Decimal × List Char) := do
  let (negative, s) :=
    match s with
    | '-' :: rest => (true, rest)
    | _ => (false, s)
  let (whole, rest) := takeDigits s
  if whole = [] || (whole.head? = some '0' && whole.length ≠ 1) then none
  let (fraction, rest) ←
    match rest with
    | '.' :: rest =>
      let (fraction, rest) := takeDigits rest
      if fraction = [] then none else some (fraction, rest)
    | _ => some ([], rest)
  let (exponent, rest) ←
    match rest with
    | 'e' :: rest => takeExponent? rest
    | 'E' :: rest => takeExponent? rest
    | _ => some (0, rest)
  return (⟨negative, Decimal.ofDigits (whole ++ fraction), exponent - fraction.length⟩, rest)

/-- A fixed word. -/
def takeWord? (word : String) (value : Source) (s : List Char) : Option (Source × List Char) :=
  if word.toList.isPrefixOf s then some (value, s.drop word.length) else none

mutual

/-- A value and the text behind it. Each step takes a character, so a bound above the length of the text
is never met. -/
def takeValue : (bound : Nat) → List Char → Option (Source × List Char)
  | 0, _ => none
  | bound + 1, s =>
    match skipSpace s with
    | [] => none
    | '"' :: rest => (stringTail bound (some []) rest).map fun (s, rest) => (.string s, rest)
    | '[' :: rest =>
      match skipSpace rest with
      | ']' :: rest => some (.array [], rest)
      | _ => (takeElements bound rest).map fun (xs, rest) => (.array xs, rest)
    | '{' :: rest =>
      match skipSpace rest with
      | '}' :: rest => some (.object [], rest)
      | _ => (takeFields bound rest).map fun (fs, rest) => (.object fs, rest)
    | 'n' :: rest => takeWord? "ull" .null rest
    | 't' :: rest => takeWord? "rue" (.bool true) rest
    | 'f' :: rest => takeWord? "alse" (.bool false) rest
    | s => (takeNumber? s).map fun (n, rest) => (.number n, rest)

/-- At least one element, and the bracket that closes the array. -/
def takeElements : (bound : Nat) → List Char → Option (List Source × List Char)
  | 0, _ => none
  | bound + 1, s =>
    match takeValue bound s with
    | none => none
    | some (x, rest) =>
      match skipSpace rest with
      | ',' :: rest => (takeElements bound rest).map fun (xs, rest) => (x :: xs, rest)
      | ']' :: rest => some ([x], rest)
      | _ => none

/-- At least one field, and the brace that closes the object. -/
def takeFields : (bound : Nat) → List Char → Option (List (Option String × Source) × List Char)
  | 0, _ => none
  | bound + 1, s =>
    match skipSpace s with
    | '"' :: rest =>
      match stringTail bound (some []) rest with
      | none => none
      | some (key, rest) =>
        match skipSpace rest with
        | ':' :: rest =>
          match takeValue bound rest with
          | none => none
          | some (x, rest) =>
            match skipSpace rest with
            | ',' :: rest => (takeFields bound rest).map fun (fs, rest) => ((key, x) :: fs, rest)
            | '}' :: rest => some ([(key, x)], rest)
            | _ => none
        | _ => none
    | _ => none

end

/-- The one value that a text consists of. -/
def parse? (s : List Char) : Option Source :=
  match takeValue (2 * s.length + 2) s with
  | some (x, rest) => if skipSpace rest = [] then some x else none
  | none => none

end CodeSurvey.Json
