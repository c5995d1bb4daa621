import CodeSurvey.Text.Blank

/-!
# Cutting text

Text under inspection is a list of characters. This module holds the ways of cutting it that the
rest of the library shares: trimming, pieces between separators, lines, and substrings.
-/

namespace CodeSurvey.Text

/-- ASCII letters become lower case; every other character stays. -/
def lower (s : List Char) : List Char := s.map Char.toLower

def trimStart (s : List Char) : List Char := s.dropWhile isBlank

def trimEnd (s : List Char) : List Char := (s.reverse.dropWhile isBlank).reverse

/-- The text without the blanks at its two ends. -/
def trim (s : List Char) : List Char := trimEnd (trimStart s)

/-- The pieces between separators: always at least one, and one more than there are separators. -/
def pieces (isSep : Char → Bool) : List Char → List (List Char)
  | [] => [[]]
  | c :: cs =>
    match pieces isSep cs with
    | [] => [[c]]
    | p :: ps => if isSep c then [] :: p :: ps else (c :: p) :: ps

theorem pieces_ne_nil (isSep : Char → Bool) (s : List Char) : pieces isSep s ≠ [] := by
  cases s with
  | nil => simp [pieces]
  | cons c cs =>
    unfold pieces
    split
    · simp
    · split <;> simp

/-- The piece after the last separator. -/
def lastPiece (isSep : Char → Bool) (s : List Char) : List Char :=
  (s.reverse.takeWhile fun c => !isSep c).reverse

/-- The piece before the first separator. -/
def firstPiece (isSep : Char → Bool) (s : List Char) : List Char :=
  s.takeWhile fun c => !isSep c

/-- Splits at the last occurrence of `sep`, which belongs to neither part. -/
def splitLast? (sep : Char) (s : List Char) : Option (List Char × List Char) :=
  if sep ∈ s then
    let after := s.reverse.takeWhile (· ≠ sep)
    some ((s.reverse.drop (after.length + 1)).reverse, after.reverse)
  else none

/-- Splits at the first occurrence of `sep`, which belongs to neither part. -/
def splitFirst? (sep : Char) (s : List Char) : Option (List Char × List Char) :=
  match s.dropWhile (· ≠ sep) with
  | [] => none
  | _ :: after => some (s.takeWhile (· ≠ sep), after)

/-- A line that was closed by a line feed loses one carriage return before it. -/
def dropReturn (line : List Char) : List Char :=
  if line.getLast? = some '\r' then line.dropLast else line

/-- The lines of a text. Text after the last line feed is a line of its own unless it is empty. -/
def lines (s : List Char) : List (List Char) :=
  let ps := pieces (· = '\n') s
  ps.dropLast.map dropReturn ++ (ps.getLast?.filter fun l => !l.isEmpty).toList

/-- Does `needle` occur somewhere in the text? -/
def hasInfix (needle : List Char) : List Char → Bool
  | [] => needle.isEmpty
  | c :: cs => needle.isPrefixOf (c :: cs) || hasInfix needle cs

/-- Does the text contain the given word or phrase? -/
def contains (s : List Char) (needle : String) : Bool := hasInfix needle.toList s

def startsWith (s : List Char) (start : String) : Bool := start.toList.isPrefixOf s

def endsWith (s : List Char) (ending : String) : Bool := ending.toList.isSuffixOf s

def containsAny (s : List Char) (needles : List String) : Bool := needles.any (contains s)

/-- The text with every `old` replaced by `new`. -/
def replaceChar (old new : Char) (s : List Char) : List Char :=
  s.map fun c => if c = old then new else c

end CodeSurvey.Text
