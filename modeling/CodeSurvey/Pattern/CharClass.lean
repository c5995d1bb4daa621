import CodeSurvey.Text.Word
import CodeSurvey.Text.Blank

/-!
# Classes of characters

What a pattern takes, character by character. A class is a value, so that patterns can be compared.
-/

namespace CodeSurvey

inductive CharClass where
  /-- Any character at all. -/
  | any
  /-- Any character but a line feed. -/
  | inLine
  | blank
  | word
  | asciiWord
  /-- A letter or digit of ASCII. -/
  | alphanumeric
  /-- A capital letter of ASCII. -/
  | capital
  | exactly (c : Char)
  /-- This letter of ASCII in either case, and the character beyond ASCII that folds to it. -/
  | letter (c : Char)
  | among (cs : List Char)
  | outside (cs : List Char)
  | either (a b : CharClass)
deriving DecidableEq, Repr

namespace CharClass

instance : OrOp CharClass := ⟨either⟩

/-- The letter that stands for all characters equal to `c` up to case, for the letters of ASCII and
the two characters beyond it, long s and the kelvin sign, that fold to one of them. -/
def foldCase (c : Char) : Char :=
  if c = 'ſ' then 's' else if c = '\u212A' then 'k' else c.toLower

def mem (c : Char) : CharClass → Bool
  | any => true
  | inLine => c ≠ '\n'
  | blank => Text.isBlank c
  | word => Text.isWord c
  | asciiWord => Text.isAsciiWord c
  | alphanumeric => c.isAlphanum
  | capital => c.isUpper
  | exactly d => c = d
  | letter d => foldCase c = foldCase d
  | among cs => cs.contains c
  | outside cs => !cs.contains c
  | either a b => mem c a || mem c b

end CharClass

end CodeSurvey
