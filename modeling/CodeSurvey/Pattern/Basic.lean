import CodeSurvey.Pattern.CharClass

/-!
# Patterns

A pattern describes a stretch of text. It is a value: patterns are put together with `++` (one after
the other), `|||` (the left one if it leads to a match, else the right one), runs of characters of a
class, repetition, numbered groups, and tests on the place reached.
-/

namespace CodeSurvey

/-- A place in a text: the character before it, the text that follows, and how many characters lie
before it. -/
structure Cursor where
  before : Option Char
  rest : List Char
  offset : Nat

namespace Cursor

/-- The place at which a text begins. -/
def start (s : List Char) : Cursor := ⟨none, s, 0⟩

/-- The place after the next character `c`, of which `rest` is left. -/
def step (here : Cursor) (c : Char) (rest : List Char) : Cursor := ⟨some c, rest, here.offset + 1⟩

/-- The text between two places, of which `stop` is the later. -/
def textTo (here stop : Cursor) : List Char := here.rest.take (stop.offset - here.offset)

end Cursor

/-- What a place can be tested for. -/
inductive Anchor where
  /-- The text begins here, or a line does. -/
  | lineStart
  /-- The text ends here, or a line does. -/
  | lineEnd
  | textStart
  /-- Exactly one of the two neighbouring characters belongs to a word. -/
  | wordEdge
deriving DecidableEq, Repr

def Anchor.holds (here : Cursor) : Anchor → Bool
  | lineStart => here.before.all (· = '\n')
  | lineEnd => here.rest.head?.all (· = '\n')
  | textStart => here.before.isNone
  | wordEdge => here.before.any Text.isWord != here.rest.head?.any Text.isWord

/-- One of the two ends of a numbered group. -/
inductive GroupEnd where
  | opens (number : Nat)
  | closes (number : Nat)
deriving DecidableEq, Repr

inductive Pattern where
  /-- Takes nothing, and always succeeds. -/
  | empty
  /-- One character of a class. -/
  | one (cls : CharClass)
  /-- At least `least` characters of a class: as many as possible if `greedy`, else as few. -/
  | run (cls : CharClass) (least : Nat) (greedy : Bool)
  | cat (first second : Pattern)
  | either (preferred other : Pattern)
  /-- The body any number of times, as often as possible. A round that takes nothing is no round. -/
  | many (body : Pattern)
  /-- Takes nothing, and remembers the place. -/
  | mark (e : GroupEnd)
  /-- Takes nothing, and succeeds where the test does. -/
  | test (a : Anchor)
deriving DecidableEq, Repr

namespace Pattern

/-- Compares patterns. The tails of chains are mostly one and the same object, which needs no look inside. -/
def decEq : (p q : Pattern) → Decidable (p = q)
  | cat a b, cat c d =>
    if h : a = c then
      match withPtrEqDecEq b d fun _ => decEq b d with
      | isTrue h' => isTrue (by rw [h, h'])
      | isFalse h' => isFalse fun e => h' (Pattern.cat.inj e).2
    else isFalse fun e => h (Pattern.cat.inj e).1
  | p, q => inferInstanceAs (Decidable (p = q))

instance : DecidableEq Pattern := decEq

/-- One pattern after another. Chains are kept nested to the right, and without empty links, so that what
is left of a chain is a part of it. -/
def append : Pattern → Pattern → Pattern
  | empty, q => q
  | cat a b, q => cat a (append b q)
  | p, q => cat p q

instance : Append Pattern := ⟨append⟩
instance : OrOp Pattern := ⟨either⟩

/-- Exactly the given characters. -/
def literal (s : String) : Pattern :=
  s.toList.foldr (fun c rest => cat (one (.exactly c)) rest) empty

instance : Coe String Pattern := ⟨literal⟩

/-- The given characters, in either case. -/
def anyCase (s : String) : Pattern := s.toList.foldr (fun c rest => cat (one (.letter c)) rest) empty

/-- The first of the alternatives that leads to a match. -/
def oneOf : List Pattern → Pattern
  | [] => one (.among [])
  | [p] => p
  | p :: ps => either p (oneOf ps)

/-- One of the given words, the earlier preferred. -/
def words (ws : List String) : Pattern := oneOf (ws.map literal)

/-- One of the given words in either case, the earlier preferred. -/
def wordsAnyCase (ws : List String) : Pattern := oneOf (ws.map anyCase)

/-- The body, or nothing if the body leads to no match. -/
def optional (body : Pattern) : Pattern := either body empty

/-- Remembers the text that the body took under a number. -/
def group (number : Nat) (body : Pattern) : Pattern :=
  mark (.opens number) ++ body ++ mark (.closes number)

/-- One character out of a list. -/
def oneIn (cs : String) : Pattern := one (.among cs.toList)

/-- A run of characters outside a list. -/
def runOutside (cs : String) (least : Nat) : Pattern := run (.outside cs.toList) least true

/-- Any blanks, even none. -/
def blanks : Pattern := run .blank 0 true

/-- At least one blank. -/
def blanks1 : Pattern := run .blank 1 true

/-- At least one word character. -/
def word1 : Pattern := run .word 1 true

def lineStart : Pattern := test .lineStart
def lineEnd : Pattern := test .lineEnd
def textStart : Pattern := test .textStart
def wordEdge : Pattern := test .wordEdge

/-- A quote of either kind. -/
def quote : Pattern := oneIn "'\""

end Pattern

end CodeSurvey
