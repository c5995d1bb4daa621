import CodeSurvey.Pattern.Basic

/-!
# Matching

Among the ways a pattern can take text at one place, the first in order of preference is the match: left
alternatives before right ones, longer greedy runs before shorter ones. All ways are followed side by side,
character by character. Two ways that have the same left to match share their fate, so only the preferred
one of them is followed; that keeps the work at each character within the size of the pattern.
`Pattern.occurrences` lists the matches of a text from left to right; none overlap.
-/

namespace CodeSurvey

/-- The ends of groups that were passed, and where, the latest first. -/
abbrev Marks := List (GroupEnd × Cursor)

/-- A stretch of text that a pattern takes. -/
structure Match where
  start : Cursor
  stop : Cursor
  marks : Marks

namespace Match

/-- The text taken as a whole. -/
def text (m : Match) : List Char := m.start.textTo m.stop

/-- What the group with this number took, if it took part in the match. -/
def group? (m : Match) (number : Nat) : Option (List Char) := do
  let stop ← m.marks.lookup (.closes number)
  let start ← m.marks.lookup (.opens number)
  return start.textTo stop

end Match

/-- What a pattern can do at a place. -/
inductive Way where
  /-- It is through without taking anything. -/
  | passes (marks : Marks)
  /-- It takes the next character, and the rest of it is left to match. -/
  | takes (rest : Pattern) (marks : Marks)

namespace Pattern

/-- All a pattern can do at a place, in order of preference. -/
def ways (here : Cursor) : Pattern → Marks → List Way
  | empty, marks => [.passes marks]
  | one cls, marks => if here.rest.head?.any cls.mem then [.takes empty marks] else []
  | run cls least greedy, marks =>
    let more : List Way :=
      if here.rest.head?.any cls.mem then [.takes (run cls (least - 1) greedy) marks] else []
    if least ≠ 0 then more
    else if greedy then more ++ [.passes marks]
    else .passes marks :: more
  | cat p q, marks =>
    (ways here p marks).flatMap fun
      | .passes marks => ways here q marks
      | .takes rest marks => [.takes (rest ++ q) marks]
  | either p q, marks => ways here p marks ++ ways here q marks
  | many p, marks =>
    ((ways here p marks).filterMap fun
      | .passes _ => none
      | .takes rest marks => some (.takes (rest ++ many p) marks)) ++ [.passes marks]
  | mark e, marks => [.passes ((e, here) :: marks)]
  | test a, marks => if a.holds here then [.passes marks] else []

end Pattern

/-- A way that is being followed: where it started, and what is left of the pattern. -/
structure Thread where
  start : Cursor
  rest : Pattern
  marks : Marks

namespace Thread

/-- Adds the ways a thread can go on to those already there, which are in reverse order of preference. A
way that ends in a match makes all later ones void. -/
def branch (here start : Cursor) : List Way → List Thread → List Thread × Option Match
  | [], threads => (threads, none)
  | .passes marks :: _, threads => (threads, some ⟨start, here, marks⟩)
  | .takes rest marks :: ways, threads =>
    branch here start ways
      (if threads.any (·.rest = rest) then threads else ⟨start, rest, marks⟩ :: threads)

/-- Takes threads, given in order of preference, over the next character. -/
def advance (here : Cursor) : List Thread → List Thread → List Thread × Option Match
  | [], next => (next, none)
  | t :: ts, next =>
    match branch here t.start (t.rest.ways here t.marks) next with
    | (next, none) => advance here ts next
    | (next, some m) => (next, some m)

end Thread

namespace Pattern

/-- Characters that every match has. -/
def required : Pattern → List Char
  | one (.exactly c) => [c]
  | cat p q => required p ++ required q
  | _ => []

/-- A text that lacks a character that every match has need not be searched. -/
def isHopeless (p : Pattern) (s : List Char) : Bool := p.required.any fun c => !s.contains c

/-- Follows threads through a text. While there is no match, one more thread starts at each place; once
there is one, only threads preferred to it go on. -/
def follow (p : Pattern) : (rest : List Char) → Cursor → List Thread → Option Match → Option Match
  | rest, here, threads, found =>
    let threads := if found.isSome then threads else threads ++ [⟨here, p, []⟩]
    let (next, better) := Thread.advance here threads []
    let found := better.or found
    match rest with
    | [] => found
    | c :: cs =>
      if next.isEmpty && found.isSome then found
      else follow p cs (here.step c cs) next.reverse found

/-- The leftmost match at or after a place. -/
def findFrom? (p : Pattern) (here : Cursor) : Option Match := p.follow here.rest here [] none

/-- The leftmost match. -/
def find? (p : Pattern) (s : List Char) : Option Match :=
  if p.isHopeless s then none else p.findFrom? (Cursor.start s)

def occursIn (p : Pattern) (s : List Char) : Bool := (p.find? s).isSome

/-- At most `bound` matches, each at or after the end of the one before. An empty match moves on by one
character. -/
def matchesFrom (p : Pattern) : (bound : Nat) → Cursor → List Match
  | 0, _ => []
  | bound + 1, here =>
    match p.findFrom? here with
    | none => []
    | some m =>
      m ::
        if m.start.offset < m.stop.offset then matchesFrom p bound m.stop
        else
          match m.stop.rest with
          | [] => []
          | c :: cs => matchesFrom p bound (m.stop.step c cs)

/-- The matches of a text from left to right. -/
def occurrences (p : Pattern) (s : List Char) : List Match :=
  if p.isHopeless s then [] else p.matchesFrom (s.length + 1) (Cursor.start s)

def count (p : Pattern) (s : List Char) : Nat := (p.occurrences s).length

/-- What group `number` took in each match in which it took part. -/
def groupIn (p : Pattern) (number : Nat) (s : List Char) : List (List Char) :=
  (p.occurrences s).filterMap (·.group? number)

end Pattern

end CodeSurvey
