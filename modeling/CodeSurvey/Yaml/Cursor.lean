import CodeSurvey.Yaml.Error

/-!
# Reading positions

A cursor is a place in a document together with the characters from there on.
-/

namespace CodeSurvey.Yaml

def isBreak (c : Char) : Bool :=
  c = '\n' || c = '\r' || c = '\x85' || c = '\u2028' || c = '\u2029'

def isBlank (c : Char) : Bool := c = ' ' || c = '\t'

/-- Characters of names: of anchors, directives and tag handles. -/
def isNameChar (c : Char) : Bool := c.isAlphanum || c = '_' || c = '-'

structure Cursor where
  mark : Mark
  rest : List Char
deriving Repr, Inhabited

namespace Cursor

def ofText (text : List Char) : Cursor := ⟨.start, text⟩

def peek? (c : Cursor) (n : Nat) : Option Char := c.rest[n]?

def atEnd (c : Cursor) : Bool := c.rest.isEmpty

/-- Does the next character pass the test? -/
def nextIs (c : Cursor) (test : Char → Bool) : Bool := (c.peek? 0).any test

/-- Is there a blank, a line break or nothing at all `n` characters further on? -/
def isGapAt (c : Cursor) (n : Nat) : Bool := (c.peek? n).all fun ch => isBlank ch || isBreak ch

/-- Past `n` characters of the same line. -/
def skip (c : Cursor) (n : Nat) : Cursor := ⟨c.mark.forward n, c.rest.drop n⟩

/-- The characters from here on that pass the test, and the cursor behind them. No line break may pass. -/
def takeWhile (c : Cursor) (test : Char → Bool) : List Char × Cursor :=
  let taken := c.rest.takeWhile test
  (taken, c.skip taken.length)

def skipWhile (c : Cursor) (test : Char → Bool) : Cursor := (c.takeWhile test).2

/-- A line break, as it is kept in text, and the cursor behind it. Where there is none, nothing. -/
def takeBreak (c : Cursor) : List Char × Cursor :=
  match c.rest with
  | '\r' :: '\n' :: rest => (['\n'], ⟨c.mark.nextLine 2, rest⟩)
  | ch :: rest =>
    if isBreak ch then
      let kept := if ch = '\u2028' || ch = '\u2029' then ch else '\n'
      ([kept], ⟨c.mark.nextLine 1, rest⟩)
    else ([], c)
  | [] => ([], c)

def skipBreak (c : Cursor) : Cursor := c.takeBreak.2

/-- Nothing comes back. -/
theorem length_skip_le (c : Cursor) (n : Nat) : (c.skip n).rest.length ≤ c.rest.length := by
  simp [skip]

/-- At least one character is left behind where there is one. -/
theorem length_skip_lt {c : Cursor} {ch : Char} {rest : List Char} (h : c.rest = ch :: rest) (n : Nat) :
    (c.skip (n + 1)).rest.length < c.rest.length := by
  simp only [skip, h, List.drop_succ_cons, List.length_drop, List.length_cons]
  omega

theorem length_skipWhile_le (c : Cursor) (test : Char → Bool) :
    (c.skipWhile test).rest.length ≤ c.rest.length :=
  length_skip_le ..

theorem length_skipBreak_le (c : Cursor) : c.skipBreak.rest.length ≤ c.rest.length := by
  unfold skipBreak takeBreak
  split
  next heq => simp only [heq, List.length_cons]; omega
  next heq => split <;> simp [heq]
  next => simp

/-- A line break takes at least one character. -/
theorem length_skipBreak_lt {c : Cursor} (h : c.nextIs isBreak) :
    c.skipBreak.rest.length < c.rest.length := by
  unfold skipBreak takeBreak
  split
  next heq => simp only [heq, List.length_cons]; omega
  next ch _ _ heq =>
    have hbreak : isBreak ch := by simpa [nextIs, peek?, heq] using h
    simp [hbreak, heq]
  next heq => simp [nextIs, peek?, heq] at h

/-- A line takes at least one character, its line break included. -/
theorem length_line_lt {c : Cursor} (h : !c.atEnd) :
    (c.skip (c.rest.takeWhile fun ch => !isBreak ch).length).skipBreak.rest.length < c.rest.length := by
  match hrest : c.rest with
  | [] => simp [atEnd, hrest] at h
  | ch :: rest =>
    rw [← hrest]
    by_cases hbreak : isBreak ch
    · have hline : (c.rest.takeWhile fun ch => !isBreak ch).length = 0 := by simp [hrest, hbreak]
      rw [hline]
      exact Nat.lt_of_lt_of_le (length_skipBreak_lt (by simp [nextIs, peek?, skip, hrest, hbreak]))
        (c.length_skip_le 0)
    · have hline : (c.rest.takeWhile fun ch => !isBreak ch).length =
          (rest.takeWhile fun ch => !isBreak ch).length + 1 := by simp [hrest, hbreak]
      rw [hline]
      exact Nat.lt_of_le_of_lt (length_skipBreak_le _) (length_skip_lt hrest _)

/-- A comment, if one starts here, up to the end of the line. -/
def skipComment (c : Cursor) : Cursor :=
  if c.nextIs (· = '#') then c.skipWhile fun ch => !isBreak ch else c

theorem length_skipComment_le (c : Cursor) : c.skipComment.rest.length ≤ c.rest.length := by
  unfold skipComment
  split
  next => exact c.length_skipWhile_le _
  next => exact Nat.le_refl _

/-- Blanks, and a comment after them if there is one, up to the end of the line. -/
def skipTrailer (c : Cursor) : Cursor := (c.skipWhile isBlank).skipComment

/-- Does a line start here with three of these characters on their own? -/
def isMarker (c : Cursor) (ch : Char) : Bool :=
  c.mark.column = 0 && (List.replicate 3 ch).isPrefixOf c.rest && c.isGapAt 3

/-- Does a line that starts or ends a document begin here? -/
def isDocumentMarker (c : Cursor) : Bool := c.isMarker '-' || c.isMarker '.'

end Cursor

/-- The space between two parts of a scalar. -/
inductive Gap where
  | spaces (text : List Char)
  /-- A first line break, and the line breaks after it. -/
  | breaks (first others : List Char)
deriving DecidableEq, Repr

namespace Gap

def isBreaks : Gap → Bool
  | breaks .. => true
  | spaces _ => false

/-- What a gap contributes to the text: a single line break becomes a space, and of several the first is
dropped. -/
def folded : Gap → List Char
  | spaces text => text
  | breaks first others =>
    if first = ['\n'] then if others = [] then [' '] else others else first ++ others

/-- Lines without text from here on, which is behind a line break: their own line breaks, and the cursor
behind the blanks that follow. A tab must not stand where indentation belongs, which is before column
`indent`; if one does, its place is given instead. -/
def readEmptyLines (indent : Nat) (c : Cursor) : Except Mark (List Char × Cursor) :=
  let blanks := c.rest.takeWhile isBlank
  let next := c.skip blanks.length
  match (blanks.take (indent - c.mark.column)).idxOf? '\t' with
  | some n => .error (c.mark.forward n)
  | none =>
    if _h : next.nextIs isBreak then
      match readEmptyLines indent next.skipBreak with
      | .error mark => .error mark
      | .ok (others, last) => .ok (next.takeBreak.1 ++ others, last)
    else .ok ([], next)
termination_by c.rest.length
decreasing_by exact Nat.lt_of_lt_of_le (Cursor.length_skipBreak_lt _h) (c.length_skip_le _)

theorem length_readEmptyLines_le {indent : Nat} {c last : Cursor} {others : List Char}
    (h : readEmptyLines indent c = .ok (others, last)) : last.rest.length ≤ c.rest.length := by
  fun_induction readEmptyLines indent c generalizing others last with
  | case1 => simp at h
  | case2 => simp at h
  | case3 c =>
    rename_i hread ih
    obtain ⟨-, rfl⟩ := Prod.mk.inj (Except.ok.inj h)
    exact Nat.le_trans (ih hread) (Nat.le_trans (Cursor.length_skipBreak_le _) (c.length_skip_le _))
  | case4 c =>
    obtain ⟨-, rfl⟩ := Prod.mk.inj (Except.ok.inj h)
    exact c.length_skip_le _

/-- The gap from here on, and the cursor behind it. Blanks count only if no line break comes. -/
def read (indent : Nat) (c : Cursor) : Except Mark (Gap × Cursor) :=
  let blanks := c.rest.takeWhile isBlank
  let next := c.skip blanks.length
  if next.nextIs isBreak then
    match readEmptyLines indent next.skipBreak with
    | .error mark => .error mark
    | .ok (others, last) => .ok (.breaks next.takeBreak.1 others, last)
  else .ok (.spaces blanks, next)

/-- A gap that starts with a blank or a line break takes at least one character. -/
theorem length_read_lt {indent : Nat} {c next : Cursor} {gap : Gap}
    (hstart : c.nextIs fun ch => isBlank ch || isBreak ch) (h : read indent c = .ok (gap, next)) :
    next.rest.length < c.rest.length := by
  simp only [read] at h
  split at h
  next hbreak =>
    split at h
    next => simp at h
    next hread =>
      obtain ⟨-, rfl⟩ := Prod.mk.inj (Except.ok.inj h)
      exact Nat.lt_of_le_of_lt (length_readEmptyLines_le hread)
        (Nat.lt_of_lt_of_le (Cursor.length_skipBreak_lt hbreak) (c.length_skip_le _))
  next hbreak =>
    obtain ⟨-, rfl⟩ := Prod.mk.inj (Except.ok.inj h)
    match hrest : c.rest with
    | [] => simp [Cursor.nextIs, Cursor.peek?, hrest] at hstart
    | ch :: rest =>
      rw [← hrest]
      by_cases hblank : isBlank ch
      · have hrun : (c.rest.takeWhile isBlank).length = (rest.takeWhile isBlank).length + 1 := by
          simp [hrest, hblank]
        rw [hrun]
        exact Cursor.length_skip_lt hrest _
      · have hrun : (c.rest.takeWhile isBlank).length = 0 := by simp [hrest, hblank]
        rw [hrun] at hbreak
        refine (hbreak ?_).elim
        simpa [Cursor.nextIs, Cursor.peek?, Cursor.skip, hrest, hblank] using hstart

end Gap

end CodeSurvey.Yaml
