import CodeSurvey.Yaml.Cursor

/-!
# Scalars

The three ways to write a piece of text: plain, in quotes, and as an indented block. Line breaks inside a
plain or quoted scalar, and inside a folded block, become spaces.
-/

namespace CodeSurvey.Yaml

inductive Style where
  | plain
  | singleQuoted
  | doubleQuoted
  | literal
  | folded
deriving DecidableEq, Repr

/-! ## Plain scalars -/

/-- Characters that end a plain scalar inside brackets or braces. -/
def isFlowIndicator (c : Char) : Bool :=
  c = ',' || c = '[' || c = ']' || c = '\x7b' || c = '\x7d'

/-- Characters without gaps that belong to a plain scalar. A colon before a gap ends it, and inside brackets
or braces the characters that stand for structure do. -/
def plainRun (flow : Bool) : List Char → List Char
  | [] => []
  | c :: rest =>
    let gapNext := rest.head?.all fun n => isBlank n || isBreak n
    if isBlank c || isBreak c || (c = ':' && gapNext) || (flow && isFlowIndicator c) then []
    else c :: plainRun flow rest

/-- Inside brackets or braces, the first colon in a run that an indicator follows. -/
def badColon? : List Char → Option Nat
  | ':' :: c :: rest =>
    if isFlowIndicator c || c = '?' then some 0 else (badColon? (c :: rest)).map (· + 1)
  | _ :: rest => (badColon? rest).map (· + 1)
  | [] => none

/-- A scalar that has been read: its text, whether a line break follows it, and the cursor behind it. -/
structure ScalarEnd where
  text : List Char
  brokeLine : Bool
  next : Cursor

/-- With more text in front. -/
def ScalarEnd.after (e : ScalarEnd) (text : List Char) : ScalarEnd := { e with text := text ++ e.text }

/-- Reads a plain scalar on from `c`, before which `gap` stands. In a block its lines have to be indented to
column `indent`. -/
def plainFrom (flow : Bool) (indent : Nat) (start : Mark) (gap : Gap) (c : Cursor) :
    Except Error ScalarEnd :=
  let done : ScalarEnd := ⟨[], gap.isBreaks, c⟩
  if c.isDocumentMarker || c.nextIs (· = '#') then .ok done
  else
    let run := plainRun flow c.rest
    let after := c.skip run.length
    match if flow then badColon? (run ++ after.rest.take 2) else none with
    | some n =>
      if n < run.length then
        .error (.within .plainScalar start .colonInPlainScalar (c.mark.forward n))
      else .ok done
    | none =>
      if run = [] then .ok done
      else
        let text := gap.folded ++ run
        if _hgap : after.nextIs fun ch => isBlank ch || isBreak ch then
          match _hread : Gap.read indent after with
          | .error mark => .error (.within .plainScalar start .tabInPlainScalar mark)
          | .ok (gap, next) =>
            if !flow && next.mark.column < indent then .ok ⟨text, gap.isBreaks, next⟩
            else (plainFrom flow indent start gap next).map (·.after text)
        else .ok ⟨text, false, after⟩
termination_by c.rest.length
decreasing_by exact Nat.lt_of_lt_of_le (Gap.length_read_lt _hgap _hread) (c.length_skip_le _)

def plainScalar (flow : Bool) (indent : Nat) (c : Cursor) : Except Error ScalarEnd :=
  plainFrom flow indent c.mark (.spaces []) c

/-! ## Quoted scalars -/

/-- Characters that are written by a letter after a backslash. -/
def namedEscapes : List (Char × Char) :=
  [('0', '\x00'), ('a', '\x07'), ('b', '\x08'), ('t', '\t'), ('\t', '\t'), ('n', '\n'),
    ('v', '\x0B'), ('f', '\x0C'), ('r', '\r'), ('e', '\x1B'), (' ', ' '), ('"', '"'), ('/', '/'),
    ('\\', '\\'), ('N', '\x85'), ('_', '\xA0'), ('L', '\u2028'), ('P', '\u2029')]

/-- Letters after a backslash that begin a number in base 16, and how many digits it has. -/
def numberedEscapes : List (Char × Nat) := [('x', 2), ('u', 4), ('U', 8)]

/-- The value of a digit in base 16. -/
def hexDigit? (c : Char) : Option Nat :=
  if '0' ≤ c ∧ c ≤ '9' then some (c.toNat - '0'.toNat)
  else if 'a' ≤ c ∧ c ≤ 'f' then some (c.toNat - 'a'.toNat + 10)
  else if 'A' ≤ c ∧ c ≤ 'F' then some (c.toNat - 'A'.toNat + 10)
  else none

/-- The character that an escape at a backslash stands for, and how many characters it takes behind the
backslash. A problem is given with the number of characters before it: with numbers it is behind the
letter. -/
def escape (c : Cursor) : Except (Problem × Nat) (Char × Nat) :=
  match c.peek? 1 with
  | none => .error (.unknownEscape, 0)
  | some letter =>
    match namedEscapes.lookup letter, numberedEscapes.lookup letter with
    | some ch, _ => .ok (ch, 1)
    | none, none => .error (.unknownEscape, 0)
    | none, some n =>
      let digits := (c.rest.drop 2).take n
      match digits.mapM hexDigit? with
      | none => .error (.badEscapeNumber, 2)
      | some values =>
        if values.length < n then .error (.badEscapeNumber, 2)
        else
          let number := values.foldl (fun v d => v * 16 + d) 0
          if h : number.isValidChar then .ok (Char.ofNatAux number h, n + 1)
          else .error (.badEscapeCharacter, 2)

/-- Characters inside quotes that stand for themselves and are no gap. -/
def isOrdinary (single : Bool) (c : Char) : Bool :=
  !isBlank c && !isBreak c && if single then c ≠ '\'' else c ≠ '"' && c ≠ '\\'

/-- Reads a quoted scalar on from `c` behind its opening quote. -/
def quotedFrom (single : Bool) (start : Mark) (c : Cursor) : Except Error ScalarEnd :=
  let run := c.rest.takeWhile (isOrdinary single)
  let here := c.skip run.length
  if c.isDocumentMarker then .error (.within .quotedScalar start .markerInQuotes c.mark)
  else if _hgap : here.nextIs fun ch => isBlank ch || isBreak ch then
    match _hread : Gap.read 0 here with
    | .error mark => .error (.within .quotedScalar start .endInQuotes mark)
    | .ok (gap, next) => (quotedFrom single start next).map (·.after (run ++ gap.folded))
  else
    match _hrest : here.rest with
    | [] => .error (.within .quotedScalar start .endInQuotes here.mark)
    | ch :: rest =>
      if single then
        if rest.head? = some '\'' then
          (quotedFrom single start (here.skip 2)).map (·.after (run ++ ['\'']))
        else .ok ⟨run, false, here.skip 1⟩
      else if ch = '"' then .ok ⟨run, false, here.skip 1⟩
      else if rest.head?.any isBreak then
        match _hread : Gap.readEmptyLines 0 (here.skip 1).skipBreak with
        | .error mark => .error (.within .quotedScalar start .endInQuotes mark)
        | .ok (others, next) => (quotedFrom single start next).map (·.after (run ++ others))
      else
        match escape here with
        | .error (problem, n) => .error (.within .escape start problem (here.mark.forward n))
        | .ok (ch, n) => (quotedFrom single start (here.skip (n + 1))).map (·.after (run ++ [ch]))
termination_by c.rest.length
decreasing_by
  · exact Nat.lt_of_lt_of_le (Gap.length_read_lt _hgap _hread) (c.length_skip_le _)
  · exact Nat.lt_of_lt_of_le (Cursor.length_skip_lt _hrest _) (c.length_skip_le _)
  · exact Nat.lt_of_le_of_lt (Gap.length_readEmptyLines_le _hread)
      (Nat.lt_of_le_of_lt (Cursor.length_skipBreak_le _)
        (Nat.lt_of_lt_of_le (Cursor.length_skip_lt _hrest _) (c.length_skip_le _)))
  · exact Nat.lt_of_lt_of_le (Cursor.length_skip_lt _hrest _) (c.length_skip_le _)

def quotedScalar (single : Bool) (c : Cursor) : Except Error ScalarEnd :=
  quotedFrom single c.mark (c.skip 1)

/-! ## Block scalars -/

/-- What becomes of the line breaks at the end of a block. -/
inductive Chomping where
  | strip
  | clip
  | keep
deriving DecidableEq, Repr

/-- The header of a block: its chomping, and how far it is indented if it says so. -/
structure BlockHeader where
  chomping : Chomping
  increment : Option Nat
  next : Cursor

def chomping? (c : Cursor) : Option Chomping :=
  match c.peek? 0 with
  | some '+' => some .keep
  | some '-' => some .strip
  | _ => none

/-- A digit that tells how far a block is indented, and the cursor behind it. -/
def indentDigit? (c : Cursor) : Option Nat × Cursor :=
  match c.peek? 0 with
  | some ch => if ch.isDigit then (some (ch.toNat - '0'.toNat), c.skip 1) else (none, c)
  | none => (none, c)

/-- Reads the rest of the line that begins a block. Chomping and indentation may come in either order. -/
def blockHeader (start : Mark) (c : Cursor) : Except Error BlockHeader :=
  let (first, c1) := match chomping? c with
    | some k => (some k, c.skip 1)
    | none => (none, c)
  let (increment, c2) := indentDigit? c1
  let (second, c3) := match first, increment with
    | none, some _ =>
      match chomping? c2 with
      | some k => (some k, c2.skip 1)
      | none => (none, c2)
    | _, _ => (none, c2)
  let fail := fun problem mark => Except.error (Error.within .blockScalar start problem mark)
  if increment = some 0 then fail .zeroIndentation c1.mark
  else
    let next := c3.skipTrailer
    if !next.isGapAt 0 then fail .noCommentOrBreak next.mark
    else .ok ⟨(first <|> second).getD .clip, increment, next.skipBreak⟩

/-- Empty lines from here on: their line breaks, the furthest column reached, and the cursor behind them.
`indent` is the indentation of the block, or zero where it is still to be found out. -/
def blockBreaks (start : Mark) (indent : Nat) (widest : Nat) (c : Cursor) :
    Except Error (List Char × Nat × Cursor) :=
  let spaces := c.rest.takeWhile (· = ' ')
  let next := c.skip (if indent = 0 then spaces.length else min spaces.length (indent - c.mark.column))
  let widest := max widest next.mark.column
  if (indent = 0 || next.mark.column < indent) && next.nextIs (· = '\t') then
    .error (.within .blockScalar start .tabInBlockScalar next.mark)
  else if _h : next.nextIs isBreak then
    match blockBreaks start indent widest next.skipBreak with
    | .error e => .error e
    | .ok (others, widest, last) => .ok (next.takeBreak.1 ++ others, widest, last)
  else .ok ([], widest, next)
termination_by c.rest.length
decreasing_by exact Nat.lt_of_lt_of_le (Cursor.length_skipBreak_lt _h) (c.length_skip_le _)

theorem length_blockBreaks_le {start : Mark} {indent widest column : Nat} {breaks : List Char}
    {c last : Cursor} (h : blockBreaks start indent widest c = .ok (breaks, column, last)) :
    last.rest.length ≤ c.rest.length := by
  fun_induction blockBreaks start indent widest c generalizing breaks column last with
  | case1 => simp at h
  | case2 => simp at h
  | case3 =>
    rename_i hread ih
    obtain ⟨-, -, rfl⟩ := h
    exact Nat.le_trans (ih hread)
      (Nat.le_trans (Cursor.length_skipBreak_le _) (Cursor.length_skip_le ..))
  | case4 =>
    obtain ⟨-, -, rfl⟩ := h
    exact Cursor.length_skip_le ..

/-- A block that has been read: its text, the line break after it, the empty lines after that, and the
cursor behind it. -/
structure BlockEnd where
  text : List Char
  lastBreak : List Char
  emptyLines : List Char
  next : Cursor

/-- Reads the lines of a block that are indented to column `indent`. Before `c` stand the line break
`lastBreak`, which `afterBlank` tells to come after a line that began with a blank, and `emptyLines`. -/
def blockLines (literal : Bool) (start : Mark) (indent : Nat) (lastBreak emptyLines : List Char)
    (afterBlank : Bool) (c : Cursor) : Except Error BlockEnd :=
  if _h : c.mark.column = indent ∧ !c.atEnd then
    let blankHere := c.nextIs isBlank
    let folds := !literal && lastBreak = ['\n'] && !afterBlank && !blankHere
    let joint := if folds then (if emptyLines = [] then [' '] else []) else lastBreak
    let line := c.rest.takeWhile fun ch => !isBreak ch
    let after := c.skip line.length
    match _hread : blockBreaks start indent 0 after.skipBreak with
    | .error e => .error e
    | .ok (otherLines, _, next) =>
      (blockLines literal start indent after.takeBreak.1 otherLines blankHere next).map fun e =>
        { e with text := joint ++ emptyLines ++ line ++ e.text }
  else .ok ⟨[], lastBreak, emptyLines, c⟩
termination_by c.rest.length
decreasing_by exact Nat.lt_of_le_of_lt (length_blockBreaks_le _hread) (Cursor.length_line_lt _h.2)

/-- Reads a block scalar inside a block that is indented to column `outer`, if there is one. -/
def blockScalar (literal : Bool) (outer : Option Nat) (c : Cursor) : Except Error ScalarEnd := do
  let header ← blockHeader c.mark (c.skip 1)
  let given := header.increment.map fun n => outer.getD 0 + n
  let (emptyLines, widest, next) ← blockBreaks c.mark (given.getD 0) 0 header.next
  let least := max 1 (outer.map (· + 1) |>.getD 0)
  let indent := given.getD (max widest least)
  let e ← blockLines literal c.mark indent [] emptyLines false next
  let tail := match header.chomping with
    | .strip => []
    | .clip => e.lastBreak
    | .keep => e.lastBreak ++ e.emptyLines
  return ⟨e.text ++ tail, true, e.next⟩

end CodeSurvey.Yaml
