import CodeSurvey.Yaml.Token

/-!
# Documents as tokens

Reads a text into tokens. Two things make this more than reading one token after another. Blocks are told
apart by indentation, so tokens that open and close them come in where the indentation changes. And a key
is known to be one only at the colon behind it: a place where a key may have started is kept in mind, and
the tokens for the key and for the block it opens are put in there later.
-/

namespace CodeSurvey.Yaml

/-- A place where a key may have started. -/
structure KeyStart where
  /-- How many tokens come before it. -/
  position : Nat
  /-- How many brackets and braces it stands in. -/
  depth : Nat
  mark : Mark
  /-- Is it an error if no colon follows? So it is where an entry of a mapping has to begin. -/
  required : Bool
deriving Repr

/-- A key stands on one line and is not too long. -/
def KeyStart.expired (here : Mark) (k : KeyStart) : Bool :=
  k.mark.line < here.line || k.mark.index + 1024 < here.index

structure Scan where
  cursor : Cursor
  /-- The tokens read so far, the latest first. -/
  tokens : List Placed
  /-- How many they are. -/
  count : Nat
  /-- The columns of the open blocks, innermost first. -/
  indents : List Nat
  /-- How many brackets and braces are open. -/
  depth : Nat
  /-- Where keys may have started, the latest first: at most one place for each depth. -/
  keyStarts : List KeyStart
  /-- May a key start here? -/
  keyAllowed : Bool

namespace Scan

def ofText (text : List Char) : Scan := ⟨.ofText text, [], 0, [], 0, [], true⟩

/-- Inside brackets or braces indentation means nothing. -/
def flow (s : Scan) : Bool := s.depth ≠ 0

def mark (s : Scan) : Mark := s.cursor.mark

/-- The column of the innermost block, past which the lines of a scalar have to start. -/
def indent? (s : Scan) : Option Nat := s.indents.head?

/-- Puts a token in behind the first `position` ones. -/
def insert (s : Scan) (position : Nat) (t : Token) (place : Mark) : Scan :=
  { s with tokens := s.tokens.insertIdx (s.count - position) ⟨t, place⟩, count := s.count + 1 }

def push (s : Scan) (t : Token) : Scan := s.insert s.count t s.mark

/-- Adds a token of `n` characters. -/
def pushWide (s : Scan) (t : Token) (n : Nat) : Scan :=
  { s.push t with cursor := s.cursor.skip n }

/-- Adds a token that has been read, and goes on behind it. -/
def pushRead (s : Scan) (t : Token) (next : Cursor) : Scan := { s.push t with cursor := next }

def allowKey (s : Scan) (allowed : Bool) : Scan := { s with keyAllowed := allowed }

/-! ## Keys -/

/-- Gives up some keys that were to have a colon, unless one of them has to. -/
def giveUp (here : Mark) (ks : List KeyStart) : Except Error Unit :=
  match ks.find? (·.required) with
  | some k => .error (.within .simpleKey k.mark .missingColon here)
  | none => .ok ()

/-- Gives up the keys that are not complete by now. They are the earliest ones. -/
def dropExpired (s : Scan) : Except Error Scan := do
  let alive := s.keyStarts.takeWhile fun k => !k.expired s.mark
  giveUp s.mark (s.keyStarts.drop alive.length)
  return { s with keyStarts := alive }

/-- Where a key may have started that the next token could belong to. -/
def keyStart? (s : Scan) : Option KeyStart := s.keyStarts.head?.filter (·.depth = s.depth)

/-- The keys that have been started outside of the innermost bracket or brace. -/
def outerKeyStarts (s : Scan) : List KeyStart := s.keyStarts.drop s.keyStart?.toList.length

/-- The token that comes next cannot belong to a key that has been started. -/
def dropKey (s : Scan) : Except Error Scan := do
  giveUp s.mark s.keyStart?.toList
  return { s with keyStarts := s.outerKeyStarts }

/-- The token that comes next may start a key. -/
def markKey (s : Scan) : Except Error Scan :=
  if s.keyAllowed then do
    let required := !s.flow && s.indent? = some s.mark.column
    let s ← s.dropKey
    return { s with keyStarts := ⟨s.count, s.depth, s.mark, required⟩ :: s.keyStarts }
  else .ok s

/-! ## Indentation -/

/-- Opens a block at a column to the right of the innermost one. Its token is put in at a position. -/
def openBlock (s : Scan) (position : Nat) (t : Token) (place : Mark) : Scan :=
  if !s.flow && s.indent?.all (· < place.column) then
    { s.insert position t place with indents := place.column :: s.indents }
  else s

/-- Opens a block here. -/
def openBlockHere (s : Scan) (t : Token) : Scan := s.openBlock s.count t s.mark

/-- Closes the blocks that lie to the right of a column; all of them, if there is none. -/
def closeBlocks (s : Scan) (column : Option Nat) : Scan :=
  if s.flow then s
  else
    let closed := s.indents.takeWhile fun i => column.all (· < i)
    { closed.foldl (fun s _ => s.push .blockEnd) s with indents := s.indents.drop closed.length }

/-! ## Single tokens -/

/-- Past blanks and a comment. A line may start with a byte order mark, which takes a column. A tab does not
count as a blank where it could be taken for indentation. -/
def skipGap (s : Scan) : Cursor :=
  let c := s.cursor.skip (if s.mark.column = 0 && s.cursor.nextIs (· = '\uFEFF') then 1 else 0)
  (c.skipWhile fun ch => ch = ' ' || ((s.flow || !s.keyAllowed) && ch = '\t')).skipComment

theorem length_skipGap_le (s : Scan) : s.skipGap.rest.length ≤ s.cursor.rest.length :=
  Nat.le_trans (Cursor.length_skipComment_le _)
    (Nat.le_trans (Cursor.length_skipWhile_le ..) (Cursor.length_skip_le ..))

/-- Goes on to the next token, over gaps and line breaks. -/
def toNextToken (s : Scan) : Scan :=
  if _h : s.skipGap.nextIs isBreak then
    toNextToken { s with cursor := s.skipGap.skipBreak, keyAllowed := s.keyAllowed || !s.flow }
  else { s with cursor := s.skipGap }
termination_by s.cursor.rest.length
decreasing_by exact Nat.lt_of_lt_of_le (Cursor.length_skipBreak_lt _h) s.length_skipGap_le

def documentMarker (s : Scan) (t : Token) : Except Error Scan := do
  return (← (s.closeBlocks none).dropKey).allowKey false |>.pushWide t 3

def directiveLine (s : Scan) : Except Error Scan := do
  let s := (← (s.closeBlocks none).dropKey).allowKey false
  let (token, next) ← directive s.cursor
  return s.pushRead token next

def openFlow (s : Scan) (t : Token) : Except Error Scan := do
  let s := (← s.markKey).pushWide t 1
  return { s with depth := s.depth + 1, keyAllowed := true }

def closeFlow (s : Scan) (t : Token) : Except Error Scan := do
  let s := ((← s.dropKey).allowKey false).pushWide t 1
  return { s with depth := s.depth - 1 }

def comma (s : Scan) : Except Error Scan := do
  return ((← s.dropKey).allowKey true).pushWide .comma 1

def dash (s : Scan) : Except Error Scan := do
  if !s.flow && !s.keyAllowed then throw (.plain .misplacedEntry s.mark)
  return ((← (s.openBlockHere .blockSequence).dropKey).allowKey true).pushWide .dash 1

def questionMark (s : Scan) : Except Error Scan := do
  if !s.flow && !s.keyAllowed then throw (.plain .misplacedKey s.mark)
  return ((← (s.openBlockHere .blockMapping).dropKey).allowKey (!s.flow)).pushWide .key 1

def colon (s : Scan) : Except Error Scan :=
  match s.keyStart? with
  | some k =>
    let s := { s.insert k.position .key k.mark with keyStarts := s.outerKeyStarts }
    .ok (((s.openBlock k.position .blockMapping k.mark).allowKey false).pushWide .value 1)
  | none =>
    if !s.flow && !s.keyAllowed then .error (.plain .misplacedValue s.mark)
    else .ok (((s.openBlockHere .blockMapping).allowKey (!s.flow)).pushWide .value 1)

/-- A token that may be a key, or the start of one. -/
def keyLike (s : Scan) (read : Cursor → Except Error (Token × Cursor)) : Except Error Scan := do
  let s := (← s.markKey).allowKey false
  let (token, next) ← read s.cursor
  return s.pushRead token next

def scalarToken (style : Style) (e : ScalarEnd) : Token := .scalar (String.ofList e.text) style

def quoted (s : Scan) (single : Bool) : Except Error Scan :=
  s.keyLike fun c => do
    let e ← quotedScalar single c
    return (scalarToken (if single then .singleQuoted else .doubleQuoted) e, e.next)

/-- A plain scalar that ends with a line may be followed by a key. -/
def plain (s : Scan) : Except Error Scan := do
  let s := (← s.markKey).allowKey false
  let e ← plainScalar s.flow ((s.indent?.map (· + 1)).getD 0) s.cursor
  return (s.pushRead (scalarToken .plain e) e.next).allowKey e.brokeLine

def block (s : Scan) (literal : Bool) : Except Error Scan := do
  let s := (← s.dropKey).allowKey true
  let e ← blockScalar literal s.indent? s.cursor
  return s.pushRead (scalarToken (if literal then .literal else .folded) e) e.next

/-- Characters that cannot begin a plain scalar unless what follows shows that they do. -/
def isIndicator (c : Char) : Bool := c ∈ "-?:,[]\x7b\x7d#&*!|>'\"%@`".toList

/-- Reads the token that starts with a character here. -/
def tokenFrom (s : Scan) (ch : Char) : Except Error Scan :=
  let gapNext := s.cursor.isGapAt 1
  if s.mark.column = 0 && ch = '%' then s.directiveLine
  else if s.cursor.isMarker '-' then s.documentMarker .documentStart
  else if s.cursor.isMarker '.' then s.documentMarker .documentEnd
  else if ch = '[' then s.openFlow .openBracket
  else if ch = '\x7b' then s.openFlow .openBrace
  else if ch = ']' then s.closeFlow .closeBracket
  else if ch = '\x7d' then s.closeFlow .closeBrace
  else if ch = ',' then s.comma
  else if ch = '-' && gapNext then s.dash
  else if ch = '?' && (s.flow || gapNext) then s.questionMark
  else if ch = ':' && (s.flow || gapNext) then s.colon
  else if ch = '*' then s.keyLike fun c => (anchorName .reference c).map fun (n, c) => (.reference n, c)
  else if ch = '&' then s.keyLike fun c => (anchorName .anchor c).map fun (n, c) => (.anchor n, c)
  else if ch = '!' then s.keyLike (tag s.flow)
  else if ch = '|' && !s.flow then s.block true
  else if ch = '>' && !s.flow then s.block false
  else if ch = '\'' then s.quoted true
  else if ch = '"' then s.quoted false
  else if (!isBlank ch && !isIndicator ch) || ch = '-' || (!s.flow && (ch = '?' || ch = ':')) then s.plain
  else .error (.within .nextToken s.mark .strangeCharacter s.mark)

/-- Ends the text. -/
def finish (s : Scan) : Except Error Scan := do
  let m := s.mark
  let s := if m.column = 0 then s else { s with cursor.mark.line := m.line + 1, cursor.mark.column := 0 }
  return (← (s.closeBlocks none).dropKey).push .streamEnd

/-- Goes on to the next token, past the ends of blocks. -/
def arrive (s : Scan) : Except Error Scan := do
  let here ← s.toNextToken.dropExpired
  return here.closeBlocks (some here.mark.column)

/-- The tokens that are certain: those before the first place where a key may have started. -/
def settled (s : Scan) : List Placed :=
  s.tokens.reverse.take ((s.keyStarts.getLast?.map (·.position)).getD s.count)

end Scan

/-- A text as tokens, as far as it could be read. -/
structure Tokens where
  placed : List Placed
  /-- Why it could not be read to its end, if it could not. -/
  failure : Option Error

namespace Tokens

/-- Reads tokens up to the end or to the first failure. Each of them takes a character, so a bound above the
length of the text is never met. -/
def scan : (bound : Nat) → Scan → Tokens
  | 0, s => ⟨s.tokens.reverse, none⟩
  | bound + 1, s =>
    match s.dropExpired with
    | .error e => ⟨s.settled, some e⟩
    | .ok ready =>
      match ready.arrive with
      | .error e => ⟨ready.settled, some e⟩
      | .ok here =>
        match here.cursor.peek? 0 with
        | none =>
          match here.finish with
          | .error e => ⟨ready.settled, some e⟩
          | .ok ended =>
            match ended.dropExpired with
            | .error e => ⟨ended.settled, some e⟩
            | .ok done => ⟨done.tokens.reverse, none⟩
        | some ch =>
          match here.tokenFrom ch with
          | .error e => ⟨ready.settled, some e⟩
          | .ok next => scan bound next

/-- Characters that a document may contain. -/
def isAllowed (c : Char) : Bool :=
  c = '\t' || c = '\n' || c = '\r' || (' ' ≤ c && c ≤ '~') || c = '\x85' ||
    ('\xA0' ≤ c && c ≠ '\uFFFE' && c ≠ '\uFFFF')

/-- The tokens of a text. A character that is not allowed leaves none; its place is told in bytes. -/
def ofText (text : List Char) : Tokens :=
  if text.all isAllowed then scan (text.length + 1) (.ofText text)
  else
    let before := (text.takeWhile isAllowed).foldl (fun n c => n + c.utf8Size) 0
    ⟨[], some (.plain .controlCharacter ⟨before, 0, 0⟩)⟩

end Tokens

end CodeSurvey.Yaml
