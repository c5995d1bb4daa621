import CodeSurvey.Text.Utf8
import CodeSurvey.Yaml.Scalar

/-!
# Tokens

The smallest parts of a document that mean something, and how those among them are read that are neither
single characters nor scalars: directives, anchors and tags. Where the structure of blocks follows from
indentation alone it has tokens as well, which `Yaml.Tokens` puts in.
-/

namespace CodeSurvey.Yaml

inductive Token where
  | version (major minor : Nat)
  /-- What a tag handle stands for in the document to come. -/
  | handle (name stem : String)
  | documentStart
  | documentEnd
  | blockSequence
  | blockMapping
  | blockEnd
  | openBracket
  | closeBracket
  | openBrace
  | closeBrace
  | comma
  /-- The dash before an element of a sequence. -/
  | dash
  /-- Comes before the key of a mapping, whether a question mark is written there or not. -/
  | key
  /-- The colon before a value of a mapping. -/
  | value
  | reference (name : String)
  | anchor (name : String)
  | tag (handle suffix : String)
  | scalar (text : String) (style : Style)
  | streamEnd
deriving DecidableEq, Repr

/-- A token, and where it starts. -/
structure Placed where
  token : Token
  mark : Mark
deriving DecidableEq, Repr

/-! ## Tags -/

def isTagChar (c : Char) : Bool := isNameChar c || c ∈ ";/?:@&=+$.%!~*'()".toList

/-- Characters of a tag in angle brackets, and of what a handle stands for. -/
def isVerbatimTagChar (c : Char) : Bool := isTagChar c || c = ',' || c = '[' || c = ']'

/-- How many bytes a character has that starts with this byte. -/
def octets? (first : Nat) : Option Nat :=
  if first < 0x80 then some 1
  else if first / 0x20 = 0x6 then some 2
  else if first / 0x10 = 0xE then some 3
  else if first / 0x8 = 0x1E then some 4
  else none

/-- The bytes of a tag in which any byte may be written as a percent sign and two digits. `missing` bytes
of the last character are still to come, and have to be written that way. A problem is given with the
number of characters before it. -/
def tagBytes (missing : Nat) : List Char → Except (Problem × Nat) (List UInt8)
  | [] => if missing = 0 then .ok [] else .error (.badTagEscape, 0)
  | '%' :: a :: b :: rest =>
    match hexDigit? a, hexDigit? b with
    | some hi, some lo =>
      let octet := hi * 16 + lo
      let after (missing : Nat) : Except (Problem × Nat) (List UInt8) :=
        match tagBytes missing rest with
        | .ok bytes => .ok (UInt8.ofNat octet :: bytes)
        | .error (problem, n) => .error (problem, n + 3)
      if missing = 0 then
        match octets? octet with
        | some n => after (n - 1)
        | none => .error (.badLeadingOctet, 0)
      else if octet / 0x40 = 0x2 then after (missing - 1)
      else .error (.badTrailingOctet, 0)
    | _, _ => .error (.badTagEscape, 0)
  | c :: rest =>
    if missing ≠ 0 || c = '%' then .error (.badTagEscape, 0)
    else
      match tagBytes 0 rest with
      | .ok bytes => .ok (UInt8.ofNat c.toNat :: bytes)
      | .error (problem, n) => .error (problem, n + 1)

/-- Characters of a tag from here on, after some that have been read. There must be one in all. A null
character, which can only be written by number, ends the tag for all purposes. -/
def tagText (context : Context) (start : Mark) (test : Char → Bool) (before : List Char) (c : Cursor) :
    Except Error (String × Cursor) :=
  let (run, next) := c.takeWhile test
  match tagBytes 0 run with
  | .error (problem, n) => .error (.within context start problem (c.mark.forward n))
  | .ok bytes =>
    if before = [] && run = [] then .error (.within context start .noTagText next.mark)
    else
      let text := before.drop 1 ++ Text.decode bytes
      .ok (String.ofList (text.takeWhile (· ≠ '\x00')), next)

/-- An exclamation mark, a name after it, and another exclamation mark if there is one. -/
def tagHandle (c : Cursor) : List Char × Cursor :=
  let (name, next) := (c.skip 1).takeWhile isNameChar
  if next.nextIs (· = '!') then ('!' :: name ++ ['!'], next.skip 1) else ('!' :: name, next)

/-- Reads a tag. It is a handle and a suffix, a suffix alone, or a text in angle brackets. -/
def tag (flow : Bool) (c : Cursor) : Except Error (Token × Cursor) := do
  let start := c.mark
  let (token, next) ←
    if c.peek? 1 = some '<' then do
      let (text, next) ← tagText .tagText start isVerbatimTagChar [] (c.skip 2)
      if !next.nextIs (· = '>') then throw (.within .tag start .noTagEnd next.mark)
      pure (Token.tag "" text, next.skip 1)
    else
      let (name, next) := tagHandle c
      if 1 < name.length && name.getLast? = some '!' then do
        let (suffix, next) ← tagText .tagText start isTagChar [] next
        pure (Token.tag (String.ofList name) suffix, next)
      else do
        let (suffix, next) ← tagText .tagText start isTagChar name next
        pure (if suffix = "" then Token.tag "" "!" else Token.tag "!" suffix, next)
  if !next.isGapAt 0 && !(flow && next.nextIs (· = ',')) then
    throw (.within .tag start .noSpaceOrBreak next.mark)
  return (token, next)

/-! ## Anchors -/

/-- The name of an anchor or an alias, behind the character that announces it. -/
def anchorName (context : Context) (c : Cursor) : Except Error (String × Cursor) :=
  let (name, next) := (c.skip 1).takeWhile isNameChar
  if name = [] || !(next.isGapAt 0 || next.nextIs (· ∈ "?:,]\x7d%@`".toList)) then
    .error (.within context c.mark .noAnchorName next.mark)
  else .ok (String.ofList name, next)

/-! ## Directives -/

/-- The longest number in a version. -/
def maxVersionDigits : Nat := 9

def versionNumber (start : Mark) (c : Cursor) : Except Error (Nat × Cursor) :=
  let (digits, next) := c.takeWhile Char.isDigit
  if maxVersionDigits < digits.length then
    .error (.within .versionDirective start .longVersionNumber (c.mark.forward maxVersionDigits))
  else if digits = [] then .error (.within .versionDirective start .noVersionNumber c.mark)
  else .ok (digits.foldl (fun n d => n * 10 + (d.toNat - '0'.toNat)) 0, next)

def versionDirective (start : Mark) (c : Cursor) : Except Error (Token × Cursor) := do
  let (major, next) ← versionNumber start (c.skipWhile isBlank)
  if !next.nextIs (· = '.') then
    throw (.within .versionDirective start .noVersionDot next.mark)
  let (minor, next) ← versionNumber start (next.skip 1)
  return (.version major minor, next)

def handleDirective (start : Mark) (c : Cursor) : Except Error (Token × Cursor) := do
  let c := c.skipWhile isBlank
  if !c.nextIs (· = '!') then throw (.within .tagHandle start .noTagMark c.mark)
  let (name, next) := tagHandle c
  if 1 < name.length && name.getLast? ≠ some '!' then
    throw (.within .tagHandleEnd start .noTagMark next.mark)
  if !next.nextIs isBlank then throw (.within .tagDirective start .noSpace next.mark)
  let (stem, next) ←
    tagText .directiveTagText start isVerbatimTagChar [] (next.skipWhile isBlank)
  if !next.isGapAt 0 then throw (.within .tagDirective start .noSpaceOrBreak next.mark)
  return (.handle (String.ofList name) stem, next)

/-- Reads a directive, which takes the whole line. -/
def directive (c : Cursor) : Except Error (Token × Cursor) := do
  let start := c.mark
  let (name, next) := (c.skip 1).takeWhile isNameChar
  if name = [] then throw (.within .directive start .noDirectiveName next.mark)
  if !next.isGapAt 0 then throw (.within .directive start .badDirectiveName next.mark)
  let (token, next) ←
    if name = "YAML".toList then versionDirective start next
    else if name = "TAG".toList then handleDirective start next
    else throw (.within .directive start .unknownDirective next.mark)
  let next := next.skipTrailer
  if !next.isGapAt 0 then throw (.within .directive start .noCommentOrBreak next.mark)
  return (token, next.skipBreak)

end CodeSurvey.Yaml
