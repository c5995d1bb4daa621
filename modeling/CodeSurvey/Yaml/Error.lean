/-!
# Errors in YAML documents

Where something is in a document, and what can be wrong with it. A message tells the problem and its place
first, and then what was being read when it came up.
-/

namespace CodeSurvey.Yaml

/-- A place in a document, counted in characters from zero. -/
structure Mark where
  index : Nat
  line : Nat
  column : Nat
deriving DecidableEq, Repr, Inhabited

namespace Mark

def start : Mark := ⟨0, 0, 0⟩

/-- Past some characters of one line. -/
def forward (m : Mark) (n : Nat) : Mark := ⟨m.index + n, m.line, m.column + n⟩

/-- Past a line break of so many characters. -/
def nextLine (m : Mark) (n : Nat) : Mark := ⟨m.index + n, m.line + 1, 0⟩

/-- The place as a message tells it: by line and column, or by the index alone where these are not known.
The start of a document goes without saying. -/
def text (m : Mark) : String :=
  if m.line = 0 && m.column = 0 then
    if m.index = 0 then "" else " at position " ++ toString m.index
  else " at line " ++ toString (m.line + 1) ++ " column " ++ toString (m.column + 1)

end Mark

/-- What is wrong with a document. -/
inductive Problem where
  | controlCharacter
  | missingColon
  | misplacedEntry
  | misplacedKey
  | misplacedValue
  | strangeCharacter
  | unknownDirective
  | noDirectiveName
  | badDirectiveName
  | noVersionDot
  | noVersionNumber
  | longVersionNumber
  | duplicateVersion
  | incompatibleVersion
  | duplicateTagPrefix
  | noSpace
  | noSpaceOrBreak
  | noCommentOrBreak
  | noTagMark
  | noTagText
  | noTagEnd
  | badTagEscape
  | badLeadingOctet
  | badTrailingOctet
  | undefinedTagHandle
  | noAnchorName
  | zeroIndentation
  | tabInBlockScalar
  | tabInPlainScalar
  | colonInPlainScalar
  | markerInQuotes
  | endInQuotes
  | unknownEscape
  | badEscapeNumber
  | badEscapeCharacter
  | noDocumentStart
  | noContent
  | noDash
  | noKey
  | unclosedSequence
  | unclosedMapping
  | unknownAnchor
deriving DecidableEq, Repr

def Problem.text : Problem → String
  | controlCharacter => "control characters are not allowed"
  | missingColon => "could not find expected ':'"
  | misplacedEntry => "block sequence entries are not allowed in this context"
  | misplacedKey => "mapping keys are not allowed in this context"
  | misplacedValue => "mapping values are not allowed in this context"
  | strangeCharacter => "found character that cannot start any token"
  | unknownDirective => "found unknown directive name"
  | noDirectiveName => "could not find expected directive name"
  | badDirectiveName => "found unexpected non-alphabetical character"
  | noVersionDot => "did not find expected digit or '.' character"
  | noVersionNumber => "did not find expected version number"
  | longVersionNumber => "found extremely long version number"
  | duplicateVersion => "found duplicate %YAML directive"
  | incompatibleVersion => "found incompatible YAML document"
  | duplicateTagPrefix => "found duplicate %TAG directive"
  | noSpace => "did not find expected whitespace"
  | noSpaceOrBreak => "did not find expected whitespace or line break"
  | noCommentOrBreak => "did not find expected comment or line break"
  | noTagMark => "did not find expected '!'"
  | noTagText => "did not find expected tag URI"
  | noTagEnd => "did not find the expected '>'"
  | badTagEscape => "did not find URI escaped octet"
  | badLeadingOctet => "found an incorrect leading UTF-8 octet"
  | badTrailingOctet => "found an incorrect trailing UTF-8 octet"
  | undefinedTagHandle => "found undefined tag handle"
  | noAnchorName => "did not find expected alphabetic or numeric character"
  | zeroIndentation => "found an indentation indicator equal to 0"
  | tabInBlockScalar => "found a tab character where an indentation space is expected"
  | tabInPlainScalar => "found a tab character that violates indentation"
  | colonInPlainScalar => "found unexpected ':'"
  | markerInQuotes => "found unexpected document indicator"
  | endInQuotes => "found unexpected end of stream"
  | unknownEscape => "found unknown escape character"
  | badEscapeNumber => "did not find expected hexadecimal number"
  | badEscapeCharacter => "found invalid Unicode character escape code"
  | noDocumentStart => "did not find expected <document start>"
  | noContent => "did not find expected node content"
  | noDash => "did not find expected '-' indicator"
  | noKey => "did not find expected key"
  | unclosedSequence => "did not find expected ',' or ']'"
  | unclosedMapping => "did not find expected ',' or '\x7d'"
  | unknownAnchor => "unknown anchor"

/-- What is being read when a problem comes up. -/
inductive Context where
  | simpleKey
  | nextToken
  | directive
  | versionDirective
  | tagDirective
  | tagHandle
  | tagHandleEnd
  | directiveTagText
  | tag
  | tagText
  | anchor
  | reference
  | blockScalar
  | quotedScalar
  | escape
  | plainScalar
  | node
  | blockNode
  | flowNode
  | blockSequence
  | blockMapping
  | flowSequence
  | flowMapping
deriving DecidableEq, Repr

def Context.text : Context → String
  | simpleKey => "while scanning a simple key"
  | nextToken => "while scanning for the next token"
  | directive => "while scanning a directive"
  | versionDirective => "while scanning a %YAML directive"
  | tagDirective => "while scanning a %TAG directive"
  | tagHandle => "while scanning a tag directive"
  | tagHandleEnd => "while parsing a tag directive"
  | directiveTagText => "while parsing a %TAG directive"
  | tag => "while scanning a tag"
  | tagText => "while parsing a tag"
  | anchor => "while scanning an anchor"
  | reference => "while scanning an alias"
  | blockScalar => "while scanning a block scalar"
  | quotedScalar => "while scanning a quoted scalar"
  | escape => "while parsing a quoted scalar"
  | plainScalar => "while scanning a plain scalar"
  | node => "while parsing a node"
  | blockNode => "while parsing a block node"
  | flowNode => "while parsing a flow node"
  | blockSequence => "while parsing a block collection"
  | blockMapping => "while parsing a block mapping"
  | flowSequence => "while parsing a flow sequence"
  | flowMapping => "while parsing a flow mapping"

structure Error where
  problem : Problem
  mark : Mark
  context : Option (Context × Mark)
deriving DecidableEq, Repr

namespace Error

/-- A problem that came up while something that starts at `start` was being read. -/
def within (context : Context) (start : Mark) (problem : Problem) (mark : Mark) : Error :=
  ⟨problem, mark, some (context, start)⟩

/-- A problem that speaks for itself. -/
def plain (problem : Problem) (mark : Mark) : Error := ⟨problem, mark, none⟩

def message (e : Error) : String :=
  e.problem.text ++ e.mark.text ++
    match e.context with
    | none => ""
    | some (context, start) => ", " ++ context.text ++ if start = e.mark then "" else start.text

end Error

end CodeSurvey.Yaml
