import CodeSurvey.SortedMap
import CodeSurvey.Yaml.Tokens

/-!
# Documents as trees

A node is a scalar, a sequence or a mapping, or stands for a node named elsewhere. `Document.ofTokens`
builds the tree of a document out of its tokens. Where the tokens break off or fit no longer, the tree is
closed with a node that says so, so that what was read before can still be used.
-/

namespace CodeSurvey.Yaml

inductive Node where
  | scalar (mark : Mark) (tag : Option String) (style : Style) (text : String)
  | sequence (mark : Mark) (items : List Node)
  | mapping (mark : Mark) (entries : List (Node × Node))
  /-- The node with this number among those that have a name. -/
  | reference (number : Nat)
  /-- Reading failed here. -/
  | unfinished
deriving Repr, Inhabited

/-! ## Open collections -/

/-- What may come next in an open collection. -/
inductive Expected where
  | blockItem
  /-- An element of a sequence that is not indented against the mapping around it. -/
  | plainItem
  | blockKey
  | blockValue
  | flowItem (first : Bool)
  /-- A mapping of one key may stand in brackets without braces of its own. -/
  | pairKey
  | pairValue
  | pairEnd
  | flowKey (first : Bool)
  | flowValue
  /-- A key without a colon has no value. -/
  | noValue
deriving DecidableEq, Repr

/-- A sequence or mapping of which some parts have been read. -/
structure Collection where
  isMapping : Bool
  /-- Where the node starts, its properties included. -/
  mark : Mark
  /-- Where its first bracket, brace, dash or key is. -/
  opened : Mark
  /-- Its number, if it has a name. -/
  number : Option Nat
  expected : Expected
  /-- Elements, or keys and values in turn, in reverse order. -/
  parts : List Node

namespace Collection

/-- Keys and values in turn as entries. -/
def pairs : List Node → List (Node × Node)
  | [] => []
  | [k] => [(k, .unfinished)]
  | k :: v :: rest => (k, v) :: pairs rest

def node (c : Collection) : Node :=
  if c.isMapping then .mapping c.mark (pairs c.parts.reverse) else .sequence c.mark c.parts.reverse

end Collection

/-! ## Building -/

structure Builder where
  ahead : List Placed
  /-- Why the tokens end early, if they do. -/
  failure : Option Error
  /-- What tag handles stand for. -/
  handles : List (String × String)
  /-- Innermost first. -/
  opened : List Collection
  /-- What number each name has been given last. -/
  names : SortedMap String Nat
  /-- Nodes that have a name, by number, the latest first. -/
  named : List (Nat × Node)
  root : Option Node

namespace Builder

def outOfTokens (b : Builder) : Error := b.failure.getD (.plain .noContent .start)

/-- The next token. -/
def peek (b : Builder) : Except Error Placed :=
  match b.ahead with
  | t :: _ => .ok t
  | [] => .error b.outOfTokens

/-- Past the next token. -/
def skip (b : Builder) : Builder := { b with ahead := b.ahead.drop 1 }

/-- What the innermost collection expects from now on. -/
def expect (b : Builder) (e : Expected) : Builder :=
  match b.opened with
  | c :: cs => { b with opened := { c with expected := e } :: cs }
  | [] => b

/-- Puts a finished node where it belongs. -/
def add (b : Builder) (number : Option Nat) (n : Node) : Builder :=
  let b := match number with
    | some i => { b with named := (i, n) :: b.named }
    | none => b
  match b.opened with
  | c :: cs => { b with opened := { c with parts := n :: c.parts } :: cs }
  | [] => { b with root := some n }

/-- Closes the innermost collection. -/
def close (b : Builder) : Builder :=
  match b.opened with
  | c :: cs => { b with opened := cs }.add c.number c.node
  | [] => b

/-- A scalar that is not there. -/
def addEmpty (b : Builder) (mark : Mark) : Builder := b.add none (.scalar mark none .plain "")

/-- Gives a name a number: how many names there are already. -/
def declare (b : Builder) (name : Option String) : Option Nat × Builder :=
  match name with
  | none => (none, b)
  | some name =>
    let number := b.names.size
    (some number, { b with names := b.names.insert name number })

/-- What may stand before a node: a name and a tag, in either order, once each. -/
structure Properties where
  anchor : Option String
  tag : Option (String × String × Mark)

def properties (b : Builder) : Except Error (Properties × Builder) := do
  match ← b.peek with
  | ⟨.anchor name, _⟩ =>
    let b := b.skip
    match ← b.peek with
    | ⟨.tag handle suffix, m⟩ => return (⟨some name, some (handle, suffix, m)⟩, b.skip)
    | _ => return (⟨some name, none⟩, b)
  | ⟨.tag handle suffix, m⟩ =>
    let b := b.skip
    match ← b.peek with
    | ⟨.anchor name, _⟩ => return (⟨some name, some (handle, suffix, m)⟩, b.skip)
    | _ => return (⟨none, some (handle, suffix, m)⟩, b)
  | _ => return (⟨none, none⟩, b)

/-- A tag in full. -/
def resolveTag (b : Builder) (start : Mark) :
    Option (String × String × Mark) → Except Error (Option String)
  | none => .ok none
  | some ("", suffix, _) => .ok (some suffix)
  | some (handle, suffix, m) =>
    match b.handles.lookup handle with
    | some stem => .ok (some (stem ++ suffix))
    | none => .error (.within .node start .undefinedTagHandle m)

/-- Opens a collection that starts with the next token, which is consumed with its first part. -/
def openCollection (b : Builder) (mark opened : Mark) (anchor : Option String) (isMapping : Bool)
    (e : Expected) : Builder :=
  let (number, b) := b.declare anchor
  { b with opened := ⟨isMapping, mark, opened, number, e, []⟩ :: b.opened }

/-- Reads a node, up to its first part if it is a collection. `block` tells whether it may be a block, and
`unindented` whether it may be a sequence that is not indented. -/
def node (b : Builder) (block unindented : Bool) : Except Error Builder := do
  let ⟨token, start⟩ ← b.peek
  match token with
  | .reference name =>
    match b.names.get? name with
    | some number => return b.skip.add none (.reference number)
    | none => throw (.plain .unknownAnchor start)
  | _ =>
    let (p, b) ← b.properties
    let tag ← b.resolveTag start p.tag
    let ⟨token, here⟩ ← b.peek
    let collection (isMapping : Bool) (e : Expected) (b : Builder) : Builder :=
      b.openCollection start here p.anchor isMapping e
    match token with
    | .scalar text style =>
      let (number, b) := b.skip.declare p.anchor
      return b.add number (.scalar start tag style text)
    | .openBracket => return collection false (.flowItem true) b.skip
    | .openBrace => return collection true (.flowKey true) b.skip
    | _ =>
      if unindented && token = .dash then return collection false .plainItem b
      else if block && token = .blockSequence then return collection false .blockItem b.skip
      else if block && token = .blockMapping then return collection true .blockKey b.skip
      else if p.anchor.isSome || tag.isSome then
        let (number, b) := b.declare p.anchor
        return b.add number (.scalar start tag .plain "")
      else throw (.within (if block then .blockNode else .flowNode) start .noContent here)

/-- A node, or an empty scalar if the next token is one of those that may follow it. -/
def nodeUnless (b : Builder) (ends : List Token) (block unindented : Bool) : Except Error Builder := do
  let t ← b.peek
  if t.token ∈ ends then return b.addEmpty t.mark else b.node block unindented

/-- The next part of the innermost collection, or its end. -/
def step (b : Builder) (c : Collection) : Except Error Builder := do
  let t ← b.peek
  let wrong (context : Context) (problem : Problem) : Except Error Builder :=
    .error (.within context c.opened problem t.mark)
  match c.expected, t.token with
  | .blockItem, .dash => b.skip.nodeUnless [.dash, .blockEnd] true false
  | .blockItem, .blockEnd => return b.skip.close
  | .blockItem, _ => wrong .blockSequence .noDash
  | .plainItem, .dash => b.skip.nodeUnless [.dash, .key, .value, .blockEnd] true false
  | .plainItem, _ => return b.close
  | .blockKey, .key =>
    (b.skip.expect .blockValue).nodeUnless [.key, .value, .blockEnd] true true
  | .blockKey, .blockEnd => return b.skip.close
  | .blockKey, _ => wrong .blockMapping .noKey
  | .blockValue, .value =>
    (b.skip.expect .blockKey).nodeUnless [.key, .value, .blockEnd] true true
  | .blockValue, _ => return (b.expect .blockKey).addEmpty t.mark
  | .flowItem _, .closeBracket => return b.skip.close
  | .flowItem first, token =>
    if !first && token ≠ .comma then wrong .flowSequence .unclosedSequence
    else
      let b := if first then b else b.skip
      let t ← b.peek
      match t.token with
      | .key => return (b.skip.expect (.flowItem false)).openCollection t.mark t.mark none true .pairKey
      | .closeBracket => return b.skip.close
      | _ => (b.expect (.flowItem false)).node false false
  | .pairKey, token =>
    let b := b.expect .pairValue
    if token ∈ [.value, .comma, .closeBracket] then return b.skip.addEmpty t.mark
    else b.node false false
  | .pairValue, .value => (b.skip.expect .pairEnd).nodeUnless [.comma, .closeBracket] false false
  | .pairValue, _ => return (b.expect .pairEnd).addEmpty t.mark
  | .pairEnd, _ => return b.close
  | .flowKey _, .closeBrace => return b.skip.close
  | .flowKey first, token =>
    if !first && token ≠ .comma then wrong .flowMapping .unclosedMapping
    else
      let b := if first then b else b.skip
      let t ← b.peek
      match t.token with
      | .key => (b.skip.expect .flowValue).nodeUnless [.value, .comma, .closeBrace] false false
      | .closeBrace => return b.skip.close
      | _ => (b.expect .noValue).node false false
  | .flowValue, .value => (b.skip.expect (.flowKey false)).nodeUnless [.comma, .closeBrace] false false
  | .flowValue, _ => return (b.expect (.flowKey false)).addEmpty t.mark
  | .noValue, _ => return (b.expect (.flowKey false)).addEmpty t.mark

/-- Closes everything that is open, after a node that tells that there should be more. -/
def abandon (b : Builder) : Builder := b.opened.foldl (fun b _ => b.close) (b.add none .unfinished)

/-- Takes steps until nothing is open. `fuel` bounds their number. -/
def run (fuel : Nat) (b : Builder) : Builder × Option Error :=
  match fuel, b.opened with
  | _, [] => (b, none)
  | 0, _ => (b.abandon, some b.outOfTokens)
  | fuel + 1, c :: _ =>
    match b.step c with
    | .ok b => run fuel b
    | .error e => (b.abandon, some e)

/-! ## Directives -/

/-- Handles that need no directive. -/
def standardHandles : List (String × String) := [("!", "!"), ("!!", "tag:yaml.org,2002:")]

/-- Reads the directives of a document. A version may be given once, and a handle too. -/
def directives (version : Bool) : (ahead : List Placed) → List (String × String) →
    Except Error (List Placed × List (String × String))
  | ⟨.version major minor, m⟩ :: ahead, handles =>
    if version then .error (.plain .duplicateVersion m)
    else if major ≠ 1 || (minor ≠ 1 && minor ≠ 2) then .error (.plain .incompatibleVersion m)
    else directives true ahead handles
  | ⟨.handle name stem, m⟩ :: ahead, handles =>
    if (handles.lookup name).isSome then .error (.plain .duplicateTagPrefix m)
    else directives version ahead (handles ++ [(name, stem)])
  | ahead, handles => .ok (ahead, handles)

end Builder

/-! ## Documents -/

/-- The first document of a text. -/
structure Document where
  /-- Its tree. A text without a document has none. -/
  root : Option Node
  /-- Nodes that have a name, by number. -/
  named : List (Nat × Node)
  /-- Why the tree is unfinished, if it is. -/
  failure : Option Error
  /-- Is there nothing after it? -/
  alone : Bool

namespace Document

def failed (e : Error) : Document := ⟨some .unfinished, [], some e, true⟩

/-- The root of a document whose start has been read. An empty root is allowed after three dashes. -/
def ofBuilder (b : Builder) (mayBeEmpty : Bool) : Document :=
  let ends : List Token := if mayBeEmpty then [.documentStart, .documentEnd, .streamEnd] else []
  let first : Except Error Builder := do
    let t ← b.peek
    match t.token with
    | .version .. | .handle .. => if mayBeEmpty then return b.addEmpty t.mark else b.node true false
    | _ => b.nodeUnless ends true false
  match first with
  | .error e => failed e
  | .ok b =>
    let (b, failure) := b.run (4 * b.ahead.length + 4)
    let rest := b.ahead.dropWhile fun t => t.token = .documentEnd
    match failure, rest with
    | some e, _ => ⟨b.root, b.named, some e, true⟩
    | none, [] => ⟨b.root, b.named, if b.ahead.isEmpty then b.failure else none, b.ahead.isEmpty⟩
    | none, t :: _ => ⟨b.root, b.named, none, t.token = .streamEnd⟩

def ofTokens (tokens : Tokens) : Document :=
  let builder (ahead : List Placed) (handles : List (String × String)) : Builder :=
    ⟨ahead, tokens.failure, handles, [], ∅, [], none⟩
  let outOfTokens := (builder [] []).outOfTokens
  match tokens.placed with
  | [] => failed outOfTokens
  | ⟨.streamEnd, _⟩ :: _ => ⟨none, [], none, true⟩
  | ⟨first, _⟩ :: _ =>
    let isMarked : Bool := match first with
      | .version .. | .handle .. | .documentStart => true
      | _ => false
    if isMarked then
      match Builder.directives false tokens.placed [] with
      | .error e => failed e
      | .ok (ahead, handles) =>
        match ahead with
        | [] => failed outOfTokens
        | ⟨.documentStart, _⟩ :: ahead =>
          ofBuilder (builder ahead (handles ++ Builder.standardHandles)) true
        | ⟨_, m⟩ :: _ => failed (.plain .noDocumentStart m)
    else ofBuilder (builder tokens.placed Builder.standardHandles) false

/-- Reads a text. -/
def ofText (text : List Char) : Document := ofTokens (Tokens.ofText text)

end Document

end CodeSurvey.Yaml
