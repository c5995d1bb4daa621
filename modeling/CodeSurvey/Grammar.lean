import CodeSurvey.Text.Basic

/-!
# Grammars

Eight grammars may come with a build.  Their parsers are not part of this library: a build brings a
function from texts to syntax trees, or none at all, and everything that depends on it takes it as an
instance argument.  What is read off a tree is the number of definitions in it and the packages that it
declares.
-/

namespace CodeSurvey

/-- The grammars a build may bring. -/
inductive Grammar where
  | java
  | javaScript
  | typeScript
  | tsx
  | c
  | cpp
  | rust
  | python
deriving DecidableEq, Repr

/-- A node of a syntax tree. -/
inductive SyntaxNode where
  /-- Its kind; whether it is named, or only a token such as a bracket; the field of its parent that it
  fills, if any; the text it spans, if that can be cut out; and the nodes below it. -/
  | mk (kind : String) (isNamed : Bool) (field? : Option String) (text? : Option (List Char))
      (children : List SyntaxNode)

namespace SyntaxNode

def kind : SyntaxNode → String
  | mk kind _ _ _ _ => kind

def isNamed : SyntaxNode → Bool
  | mk _ isNamed _ _ _ => isNamed

def field? : SyntaxNode → Option String
  | mk _ _ field? _ _ => field?

def text? : SyntaxNode → Option (List Char)
  | mk _ _ _ text? _ => text?

def children : SyntaxNode → List SyntaxNode
  | mk _ _ _ _ children => children

mutual

/-- A node and all nodes below it, each before its own children. -/
def preorder : SyntaxNode → List SyntaxNode
  | mk kind isNamed field? text? children =>
    mk kind isNamed field? text? children :: preorders children

/-- The nodes of several trees, one tree after the other. -/
def preorders : List SyntaxNode → List SyntaxNode
  | [] => []
  | n :: ns => n.preorder ++ preorders ns

end

/-- The first child that fills a field. -/
def childByField? (n : SyntaxNode) (name : String) : Option SyntaxNode :=
  n.children.find? fun child => child.field? = some name

/-- A node whose kind is a specifier defines something only if it has a body; without one it refers to
what is defined elsewhere. -/
def isDefinition (n : SyntaxNode) : Bool :=
  !Text.endsWith n.kind.toList "_specifier" || (n.childByField? "body").isSome

/-- The name that a declaration gives: the field for it, or else the first child that looks like an
identifier. -/
def declaredName? (n : SyntaxNode) : Option (List Char) :=
  match n.childByField? "name" with
  | some name => name.text?
  | none =>
    ((n.children.filter isNamed).find? fun child =>
      Text.endsWith child.kind.toList "identifier" || child.kind = "nested_namespace_specifier").bind
        text?

end SyntaxNode

/-- What a parser makes of a text. -/
structure SyntaxTree where
  root : SyntaxNode
  /-- Is any part of the text an error, or missing?  A parser carries on after such a part. -/
  hasError : Bool

/-- What an analyzer wants to know of a tree. -/
structure StructureQuery where
  /-- The kinds of nodes that count as types. -/
  typeKinds : List String
  /-- The kind of node that declares a package. -/
  packageKind? : Option String

/-- What has been read off a tree. -/
structure Structure where
  typeCount : Nat
  packages : List (List Char)
deriving DecidableEq

def SyntaxTree.structure (t : SyntaxTree) (query : StructureQuery) : Structure where
  typeCount := t.root.preorder.countP fun n => n.kind ∈ query.typeKinds && n.isDefinition
  packages := (t.root.preorder.filter fun n => query.packageKind? = some n.kind).filterMap
    SyntaxNode.declaredName?

/-- The parsers of a build. -/
class Grammars where
  /-- The tree of a text, if there is one. `none` is a build without grammars. -/
  parse? : Option (Grammar → List Char → Option SyntaxTree)

namespace Grammars

/-- A build without grammars, which is what is meant where no other is named. -/
instance (priority := low) absent : Grammars := ⟨none⟩

/-- The structure of a text, if the build has grammars and the text is free of errors. -/
def structure? [Grammars] (grammar : Grammar) (query : StructureQuery) (text : List Char) :
    Option Structure :=
  match (Grammars.parse?).bind fun parse => parse grammar text with
  | some tree => if tree.hasError then none else some (tree.structure query)
  | none => none

end Grammars

end CodeSurvey
