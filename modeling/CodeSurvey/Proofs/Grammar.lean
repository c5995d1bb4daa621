import CodeSurvey.Grammar

/-!
# Builds with grammars

A parser is a parameter wherever it is used, so that what is proved holds of every build.  To look at single
texts, a build may be given by the trees of these texts.
-/

namespace CodeSurvey

namespace SyntaxNode

/-- A token, such as a keyword or a bracket. -/
def token (text : String) : SyntaxNode := .mk text false none (some text.toList) []

/-- A named node. -/
def named (kind text : String) (children : List SyntaxNode) : SyntaxNode :=
  .mk kind true none (some text.toList) children

/-- The same node, as it fills a field of its parent. -/
def inField (field : String) : SyntaxNode → SyntaxNode
  | mk kind isNamed _ text? children => mk kind isNamed (some field) text? children

end SyntaxNode

/-- A build that has the trees of some texts, all of them free of errors. -/
@[reducible]
def Grammars.ofTrees (trees : List (Grammar × String × SyntaxNode)) : Grammars where
  parse? := some fun grammar text ↦
    (trees.find? fun t ↦ t.1 = grammar && t.2.1.toList = text).map fun t ↦ ⟨t.2.2, false⟩

end CodeSurvey
