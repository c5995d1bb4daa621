import CodeSurvey.Decimal.Shortest
import CodeSurvey.Text.Quoted
import CodeSurvey.Yaml.Node

/-!
# What scalars mean

A scalar without quotes may stand for nothing, a truth value or a number. Numbers are whole numbers in base
10, 16, 8 or 2, or decimals. Digits after a leading zero make no number. A tag may tell what a scalar is
meant to be, in whatever style it is written, and then it has to be that.
-/

namespace CodeSurvey.Yaml

def isNull (text : String) : Bool := text ∈ ["null", "Null", "NULL", "~"]

def bool? (text : String) : Option Bool :=
  if text ∈ ["true", "True", "TRUE"] then some true
  else if text ∈ ["false", "False", "FALSE"] then some false
  else none

/-- A number in the given base. -/
def digits? (base : Nat) (s : List Char) : Option Nat :=
  match s.mapM hexDigit? with
  | some (d :: ds) =>
    if (d :: ds).all (· < base) then some (Digits.ofDigits base (d :: ds)) else none
  | _ => none

/-- A number whose base is told by a zero and a letter at its start. -/
def based? (s : List Char) : Option Nat :=
  match s with
  | '0' :: 'x' :: rest => digits? 16 rest
  | '0' :: 'o' :: rest => digits? 8 rest
  | '0' :: 'b' :: rest => digits? 2 rest
  | _ => none

/-- Several digits of which the first is a zero. -/
def hasLeadingZero (s : List Char) : Bool :=
  s.head? = some '0' && 1 < s.length && s.all Char.isDigit

/-- A whole number without a sign in front. -/
def unsigned? (s : List Char) : Option Nat :=
  based? s <|> if hasLeadingZero s then none else digits? 10 s

/-- A number that is not negative, perhaps with a plus in front. -/
def natural? (s : List Char) : Option Nat :=
  match s with
  | '+' :: rest => unsigned? rest
  | s => unsigned? s

def integer? (s : List Char) : Option Int :=
  match s with
  | '-' :: rest => (unsigned? rest).map fun n => -(n : Int)
  | s => (natural? s).map fun n => (n : Int)

/-- Numbers past these bounds are decimals. -/
def isWideInteger (n : Int) : Bool := -(2 ^ 127) ≤ n && n < 2 ^ 128

/-- The spelling of a decimal or of a number that is none, as it is shown in messages. -/
def decimal? (s : List Char) : Option String :=
  let (signed, rest) := match s with
    | '+' :: rest => (true, rest)
    | rest => (false, rest)
  let special (names : List String) (text : List Char) : Bool := names.any (·.toList = text)
  if signed && (rest.head? = some '+' || rest.head? = some '-') then none
  else if special [".inf", ".Inf", ".INF"] rest then some "inf"
  else if special ["-.inf", "-.Inf", "-.INF"] s then some "-inf"
  else if special [".nan", ".NaN", ".NAN"] s then some "NaN"
  else
    match Decimal.parse? rest with
    | some d => if d.isFinite then some d.shortest.text else none
    | none => none

/-- What a scalar or another node turns out to be. -/
inductive Found where
  | nothing
  | bool (b : Bool)
  | integer (n : Int)
  | decimal (spelling : String)
  | text (s : String)
  | sequence
  | mapping
deriving DecidableEq, Repr

namespace Found

/-- What a text stands for when nothing else is known about it. -/
def ofText (text : String) : Found :=
  let s := text.toList
  let unsignedPart := match s with
    | '-' :: rest | '+' :: rest => rest
    | rest => rest
  if text = "" || isNull text then .nothing
  else
    match bool? text, (integer? s).filter isWideInteger with
    | some b, _ => .bool b
    | none, some n => .integer n
    | none, none =>
      match if hasLeadingZero unsignedPart then none else decimal? s with
      | some spelling => .decimal spelling
      | none => .text text

/-- The wording used in messages. -/
def describe : Found → String
  | nothing => "unit value"
  | bool b => "boolean `" ++ (if b then "true" else "false") ++ "`"
  | integer n =>
    "integer `" ++ toString n ++ "`" ++
      if 2 ^ 64 ≤ n then " as u128" else if n < -(2 ^ 63) then " as i128" else ""
  | decimal spelling => "floating point `" ++ spelling ++ "`"
  | text s => "string " ++ Text.quoted s
  | sequence => "sequence"
  | mapping => "map"

end Found

/-- What a tag says that a scalar is. -/
inductive Kind where
  | nothing
  | bool
  | integer
  | decimal
deriving DecidableEq, Repr

namespace Kind

def all : List Kind := [nothing, bool, integer, decimal]

/-- The tag of a kind. -/
def tag : Kind → String
  | nothing => "tag:yaml.org,2002:null"
  | bool => "tag:yaml.org,2002:bool"
  | integer => "tag:yaml.org,2002:int"
  | decimal => "tag:yaml.org,2002:float"

def ofTag? (tag : String) : Option Kind := all.find? (·.tag = tag)

/-- The wording used in messages. -/
def name : Kind → String
  | nothing => "null"
  | bool => "a boolean"
  | integer => "an integer"
  | decimal => "a float"

/-- What a text stands for as one of a kind. Here digits after a leading zero do make a decimal. -/
def read? (k : Kind) (text : String) : Option Found :=
  match k with
  | nothing => if isNull text then some .nothing else none
  | bool => (bool? text).map .bool
  | integer => ((integer? text.toList).filter isWideInteger).map .integer
  | decimal => (decimal? text.toList).map .decimal

end Kind

/-- What a scalar stands for, or the kind that its tag says it is of and is not. A scalar that is quoted, or
that has a tag from elsewhere, is a text; a tag of the document's own says nothing. -/
def Found.ofScalar (tag : Option String) (style : Style) (text : String) : Except Kind Found :=
  match tag.bind Kind.ofTag? with
  | some kind =>
    match kind.read? text with
    | some found => .ok found
    | none => .error kind
  | none =>
    .ok (if style = .plain && tag.all (·.front = '!') then .ofText text else .text text)

end CodeSurvey.Yaml
