/-!
# Globs

A glob is a pattern for whole paths. It is matched against the bytes of a path, so that a question mark
stands for one byte. Matching keeps track of all places in the path that can be reached at once: a place
is a number of bytes from the start, and a set of places is a list with one entry for each of them.
-/

namespace CodeSurvey

inductive GlobToken where
  | literal (c : Char)
  /-- One byte, a slash included. -/
  | any
  /-- Any number of bytes, slashes included. -/
  | star
  /-- Two stars at the start: any directories, or none. -/
  | leadingDirectories
  /-- Two stars at the end, after a slash: anything below. -/
  | anythingBelow
  /-- Two stars between slashes: any directories between, or none. -/
  | innerDirectories
  /-- One byte that is in these ranges, or that is not. -/
  | oneOf (negated : Bool) (ranges : List (Char × Char))
  | alternatives (branches : List (List GlobToken))
deriving Repr

/-- A glob, by its tokens in order. -/
structure Glob where
  tokens : List GlobToken
deriving Repr

namespace Glob

/-- The places in a path that can be reached: one entry for each, from the start to the end. -/
abbrev Places := List Bool

namespace Places

/-- Only the start can be reached. -/
def start (path : List UInt8) : Places := true :: path.map fun _ => false

/-- The places one byte further on, over bytes that pass the test. -/
def advance (path : List UInt8) (test : UInt8 → Bool) (ps : Places) : Places :=
  false :: List.zipWith (fun p b => p && test b) ps path

/-- These places and all after them; `before` tells that one before them can be reached. -/
def onward (before : Bool) : Places → Places
  | [] => []
  | p :: ps => (before || p) :: onward (before || p) ps

def union (ps qs : Places) : Places := List.zipWith (· || ·) ps qs

def slash (path : List UInt8) (ps : Places) : Places := advance path (· = 0x2F) ps

end Places

/-- The bytes of a character. -/
def charBytes (c : Char) : List UInt8 := String.utf8EncodeChar c

/-- A range between characters, as ranges of bytes: all bytes of both ends stand for themselves, and the
range goes from the last byte of the one to the first of the other. -/
def byteRanges (range : Char × Char) : List (UInt8 × UInt8) :=
  let single := fun b : UInt8 => (b, b)
  if range.1 = range.2 then (charBytes range.1).map single
  else
    match (charBytes range.1).reverse, charBytes range.2 with
    | lo :: before, hi :: after => (lo, hi) :: before.map single ++ after.map single
    | _, _ => []

def inRanges (ranges : List (Char × Char)) (b : UInt8) : Bool :=
  (ranges.flatMap byteRanges).any fun (lo, hi) => lo ≤ b && b ≤ hi

mutual

/-- Does a token say nothing, being alternatives that are all empty? -/
def isVoid : GlobToken → Bool
  | .alternatives branches => areVoid branches
  | _ => false

def isVoidBranch : List GlobToken → Bool
  | [] => true
  | token :: rest => isVoid token && isVoidBranch rest

def areVoid : List (List GlobToken) → Bool
  | [] => true
  | branch :: rest => isVoidBranch branch && areVoid rest

end

mutual

/-- The places that can be reached by one token. -/
def reachToken (path : List UInt8) (token : GlobToken) (ps : Places) : Places :=
  match token with
  | .literal c => (charBytes c).foldl (fun ps b => ps.advance path (· = b)) ps
  | .any => ps.advance path fun _ => true
  | .star => ps.onward false
  | .leadingDirectories => ps.union ((ps.onward false).slash path)
  | .anythingBelow => (ps.slash path).onward false
  | .innerDirectories =>
    let below := ps.slash path
    below.union ((below.onward false).slash path)
  | .oneOf negated ranges => ps.advance path fun b => inRanges ranges b != negated
  | .alternatives branches => if areVoid branches then ps else reachAny path branches ps

/-- The places that can be reached by some tokens in a row. -/
def reach (path : List UInt8) (tokens : List GlobToken) (ps : Places) : Places :=
  match tokens with
  | [] => ps
  | token :: rest => reach path rest (reachToken path token ps)

/-- The places that can be reached by one of some branches. Empty branches do not count. -/
def reachAny (path : List UInt8) (branches : List (List GlobToken)) (ps : Places) : Places :=
  match branches with
  | [] => ps.map fun _ => false
  | branch :: rest =>
    let others := reachAny path rest ps
    if isVoidBranch branch then others else (reach path branch ps).union others

end

def literal? : GlobToken → Option Char
  | .literal c => some c
  | _ => none

/-- Does the glob end in a dot in a way that leaves it to the name of a file to match? The parent of a
directory is no name, so such a glob matches no path to one. -/
def needsName (g : Glob) : Bool :=
  let isLiteral := fun t => (literal? t).isSome
  match g.tokens.getLast? with
  | some (.literal '.') =>
    match g.tokens with
    | .leadingDirectories :: .star :: rest => rest.length = 1 || !rest.all isLiteral
    | .leadingDirectories :: rest => !(rest.all isLiteral && rest.any (literal? · = some '/'))
    | .star :: rest => rest.length = 1 || !rest.all isLiteral
    | tokens => !tokens.all isLiteral
  | _ => false

/-- Does the path end in the parent of a directory? -/
def endsInParent (path : String) : Bool :=
  path.toList.reverse.takeWhile (· ≠ '/') = ['.', '.']

/-- Do the tokens match the whole path? -/
def matchesTokens (tokens : List GlobToken) (path : String) : Bool :=
  let bytes := path.toUTF8.data.toList
  (reach bytes tokens (Places.start bytes)).getLast? = some true

/-- Does the glob match the whole path? Two stars on their own match every path. -/
def isMatch (g : Glob) (path : String) : Bool :=
  match g.tokens with
  | [.leadingDirectories] => true
  | tokens => !(g.needsName && endsInParent path) && matchesTokens tokens path

end Glob

end CodeSurvey
