import CodeSurvey.Glob.Basic

/-!
# Reading globs

Globs are read from left to right. Two stars mean any directories only where they make up a whole
component of the path; elsewhere they are two single stars. Alternatives in braces may be nested.
-/

namespace CodeSurvey

/-- Why a text is no glob. -/
inductive GlobError where
  | unclosedClass
  | invalidRange (lo hi : Char)
  | unopenedAlternatives
  | unclosedAlternatives
  | danglingEscape
deriving DecidableEq, Repr

def GlobError.message : GlobError → String
  | unclosedClass => "unclosed character class; missing ']'"
  | invalidRange lo hi =>
    "invalid range; '" ++ lo.toString ++ "' > '" ++ hi.toString ++ "'"
  | unopenedAlternatives =>
    "unopened alternate group; missing '\x7b' (maybe escape '\x7d' with '[\x7d]'?)"
  | unclosedAlternatives =>
    "unclosed alternate group; missing '\x7d' (maybe escape '\x7b' with '[\x7b]'?)"
  | danglingEscape => "dangling '\\'"

namespace Glob

/-- Alternatives that are being read: the branches before and the tokens of the present one, all last
first. Outside of all braces there is a single branch. -/
structure Group where
  branches : List (List GlobToken)
  tokens : List GlobToken

/-- A character class that is being read: its ranges, last first, and whether a dash has begun a range. -/
structure OpenClass where
  negated : Bool
  ranges : List (Char × Char)
  inRange : Bool

namespace OpenClass

def start (negated : Bool) : OpenClass := ⟨negated, [], false⟩

/-- Adds a character, or ends the range that a dash has begun. -/
def add (k : OpenClass) (c : Char) : Except GlobError OpenClass :=
  match k.inRange, k.ranges with
  | true, (lo, _) :: rest =>
    if c < lo then .error (.invalidRange lo c)
    else .ok { k with ranges := (lo, c) :: rest, inRange := false }
  | _, ranges => .ok { k with ranges := (c, c) :: ranges, inRange := false }

/-- Takes the next character of the class; a dash begins a range if something stands before it. -/
def take (k : OpenClass) (c : Char) : Except GlobError OpenClass :=
  if c = '-' && !k.inRange && !k.ranges.isEmpty then .ok { k with inRange := true } else k.add c

/-- The class as a token. A dash at the end stands for itself. -/
def token (k : OpenClass) : GlobToken :=
  .oneOf k.negated ((if k.inRange then ('-', '-') :: k.ranges else k.ranges).reverse)

end OpenClass

/-- What has been read so far: the character before, the groups from the innermost to the outermost, and
the class that is open. -/
structure Reading where
  previous : Option Char
  inner : Group
  outer : List Group
  openClass : Option OpenClass

namespace Reading

def start : Reading := ⟨none, ⟨[], []⟩, [], none⟩

/-- Adds tokens, after which the last character read is `c`. -/
def push (r : Reading) (c : Char) (tokens : List GlobToken) : Reading :=
  { r with previous := some c, inner := { r.inner with tokens := tokens.reverse ++ r.inner.tokens } }

/-- Replaces the last token by one for directories, unless that stands for any directories already. -/
def pushDirectories (r : Reading) (c : Char) (token : GlobToken) : Reading :=
  let tokens :=
    match r.inner.tokens with
    | .leadingDirectories :: rest => .leadingDirectories :: rest
    | .anythingBelow :: rest => .anythingBelow :: rest
    | _ :: rest => token :: rest
    | [] => [token]
  { r with previous := some c, inner := { r.inner with tokens } }

def openGroup (r : Reading) : Reading :=
  { r with previous := some '\x7b', inner := ⟨[], []⟩, outer := r.inner :: r.outer }

def nextBranch (r : Reading) : Reading :=
  { r with previous := some ',', inner := ⟨r.inner.tokens.reverse :: r.inner.branches, []⟩ }

def closeGroup (r : Reading) : Except GlobError Reading :=
  match r.outer with
  | [] => .error .unopenedAlternatives
  | group :: outer =>
    let branches := (r.inner.tokens.reverse :: r.inner.branches).reverse
    .ok (push { r with inner := group, outer } '\x7d' [.alternatives branches])

def isNested (r : Reading) : Bool := !r.outer.isEmpty

/-- May two stars here stand for directories, as far as what comes before them tells? -/
def atComponent (r : Reading) : Bool :=
  match r.previous with
  | some '/' => true
  | some ',' | some '\x7b' => r.isNested
  | _ => false

/-- Takes two stars, and a slash right after them if they stand for directories. Gives what is left to be
read. -/
def doubleStar (r : Reading) (rest : List Char) : Reading × List Char :=
  let plain := (r.push '*' [.star, .star], rest)
  if r.inner.tokens.isEmpty then
    match rest with
    | [] => (r.push '*' [.leadingDirectories], [])
    | '/' :: rest => (r.push '/' [.leadingDirectories], rest)
    | _ => plain
  else if !r.atComponent then plain
  else
    match rest with
    | [] => (r.pushDirectories '*' .anythingBelow, [])
    | '/' :: rest => (r.pushDirectories '/' .innerDirectories, rest)
    | c :: _ => if r.isNested && (c = ',' || c = '\x7d') then (r.pushDirectories '*' .anythingBelow, rest)
      else plain

theorem length_doubleStar_le (r : Reading) (rest : List Char) :
    (r.doubleStar rest).2.length ≤ rest.length := by
  unfold doubleStar
  repeat' split
  all_goals simp

/-- Takes the next character, and those after it that belong to it. Gives what is left to be read. -/
def step (r : Reading) (c : Char) (rest : List Char) : Except GlobError (Reading × List Char) :=
  match r.openClass with
  | some k =>
    if c = ']' && !k.ranges.isEmpty then
      .ok ({ r.push ']' [k.token] with openClass := none }, rest)
    else (k.take c).map fun k => ({ r with openClass := some k }, rest)
  | none =>
    match c, rest with
    | '?', rest => .ok (r.push '?' [.any], rest)
    | '*', '*' :: rest => .ok (r.doubleStar rest)
    | '*', rest => .ok (r.push '*' [.star], rest)
    | '[', '!' :: rest => .ok ({ r with openClass := some (.start true) }, rest)
    | '[', '^' :: rest => .ok ({ r with openClass := some (.start true) }, rest)
    | '[', rest => .ok ({ r with openClass := some (.start false) }, rest)
    | '\x7b', rest => .ok (r.openGroup, rest)
    | '\x7d', rest => r.closeGroup.map fun r => (r, rest)
    | ',', rest => .ok (if r.isNested then r.nextBranch else r.push ',' [.literal ','], rest)
    | '\\', [] => .error .danglingEscape
    | '\\', c :: rest => .ok (r.push c [.literal c], rest)
    | c, rest => .ok (r.push c [.literal c], rest)

/-- A step never puts anything back. -/
theorem length_le_of_step {r r' : Reading} {c : Char} {rest rest' : List Char}
    (h : r.step c rest = .ok (r', rest')) : rest'.length ≤ rest.length := by
  unfold step at h
  split at h
  · split at h
    · cases h; exact Nat.le_refl _
    · next k _ _ =>
      cases hk : k.take c <;> simp only [hk, Except.map] at h <;> cases h
      exact Nat.le_refl _
  · split at h
    case h_2 =>
      next rest =>
      have := length_doubleStar_le r rest
      rw [Except.ok.inj h] at this
      simp only [List.length_cons] at this ⊢
      omega
    case h_8 =>
      cases hg : r.closeGroup <;> simp only [hg, Except.map] at h <;> cases h
      exact Nat.le_refl _
    all_goals first | cases h; done | (cases h; simp)

/-- The glob, if every group has been closed. -/
def finish (r : Reading) : Except GlobError Glob :=
  if r.openClass.isSome then .error .unclosedClass
  else if r.isNested then .error .unclosedAlternatives
  else .ok ⟨r.inner.tokens.reverse⟩

end Reading

/-- Reads the characters of a glob one after the other. -/
def readChars (r : Reading) : List Char → Except GlobError Glob
  | [] => r.finish
  | c :: rest =>
    match h : r.step c rest with
    | .error e => .error e
    | .ok (r, rest') =>
      have := Reading.length_le_of_step h
      readChars r rest'
termination_by s => s.length
decreasing_by simp only [List.length_cons]; omega

/-- Reads a glob. -/
def parse (text : String) : Except GlobError Glob := readChars .start text.toList

end Glob

end CodeSurvey
