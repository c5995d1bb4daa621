import CodeSurvey.Instances

/-!
# Sizes for human readers

A number of bytes in the largest unit of which there is at least one, with one decimal. The number is
first cut to 53 significant bits; both roundings send a half to the even neighbour.
-/

namespace CodeSurvey.Size

/-- The quotient rounded to the nearest number, a half to the even one. -/
def divRound (n d : Nat) : Nat :=
  let q := n / d
  let r := n % d
  if d < 2 * r || (2 * r == d && q % 2 == 1) then q + 1 else q

/-- The number nearest to `n` that has at most 53 significant bits. -/
def significant (n : Nat) : Nat :=
  let excess := n.log2 + 1 - 53
  divRound n (2 ^ excess) * 2 ^ excess

/-- A number of bytes in the given unit, with one decimal. -/
def decimal (n unit : Nat) : String :=
  let tenths := divRound (significant n * 10) unit
  toString (tenths / 10) ++ "." ++ toString (tenths % 10)

/-- Units above the single byte, largest first. -/
def units : List (String × Nat) :=
  [("TB", 1024 ^ 4), ("GB", 1024 ^ 3), ("MB", 1024 ^ 2), ("KB", 1024)]

/-- A number of bytes such as `10.0 MB`. -/
def text (n : Nat) : String :=
  match units.find? fun u => u.2 ≤ significant n with
  | some (name, unit) => decimal n unit ++ " " ++ name
  | none => toString n ++ " B"

end CodeSurvey.Size
