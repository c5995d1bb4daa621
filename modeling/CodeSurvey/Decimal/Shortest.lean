import CodeSurvey.Decimal.Basic
import CodeSurvey.Size

/-!
# The shortest decimal for a double

Among the decimals that lie nearer to a double than to any other, the one with the fewest digits, and of
these the one nearest to the double. Numbers are compared exactly, as fractions.
-/

namespace CodeSurvey

/-- The positive number `mantissa * 2 ^ exponent`. -/
structure Double where
  mantissa : Nat
  exponent : Int
deriving DecidableEq, Repr

namespace Double

def leastExponent : Int := -1074

/-- The first mantissa of full length. -/
def hidden : Nat := 2 ^ 52

/-- The double nearest to the positive number `n / d`, a half going to the even mantissa. -/
def ofRatio (n d : Nat) : Double :=
  let scaled (e : Int) : Nat × Nat := (n * 2 ^ (-e).toNat, d * 2 ^ e.toNat)
  let guess : Int := (n.log2 : Int) - d.log2 - 52
  let e := max leastExponent
    (if (scaled guess).1 < hidden * (scaled guess).2 then guess - 1 else guess)
  let m := Size.divRound (scaled e).1 (scaled e).2
  if m = 2 * hidden then ⟨hidden, e + 1⟩ else ⟨m, e⟩

/-- Is `a * 10 ^ p` less than `b * 2 ^ q`? -/
def isLess (a : Nat) (p : Int) (b : Nat) (q : Int) : Bool :=
  a * 10 ^ p.toNat * 2 ^ (-q).toNat < b * 2 ^ q.toNat * 10 ^ (-p).toNat

/-- Is `b * 2 ^ q` less than `a * 10 ^ p`? -/
def isMore (a : Nat) (p : Int) (b : Nat) (q : Int) : Bool :=
  b * 2 ^ q.toNat * 10 ^ (-p).toNat < a * 10 ^ p.toNat * 2 ^ (-q).toNat

/-- Do the decimals that read as this double include `a * 10 ^ p`? They reach halfway to the neighbours,
and include the ends if the mantissa is even. The neighbour below the first mantissa of full length is
only half as far away. -/
def includes (x : Double) (a : Nat) (p : Int) : Bool :=
  let low := 4 * x.mantissa - if x.mantissa = hidden && leastExponent < x.exponent then 1 else 2
  let high := 4 * x.mantissa + 2
  let q := x.exponent - 2
  if x.mantissa % 2 = 0 then !isLess a p low q && !isMore a p high q
  else isMore a p low q && isLess a p high q

/-- The multiple of `10 ^ p` that reads as this double and is nearest to it, if there is one. -/
def onGrid? (x : Double) (p : Int) : Option Nat :=
  let n := x.mantissa * 2 ^ x.exponent.toNat * 10 ^ (-p).toNat
  let d := 2 ^ (-x.exponent).toNat * 10 ^ p.toNat
  let below := n / d
  let nearer := if d ≤ 2 * (n % d) then [below + 1, below] else [below, below + 1]
  nearer.find? fun a => x.includes a p

/-- The first power of ten from `p` downwards on whose grid the double lies, in `fuel + 1` attempts. -/
def firstGrid (x : Double) (p : Int) : Nat → Nat × Int
  | 0 => ((x.onGrid? p).getD 0, p)
  | fuel + 1 =>
    match x.onGrid? p with
    | some a => (a, p)
    | none => firstGrid x (p - 1) fuel

end Double

namespace Decimal

/-- The digits of a number without the zeros at its end. -/
def trimmed (digits : Nat) (exponent : Int) : Nat → Nat × Int
  | 0 => (digits, exponent)
  | fuel + 1 =>
    if digits ≠ 0 && digits % 10 = 0 then trimmed (digits / 10) (exponent + 1) fuel
    else (digits, exponent)

/-- Numbers with fewer places than this are zero as doubles. -/
def leastPlaces : Int := -330

/-- The shortest number that reads as the same double. -/
def shortest (d : Decimal) : Decimal :=
  if d.digits = 0 || d.places < leastPlaces then ⟨d.negative, 0, 0⟩
  else
    let x := Double.ofRatio (d.digits * 10 ^ d.exponent.toNat) (10 ^ (-d.exponent).toNat)
    if x.mantissa = 0 then ⟨d.negative, 0, 0⟩
    else
      let (a, p) := x.firstGrid d.places 17
      let (a, p) := trimmed a p 17
      ⟨d.negative, a, p⟩

end Decimal

end CodeSurvey
