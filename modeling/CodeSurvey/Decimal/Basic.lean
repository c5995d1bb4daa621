import CodeSurvey.Decimal.Digits

/-!
# Decimal numbers

Numbers as they are written in base 10, with any number of digits.
-/

namespace CodeSurvey

/-- The number `± digits * 10 ^ exponent`. -/
structure Decimal where
  negative : Bool
  digits : Nat
  exponent : Int
deriving DecidableEq, Repr

namespace Decimal

/-- How many places the number takes before the point; it is negative if zeros follow the point. -/
def places (d : Decimal) : Int := Digits.count d.digits + d.exponent

/-- Does the number, rounded to a double, stay finite? The least that does not lies halfway between the
greatest double and the next power of two. -/
def isFinite (d : Decimal) : Bool :=
  if d.digits = 0 || d.places ≤ 308 then true
  else if d.exponent > 308 then false
  else
    let bound := 2 ^ 1024 - 2 ^ 970
    d.digits * 10 ^ d.exponent.toNat < bound * 10 ^ (-d.exponent).toNat

/-- The value of some digits. -/
def ofDigits (digits : List Char) : Nat := Digits.ofDigits 10 (digits.map fun c => c.toNat - '0'.toNat)

/-- Reads the exponent behind its mark. -/
def exponent? (s : List Char) : Option Int :=
  let (negative, digits) := match s with
    | '-' :: digits => (true, digits)
    | '+' :: digits => (false, digits)
    | digits => (false, digits)
  if digits = [] || !digits.all Char.isDigit then none
  else
    let n : Int := ofDigits digits
    some (if negative then -n else n)

/-- Reads a number that may have a sign, a point and an exponent. Digits may be missing on one side of the
point. -/
def parse? (s : List Char) : Option Decimal :=
  let (negative, s) := match s with
    | '-' :: rest => (true, rest)
    | rest => (false, rest)
  let whole := s.takeWhile Char.isDigit
  let afterWhole := s.drop whole.length
  let fraction := match afterWhole with
    | '.' :: rest => rest.takeWhile Char.isDigit
    | _ => []
  let afterFraction := match afterWhole with
    | '.' :: rest => rest.drop fraction.length
    | rest => rest
  if whole = [] && fraction = [] then none
  else
    let number (e : Int) : Decimal := ⟨negative, ofDigits (whole ++ fraction), e - fraction.length⟩
    match afterFraction with
    | [] => some (number 0)
    | 'e' :: rest | 'E' :: rest => (exponent? rest).map number
    | _ => none

/-- Writes the number without an exponent and with a point. -/
def text (d : Decimal) : String :=
  let digits := Nat.toDigits 10 d.digits ++ List.replicate d.exponent.toNat '0'
  let fraction := (-d.exponent).toNat
  let padded := List.replicate (fraction + 1 - digits.length) '0' ++ digits
  let whole := padded.take (padded.length - fraction)
  let after := padded.drop whole.length
  (if d.negative then "-" else "") ++ String.ofList whole ++ "." ++
    if after = [] then "0" else String.ofList after

end Decimal

end CodeSurvey
