import CodeSurvey.Decimal.Basic
import CodeSurvey.Size

/-!
# Doubles by scaling

The quick way from a decimal to a double: the digits at the front that fit in a word are made a double, which
is multiplied by a power of ten that is a double as well. Digits behind those are dropped. The answer is
rounded up to three times, so a number next to the greatest double may turn out infinite.
-/

namespace CodeSurvey.Decimal

/-- The greatest power of ten below all infinite numbers. -/
def greatestPower : Int := 308

/-- The number with only those of its digits, from the front, that fit in a word of 64 bits. -/
def cutToWord (d : Decimal) : Decimal :=
  let excess := Digits.count d.digits - 20
  let cut (n : Nat) : Decimal := { d with digits := d.digits / 10 ^ n, exponent := d.exponent + n }
  if (cut excess).digits < 2 ^ 64 then cut excess else cut (excess + 1)

/-- Does the number stay finite when it is made a double by scaling? -/
def scalesFinitely (d : Decimal) : Bool :=
  let w := d.cutToWord
  w.digits = 0 || w.exponent < 0 ||
    w.exponent ≤ greatestPower &&
      Size.significant (Size.significant w.digits * Size.significant (10 ^ w.exponent.toNat)) < 2 ^ 1024

end CodeSurvey.Decimal
