/-!
# Instances of the standard library

What the standard library says of numbers, texts and bytes comes first, even where a theory that is
imported has instances of its own for them. So a definition means the same wherever it is read.
-/

namespace CodeSurvey

@[default_instance 20000]
instance (priority := high) natPower {α : Type} [NatPow α] : Pow α Nat := instPowNat

instance (priority := high) zeroNat : Zero Nat := Zero.ofOfNat0

instance (priority := high) transString : Trans (α := String) (· < ·) (· < ·) (· < ·) :=
  ⟨fun h k => String.lt_trans h k⟩

instance (priority := high) decidableEqBytes : DecidableEq ByteArray := ByteArray.instDecidableEq

end CodeSurvey
