import CodeSurvey.Decimal.Basic

/-!
# JSON values

Values as they are written: an object keeps its fields in order, repeated keys included. The type of
strings is open, since a text can spell a string that has no characters (half of a surrogate pair).
-/

namespace CodeSurvey

inductive Json (τ : Type) where
  | null
  | bool (value : Bool)
  | number (value : Decimal)
  | string (value : τ)
  | array (elements : List (Json τ))
  | object (fields : List (τ × Json τ))

namespace Json

variable {τ : Type}

/-- A natural number. -/
def nat (n : Nat) : Json τ := .number ⟨false, n, 0⟩

mutual

/-- How many arrays and objects lie inside one another. -/
def depth : Json τ → Nat
  | .array xs => depthOfAll xs + 1
  | .object fs => depthOfFields fs + 1
  | _ => 0

def depthOfAll : List (Json τ) → Nat
  | [] => 0
  | x :: xs => max (depth x) (depthOfAll xs)

def depthOfFields : List (τ × Json τ) → Nat
  | [] => 0
  | (_, x) :: xs => max (depth x) (depthOfFields xs)

end

mutual

/-- Does every string satisfy one test, and every number another? -/
def allAtoms (text : τ → Bool) (number : Decimal → Bool) : Json τ → Bool
  | .string s => text s
  | .number n => number n
  | .array xs => allInElements text number xs
  | .object fs => allInFields text number fs
  | _ => true

def allInElements (text : τ → Bool) (number : Decimal → Bool) : List (Json τ) → Bool
  | [] => true
  | x :: xs => allAtoms text number x && allInElements text number xs

def allInFields (text : τ → Bool) (number : Decimal → Bool) : List (τ × Json τ) → Bool
  | [] => true
  | (k, x) :: xs => text k && allAtoms text number x && allInFields text number xs

end

end Json

end CodeSurvey
