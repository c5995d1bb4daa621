import CodeSurvey.Instances

/-!
# Bytes as text

Reads bytes as UTF-8. Bytes that are no text are not lost silently: each longest run that starts like a
character but does not end like one becomes a replacement character.
-/

namespace CodeSurvey.Text

/-- The mark that stands for bytes that are no text. -/
def replacement : Char := '\uFFFD'

/-- For the first byte of a character of several bytes: how many follow, and the bounds of the first of
these. The bounds shut out overlong forms, surrogates and numbers past the last character. -/
def following? (first : UInt8) : Option (Nat × UInt8 × UInt8) :=
  if first < 0xC2 then none
  else if first ≤ 0xDF then some (1, 0x80, 0xBF)
  else if first = 0xE0 then some (2, 0xA0, 0xBF)
  else if first = 0xED then some (2, 0x80, 0x9F)
  else if first ≤ 0xEF then some (2, 0x80, 0xBF)
  else if first = 0xF0 then some (3, 0x90, 0xBF)
  else if first ≤ 0xF3 then some (3, 0x80, 0xBF)
  else if first = 0xF4 then some (3, 0x80, 0x8F)
  else none

/-- Up to `n` bytes that continue a character, the first of them within the given bounds. -/
def continuation (lo hi : UInt8) : Nat → List UInt8 → List UInt8
  | n + 1, b :: rest => if lo ≤ b && b ≤ hi then b :: continuation 0x80 0xBF n rest else []
  | _, _ => []

/-- The bits of the character number that the first of `n + 1` bytes holds. -/
def leadingBits (first : UInt8) (n : Nat) : Nat := first.toNat % 2 ^ (6 - n)

/-- The character that starts with this byte, and how many of the bytes after it belong to it. -/
def decodeChar (first : UInt8) (rest : List UInt8) : Char × Nat :=
  if first < 0x80 then (Char.ofNat first.toNat, 0)
  else
    match following? first with
    | none => (replacement, 0)
    | some (n, lo, hi) =>
      let tail := continuation lo hi n rest
      if tail.length = n then
        (Char.ofNat (tail.foldl (fun v b => v * 64 + b.toNat % 64) (leadingBits first n)), n)
      else (replacement, tail.length)

/-- Adds the characters that the bytes stand for to those in `read`, which are in reverse order. -/
def decodeOnto (read : List Char) : List UInt8 → List Char
  | [] => read
  | first :: rest =>
    let (c, n) := decodeChar first rest
    decodeOnto (c :: read) (rest.drop n)
termination_by bytes => bytes.length
decreasing_by simp only [List.length_drop, List.length_cons]; omega

/-- The characters that the bytes stand for. -/
def decode (bytes : List UInt8) : List Char := (decodeOnto [] bytes).reverse

/-- The text that the bytes stand for. -/
def ofBytes (bytes : ByteArray) : String := String.ofList (decode bytes.data.toList)

end CodeSurvey.Text
