import CodeSurvey.Instances

/-!
# Prefix codes

Packed data are a sequence of bits, lowest bit of each byte first. A prefix code is given by the lengths
of its code words alone: words of one length are consecutive numbers in the order of their symbols, and
the words of each length continue where the shorter ones left off.
-/

namespace CodeSurvey.Archive

/-- Why packed data cannot be read on. -/
inductive DataFault where
  /-- They end too early. -/
  | truncated
  /-- They do not follow the format. -/
  | corrupt
deriving DecidableEq, Repr

/-- The bit at a position, if the data reach that far. -/
def bitAt? (data : ByteArray) (pos : Nat) : Option Nat :=
  if h : pos / 8 < data.size then some ((data[pos / 8].toNat >>> (pos % 8)) % 2) else none

/-- The number that is written in `n` bits from a position on, lowest bit first. -/
def numberAt (data : ByteArray) (pos : Nat) : Nat → Except DataFault Nat
  | 0 => .ok 0
  | n + 1 =>
    match bitAt? data pos with
    | none => .error .truncated
    | some b => (numberAt data (pos + 1) n).map (b + 2 * ·)

/-- How many words there are of each length from 1 on, and the symbols in the order of their words. -/
structure PrefixCode where
  counts : List Nat
  symbols : Array Nat

namespace PrefixCode

/-- The longest code word. -/
def longest : Nat := 15

/-- How much of the room for words is used, as a number of words of the greatest length. -/
def room (lengths : List Nat) : Nat :=
  (lengths.map fun l => if l = 0 then 0 else 2 ^ (longest - l)).sum

/-- Do code words of these lengths use up all there are? -/
def isFull (lengths : List Nat) : Bool := room lengths = 2 ^ longest

/-- A code that is not full has a single word of one bit, or no word at all. -/
def isValid (lengths : List Nat) : Bool :=
  isFull lengths || lengths.all (· = 0) ||
    ((lengths.filter (· ≠ 0)).length = 1 && room lengths = 2 ^ (longest - 1))

/-- The code whose symbols have words of these lengths; no word where the length is zero. -/
def ofLengths (lengths : List Nat) : Except DataFault PrefixCode :=
  if !isValid lengths then .error .corrupt
  else
    let used := List.range' 1 (max 1 (lengths.foldl max 0))
    let symbols := used.flatMap fun l => (lengths.zipIdx.filter fun e => e.1 = l).map (·.2)
    .ok ⟨used.map lengths.count, symbols.toArray⟩

/-- Reads bits until they make up a word. `word` is the number read so far, `first` the first word of the
present length and `index` the place of its symbol. -/
def readWord (symbols : Array Nat) (data : ByteArray) :
    List Nat → (pos word first index : Nat) → Except DataFault (Nat × Nat)
  | [], _, _, _, _ => .error .corrupt
  | count :: counts, pos, word, first, index =>
    match bitAt? data pos with
    | none => .error .truncated
    | some b =>
      let word := 2 * word + b
      if word < first + count then .ok (symbols.getD (index + (word - first)) 0, pos + 1)
      else readWord symbols data counts (pos + 1) word (2 * (first + count)) (index + count)

/-- The symbol whose word starts at a position, and the position after the word. -/
def read (code : PrefixCode) (data : ByteArray) (pos : Nat) : Except DataFault (Nat × Nat) :=
  readWord code.symbols data code.counts pos 0 0 0

end PrefixCode

end CodeSurvey.Archive
