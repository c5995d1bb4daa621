import CodeSurvey.Archive.PrefixCode

/-!
# Unpacking

Data packed in blocks: bytes as they are, or literals and copies of earlier bytes in prefix codes that are
fixed or come with the block. Bytes are handed out in windows of 32 KiB, each when the first byte behind it
is called for. A window in which the data turn out to be corrupt is not handed out; data that merely end too
early are handed out as far as they go.
-/

namespace CodeSurvey.Archive

/-- How unpacking came to an end. -/
inductive Ending where
  | complete
  | failed
  /-- More than the bytes asked for are there. -/
  | more
deriving DecidableEq, Repr

structure Unpacked where
  bytes : ByteArray
  ending : Ending

/-- What is left to be read starts at a bit position; what has been read so far is kept for copies. -/
structure Unpacking where
  pos : Nat
  out : ByteArray

def windowSize : Nat := 32768

/-- How many bytes of `size` have been handed out: a window waits for the first byte behind it. -/
def handedOut (size : Nat) : Nat := (size - 1) / windowSize * windowSize

/-- The bytes handed out when the data turn out to be faulty. -/
def giveUp (out : ByteArray) : DataFault → Unpacked
  | .truncated => ⟨out, .failed⟩
  | .corrupt => ⟨out.extract 0 (handedOut out.size), .failed⟩

/-- Appends `n` bytes, each a copy of the byte `distance` places before it. Before the first byte there
are zeros. -/
def copyBack (out : ByteArray) (distance : Nat) : Nat → ByteArray
  | 0 => out
  | n + 1 =>
    let b := if distance ≤ out.size then (out[out.size - distance]?).getD 0 else 0
    copyBack (out.push b) distance n

/-- Lengths of copies: for each symbol from 257 on the least length, and how many bits add to it. -/
def copyLengths : List (Nat × Nat) :=
  [(3, 0), (4, 0), (5, 0), (6, 0), (7, 0), (8, 0), (9, 0), (10, 0), (11, 1), (13, 1), (15, 1),
    (17, 1), (19, 2), (23, 2), (27, 2), (31, 2), (35, 3), (43, 3), (51, 3), (59, 3), (67, 4),
    (83, 4), (99, 4), (115, 4), (131, 5), (163, 5), (195, 5), (227, 5), (258, 0)]

/-- Distances of copies: for each symbol the least distance, and how many bits add to it. -/
def copyDistances : List (Nat × Nat) :=
  [(1, 0), (2, 0), (3, 0), (4, 0), (5, 1), (7, 1), (9, 2), (13, 2), (17, 3), (25, 3), (33, 4),
    (49, 4), (65, 5), (97, 5), (129, 6), (193, 6), (257, 7), (385, 7), (513, 8), (769, 8),
    (1025, 9), (1537, 9), (2049, 10), (3073, 10), (4097, 11), (6145, 11), (8193, 12), (12289, 12),
    (16385, 13), (24577, 13)]

/-- A number from a table of least values, with the bits that add to it. -/
def extended (table : List (Nat × Nat)) (symbol : Nat) (data : ByteArray) (pos : Nat) :
    Except DataFault (Nat × Nat) :=
  match table[symbol]? with
  | none => .error .corrupt
  | some (least, extra) => (numberAt data pos extra).map fun n => (least + n, pos + extra)

/-- The codes of one block: for literals and lengths, and for distances. -/
structure BlockCodes where
  lengths : PrefixCode
  distances : PrefixCode

/-- One step inside a coded block. -/
inductive Token where
  | literal (b : UInt8)
  | copy (length distance : Nat)
  | endOfBlock

/-- The next token, and the position after it. -/
def BlockCodes.token (codes : BlockCodes) (data : ByteArray) (pos : Nat) :
    Except DataFault (Token × Nat) := do
  let (symbol, pos) ← codes.lengths.read data pos
  if symbol < 256 then return (.literal (UInt8.ofNat symbol), pos)
  if symbol = 256 then return (.endOfBlock, pos)
  let (length, pos) ← extended copyLengths (symbol - 257) data pos
  let (symbol, pos) ← codes.distances.read data pos
  let (distance, pos) ← extended copyDistances symbol data pos
  return (.copy length distance, pos)

/-- Where reading stands after a block, or how it ended inside. -/
abbrev BlockResult := Except Unpacked Unpacking

/-- Unpacks a coded block until it ends or more than `enough` bytes have been handed out. -/
def codedBlock (codes : BlockCodes) (data : ByteArray) (enough pos : Nat) (out : ByteArray) :
    BlockResult :=
  match codes.token data pos with
  | .error fault => .error (giveUp out fault)
  | .ok (token, next) =>
    if pos < next ∧ next ≤ 8 * data.size then
      match token with
      | .endOfBlock => .ok ⟨next, out⟩
      | .literal b =>
        if enough < handedOut (out.size + 1) then .error ⟨out.push b, .more⟩
        else codedBlock codes data enough next (out.push b)
      | .copy length distance =>
        if enough < handedOut (out.size + length) then
          .error ⟨copyBack out distance length, .more⟩
        else codedBlock codes data enough next (copyBack out distance length)
    else .error (giveUp out .corrupt)
termination_by 8 * data.size - pos
decreasing_by all_goals omega

/-- Unpacks a block of bytes as they are. It starts at the next whole byte with its size and the size's
complement. -/
def plainBlock (data : ByteArray) (enough pos : Nat) (out : ByteArray) : BlockResult :=
  let start := (pos + 7) / 8
  match numberAt data (8 * start) 16, numberAt data (8 * start + 16) 16 with
  | .ok size, .ok complement =>
    if size + complement ≠ 0xFFFF then .error (giveUp out .corrupt)
    else
      let next := start + 4 + size
      let out := out ++ data.extract (start + 4) next
      if enough < handedOut out.size then .error ⟨out, .more⟩
      else if next ≤ data.size then .ok ⟨8 * next, out⟩
      else .error (giveUp out .truncated)
  | _, _ => .error (giveUp out .truncated)

/-- The lengths of code words when none come with the block. -/
def fixedLengths : List Nat :=
  List.replicate 144 8 ++ List.replicate 112 9 ++ List.replicate 24 7 ++ List.replicate 8 8

def fixedCodes : Except DataFault BlockCodes := do
  return ⟨← PrefixCode.ofLengths fixedLengths, ← PrefixCode.ofLengths (List.replicate 32 5)⟩

/-- The order in which the lengths of the words for lengths are written. -/
def lengthOrder : List Nat := [16, 17, 18, 0, 8, 7, 9, 6, 10, 5, 11, 4, 12, 3, 13, 2, 14, 1, 15]

/-- Some numbers of three bits each. -/
def triples (data : ByteArray) (pos : Nat) : Nat → Except DataFault (List Nat)
  | 0 => .ok []
  | n + 1 => do return (← numberAt data pos 3) :: (← triples data (pos + 3) n)

/-- One item in a list of word lengths: so many times the same length. -/
def lengthItem (code : PrefixCode) (data : ByteArray) (pos : Nat) (previous : Option Nat) :
    Except DataFault (Nat × Nat × Nat) := do
  let (symbol, pos) ← code.read data pos
  match symbol with
  | 16 =>
    match previous with
    | none => throw .corrupt
    | some l => return (l, 3 + (← numberAt data pos 2), pos + 2)
  | 17 => return (0, 3 + (← numberAt data pos 3), pos + 3)
  | 18 => return (0, 11 + (← numberAt data pos 7), pos + 7)
  | l => return (l, 1, pos)

/-- Reads word lengths until there are exactly `total`. Those before are given last first. -/
def wordLengths (code : PrefixCode) (data : ByteArray) (total pos : Nat) (before : List Nat) :
    Except DataFault (List Nat × Nat) :=
  if total ≤ before.length then
    if before.length = total then .ok (before.reverse, pos) else .error .corrupt
  else
    match lengthItem code data pos before.head? with
    | .error fault => .error fault
    | .ok (l, times, next) =>
      if pos < next ∧ next ≤ 8 * data.size then
        wordLengths code data total next (List.replicate times l ++ before)
      else .error .corrupt
termination_by 8 * data.size - pos
decreasing_by omega

/-- The codes at the start of a block that brings its own, and the position after them. -/
def blockCodes (data : ByteArray) (pos : Nat) : Except DataFault (BlockCodes × Nat) := do
  let literals := 257 + (← numberAt data pos 5)
  let distances := 1 + (← numberAt data (pos + 5) 5)
  let count := 4 + (← numberAt data (pos + 10) 4)
  if 286 < literals || 30 < distances then throw .corrupt
  let listed ← triples data (pos + 14) count
  let lengthOf := fun symbol => ((lengthOrder.zip listed).lookup symbol).getD 0
  let lengthsOfLengths := (List.range 19).map lengthOf
  if !PrefixCode.isFull lengthsOfLengths then throw .corrupt
  let code ← PrefixCode.ofLengths lengthsOfLengths
  let (lengths, pos) ← wordLengths code data (literals + distances) (pos + 14 + 3 * count) []
  return (⟨← PrefixCode.ofLengths (lengths.take literals),
    ← PrefixCode.ofLengths (lengths.drop literals)⟩, pos)

/-- Unpacks a block whose first three bits have been read; `kind` is the number in the last two. -/
def block (data : ByteArray) (enough kind pos : Nat) (out : ByteArray) : BlockResult :=
  match kind with
  | 0 => plainBlock data enough pos out
  | 1 =>
    match fixedCodes with
    | .ok codes => codedBlock codes data enough pos out
    | .error fault => .error (giveUp out fault)
  | 2 =>
    match blockCodes data pos with
    | .ok (codes, pos) => codedBlock codes data enough pos out
    | .error fault => .error (giveUp out fault)
  | _ => .error (giveUp out .corrupt)

/-- Unpacks blocks up to the one that is marked as the last. -/
def blocks (data : ByteArray) (enough pos : Nat) (out : ByteArray) : Unpacked :=
  match numberAt data pos 1, numberAt data (pos + 1) 2 with
  | .ok last, .ok kind =>
    match block data enough kind (pos + 3) out with
    | .error unpacked => unpacked
    | .ok ⟨next, out⟩ =>
      if last = 1 then ⟨out, .complete⟩
      else if pos < next ∧ next ≤ 8 * data.size then blocks data enough next out
      else giveUp out .corrupt
  | _, _ => giveUp out .truncated
termination_by 8 * data.size - pos
decreasing_by omega

/-- Unpacks data, as far as needed to see whether more than `enough` bytes are handed out. -/
def inflate (data : ByteArray) (enough : Nat) : Unpacked := blocks data enough 0 .empty

end CodeSurvey.Archive
