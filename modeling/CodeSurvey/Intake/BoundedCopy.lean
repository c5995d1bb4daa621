import CodeSurvey.Instances

/-!
# Copying no more than a cap

Bytes arrive in reads and go to a writer chunk by chunk. The copy never hands the writer more than the
cap in total: the chunk that would go past it is not written at all.
-/

namespace CodeSurvey

/-- What one request for bytes brings. -/
inductive Read where
  /-- The next bytes; none of them means that there are no more. -/
  | bytes (chunk : ByteArray)
  /-- Nothing this time; the request is to be made again. -/
  | interrupted
  | failed (message : String)

/-- The most bytes that one read brings. -/
def Read.capacity : Nat := 8192

/-- The reads that bring the bytes from `start` on. -/
def Read.chunks (bytes : ByteArray) (start : Nat) : List Read :=
  if start < bytes.size then
    .bytes (bytes.extract start (start + capacity)) :: chunks bytes (start + capacity)
  else []
termination_by bytes.size - start
decreasing_by simp only [capacity]; omega

/-- A place to put bytes. It tells what a chunk makes of it, and what went wrong if it did not take the
whole chunk. -/
structure Writer (σ : Type) where
  write : σ → ByteArray → σ × Option String

/-- Gathers everything it is given. -/
def Writer.unlimited : Writer (Array ByteArray) where
  write chunks chunk := (chunks.push chunk, none)

/-- Holds at most `room` bytes: takes what fits and fails if that is not all. -/
def Writer.limited (room : Nat) : Writer ByteArray where
  write held chunk :=
    if held.size + chunk.size ≤ room then (held ++ chunk, none)
    else (held ++ chunk.extract 0 (room - held.size), some "failed to write whole buffer")

inductive CopyOutcome where
  /-- Everything was written, so many bytes. -/
  | complete (written : Nat)
  /-- There was more than the cap. -/
  | exceeded
  | failed (message : String)
deriving DecidableEq, Repr

/-- Copies reads to a writer after `written` bytes have been copied. The reads end at the first that
brings no bytes, or after the last. -/
def boundedCopy {σ : Type} (w : Writer σ) (cap : Nat) : List Read → Nat → σ → CopyOutcome × σ
  | [], written, s => (.complete written, s)
  | .interrupted :: rest, written, s => boundedCopy w cap rest written s
  | .failed message :: _, _, s => (.failed message, s)
  | .bytes chunk :: rest, written, s =>
    if chunk.size = 0 then (.complete written, s)
    else if cap < written + chunk.size then (.exceeded, s)
    else
      match w.write s chunk with
      | (s, none) => boundedCopy w cap rest (written + chunk.size) s
      | (s, some message) => (.failed message, s)

end CodeSurvey
