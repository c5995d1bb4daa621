import CodeSurvey.Intake.Limits
import CodeSurvey.Intake.Outcome

/-!
# The budget of an unpacking

Two counters that only grow, held against two ceilings. Before an entry is touched the budget says
whether there may be another one, from its header whether it is worth opening, and how many bytes it
may write; after a file is complete the budget is charged for it. The first reason to stop is kept for
good.
-/

namespace CodeSurvey

structure Budget where
  limits : Limits
  fileCount : Nat
  totalBytes : Nat
  stopped : Option StopReason
deriving DecidableEq, Repr

/-- How many bytes the next file may have, and whether that is what is left of the total rather than
the ceiling for a single file. -/
structure Allowance where
  bytes : Nat
  boundedByTotal : Bool
deriving DecidableEq, Repr

namespace Budget

def start (limits : Limits) : Budget := ⟨limits, 0, 0, none⟩

/-- Keeps a reason to stop, unless there is one already. -/
def stop (b : Budget) (reason : StopReason) : Budget :=
  { b with stopped := some (b.stopped.getD reason) }

/-- Why no further entry may be taken, if so. -/
def refusal? (b : Budget) : Option StopReason :=
  match b.stopped with
  | some reason => some reason
  | none => if b.limits.maxFileCount.toNat ≤ b.fileCount then some .fileCount else none

/-- Asks for the next entry. A refusal is kept. -/
def beginEntry (b : Budget) : Except StopReason Unit × Budget :=
  match b.refusal? with
  | some reason => (.error reason, b.stop reason)
  | none => (.ok (), b)

/-- What the sizes in an entry's header tell against opening it. A size that is not recorded, or that
is zero, tells nothing about compression. -/
def screen (b : Budget) (unpacked packed : Option Nat) : Except EntrySkip Unit :=
  if unpacked.any (b.limits.maxFileSize.toNat < ·) then .error .declaredTooLarge
  else
    match unpacked, packed with
    | some u, some p =>
      if 0 < u && 0 < p && b.limits.maxCompressionRatio.toNat < u / p then .error .compressionRatio
      else .ok ()
    | _, _ => .ok ()

/-- The cap on the next file: the ceiling for one file, or what is left of the total if that is less. -/
def allowance (b : Budget) : Allowance :=
  let remaining := b.limits.maxTotalBytes.toNat - b.totalBytes
  if remaining < b.limits.maxFileSize.toNat then ⟨remaining, true⟩
  else ⟨b.limits.maxFileSize.toNat, false⟩

/-- The largest total that can be recorded. -/
def maxTotal : Nat := 2 ^ 64 - 1

/-- Charges a complete file of `written` bytes. -/
def commit (b : Budget) (written : Nat) : Budget :=
  { b with fileCount := b.fileCount + 1, totalBytes := min (b.totalBytes + written) maxTotal }

end Budget

end CodeSurvey
