import CodeSurvey.Proofs.Intake.BoundedCopy

/-!
# A stream however it is cut

A writer may fail at any chunk, and a stream may come in chunks of any size with
interruptions between them.  Whatever the writer does, it is handed a beginning of the
stream that fits under the cap, and the sum that is held against the cap can always be
recorded.  With a writer that takes everything the outcome depends only on the bytes of
the stream and on how it ends, not on how it is cut.
-/

namespace CodeSurvey

variable {σ : Type}

/-- The chunks that a writer is handed, whether it takes them or not. -/
def handed (w : Writer σ) (cap : Nat) (reads : List Read) (s : σ) : List ByteArray :=
  (boundedCopy w.noting cap reads 0 (s, [])).2.2

theorem handsOn_handed (w : Writer σ) (cap : Nat) (reads : List Read) (s : σ) :
    HandsOn w cap reads 0 s (handed w cap reads s) := by
  obtain ⟨kept, h⟩ := exists_handsOn w (Nat.zero_le cap) reads s
  have hkept : handed w cap reads s = kept := by
    rw [handed, h.noted]
    rfl
  exact hkept ▸ h

/-- The bytes that are handed on begin the stream. -/
theorem exists_stream_eq (w : Writer σ) (cap : Nat) (reads : List Read) (s : σ) :
    ∃ rest, Read.stream reads = joined (handed w cap reads s) ++ rest := by
  obtain ⟨rest, hrest⟩ := (handsOn_handed w cap reads s).isPrefix
  exact ⟨joined rest, by rw [Read.stream, ← hrest, joined_append]⟩

/-! ## Sums that can be recorded -/

/-- The number of bytes after one more chunk, unless it is too large to be recorded. -/
def addSize? (written : UInt64) (chunk : ByteArray) : Option UInt64 :=
  if written.toNat + chunk.size < 2 ^ 64 then some (.ofNat (written.toNat + chunk.size)) else none

/-- A bounded copy that has nothing to say if a sum is too large to be recorded. -/
def checkedCopy (w : Writer σ) (cap : UInt64) : List Read → UInt64 → σ → Option (CopyOutcome × σ)
  | [], written, s => some (.complete written.toNat, s)
  | .interrupted :: rest, written, s => checkedCopy w cap rest written s
  | .failed message :: _, _, s => some (.failed message, s)
  | .bytes chunk :: rest, written, s =>
    if chunk.size = 0 then some (.complete written.toNat, s)
    else do
      let total ← addSize? written chunk
      if cap < total then some (.exceeded, s)
      else
        match w.write s chunk with
        | (s, none) => checkedCopy w cap rest total s
        | (s, some message) => some (.failed message, s)

/-- The sum is at most one read past the cap. -/
theorem addSize?_eq_some {cap written : UInt64} (hwritten : written.toNat ≤ cap.toNat)
    (hcap : cap.toNat + Read.capacity < 2 ^ 64) {chunk : ByteArray} (hchunk : chunk.size ≤ Read.capacity) :
    ∃ total, addSize? written chunk = some total ∧ total.toNat = written.toNat + chunk.size := by
  have hlt : written.toNat + chunk.size < 2 ^ 64 := by omega
  exact ⟨_, if_pos hlt, UInt64.toNat_ofNat_of_lt' hlt⟩

/-- Far enough from the largest number, no sum is too large to be recorded. -/
theorem checkedCopy_eq (w : Writer σ) {cap written : UInt64} (hwritten : written.toNat ≤ cap.toNat)
    (hcap : cap.toNat + Read.capacity < 2 ^ 64) {reads : List Read}
    (hreads : ∀ chunk, .bytes chunk ∈ reads → chunk.size ≤ Read.capacity) (s : σ) :
    checkedCopy w cap reads written s = some (boundedCopy w cap.toNat reads written.toNat s) := by
  induction reads generalizing written s with
  | nil => rfl
  | cons read rest ih =>
    have hrest : ∀ chunk, .bytes chunk ∈ rest → chunk.size ≤ Read.capacity :=
      fun chunk hmem ↦ hreads chunk (List.mem_cons_of_mem _ hmem)
    cases read with
    | interrupted => exact ih hwritten hrest s
    | failed message => rfl
    | bytes chunk =>
      obtain ⟨total, htotal, hsum⟩ := addSize?_eq_some hwritten hcap (hreads chunk List.mem_cons_self)
      rw [checkedCopy, boundedCopy, htotal]
      dsimp only [Option.bind_eq_bind, Option.bind_some]
      by_cases hempty : chunk.size = 0
      · rw [if_pos hempty, if_pos hempty]
      rw [if_neg hempty, if_neg hempty, ← hsum]
      by_cases hmore : cap < total
      · rw [if_pos hmore, if_pos (UInt64.lt_iff_toNat_lt.mp hmore)]
      · have hroom : ¬ cap.toNat < total.toNat := fun h ↦ hmore (UInt64.lt_iff_toNat_lt.mpr h)
        rw [if_neg hmore, if_neg hroom]
        rcases w.write s chunk with ⟨held, _ | message⟩
        · exact ih (Nat.le_of_not_lt hroom) hrest held
        · rfl

/-! ## Outcomes -/

variable {w : Writer σ} {cap : Nat} {reads : List Read}

/-- A writer that takes everything is handed more than fits, or the whole stream. -/
theorem boundedCopy_of_takesAll (hall : w.TakesAll) (cap : Nat) (reads : List Read) (s : σ) :
    let size := (Read.stream reads).size
    ((boundedCopy w cap reads 0 s).1 = .exceeded ↔ cap < size) ∧
      (size ≤ cap → joined (handed w cap reads s) = Read.stream reads ∧
        (boundedCopy w cap reads 0 s).1 =
          match Read.failure? reads with
          | none => .complete size
          | some message => .failed message) := by
  intro size
  have hsize : size = totalSize (Read.delivered reads) := Read.size_stream reads
  have hcopied := (handsOn_handed w cap reads s).copied hall
  revert hcopied
  generalize (boundedCopy w cap reads 0 s).1 = outcome, hkept : handed w cap reads s = kept
  intro hcopied
  cases hcopied with
  | complete hend hfits =>
    rw [Nat.zero_add, ← hsize] at hfits ⊢
    refine ⟨⟨nofun, fun h ↦ absurd hfits (Nat.not_le_of_lt h)⟩, fun _ ↦ ⟨rfl, ?_⟩⟩
    rw [hend]
  | exceeded hpre hfits hmore =>
    rw [Nat.zero_add, ← hsize] at hmore
    exact ⟨⟨fun _ ↦ hmore, fun _ ↦ rfl⟩, fun h ↦ absurd h (Nat.not_le_of_lt hmore)⟩
  | failed hend hfits =>
    rw [Nat.zero_add, ← hsize] at hfits
    refine ⟨⟨nofun, fun h ↦ absurd hfits (Nat.not_le_of_lt h)⟩, fun _ ↦ ⟨rfl, ?_⟩⟩
    rw [hend]

/-- Two streams with the same bytes and the same ending have the same outcome. -/
theorem outcome_eq_of_stream_eq {τ : Type} {w' : Writer τ} (hall : w.TakesAll) (hall' : w'.TakesAll)
    {reads' : List Read} (hstream : Read.stream reads' = Read.stream reads)
    (hend : Read.failure? reads' = Read.failure? reads) (cap : Nat) (s : σ) (s' : τ) :
    (boundedCopy w' cap reads' 0 s').1 = (boundedCopy w cap reads 0 s).1 := by
  obtain ⟨hexceeded, hwhole⟩ := boundedCopy_of_takesAll hall cap reads s
  obtain ⟨hexceeded', hwhole'⟩ := boundedCopy_of_takesAll hall' cap reads' s'
  rw [hstream] at hexceeded' hwhole'
  rcases Nat.lt_or_ge cap (Read.stream reads).size with hmore | hfits
  · rw [hexceeded.mpr hmore, hexceeded'.mpr hmore]
  · rw [(hwhole hfits).2, (hwhole' hfits).2, hend]

/-- A bounded copy is exact, however its stream is cut.  Below the largest caps no sum is too
large to be recorded, and any writer is handed a beginning of the stream that fits under the
cap.  With a writer that takes everything, the cap is exceeded exactly if the stream has more
bytes than that; else all of them are handed on, and the copy is complete or fails as the
stream ends.  So the outcome is that of any other stream with the same bytes and ending. -/
theorem boundedCopy_exact (w : Writer σ) (s : σ) {cap : UInt64}
    (hcap : cap.toNat + Read.capacity < 2 ^ 64) {reads : List Read}
    (hreads : ∀ chunk, .bytes chunk ∈ reads → chunk.size ≤ Read.capacity) :
    let size := (Read.stream reads).size
    let passed := joined (handed w cap.toNat reads s)
    let outcome := (boundedCopy w cap.toNat reads 0 s).1
    checkedCopy w cap reads 0 s = some (boundedCopy w cap.toNat reads 0 s) ∧
      (∃ rest, Read.stream reads = passed ++ rest) ∧ passed.size ≤ cap.toNat ∧
      (w.TakesAll →
        (outcome = .exceeded ↔ cap.toNat < size) ∧
        (size ≤ cap.toNat → passed = Read.stream reads ∧
          outcome = match Read.failure? reads with
            | none => .complete size
            | some message => .failed message) ∧
        ∀ reads', Read.stream reads' = Read.stream reads → Read.failure? reads' = Read.failure? reads →
          ∀ (τ : Type) (w' : Writer τ) (s' : τ), w'.TakesAll →
            (boundedCopy w' cap.toNat reads' 0 s').1 = outcome) := by
  intro size passed outcome
  refine ⟨checkedCopy_eq w (Nat.zero_le _) hcap hreads s, exists_stream_eq w cap.toNat reads s, ?_,
    fun hall ↦ ?_⟩
  · have hfits := (handsOn_handed w cap.toNat reads s).fits
    rw [Nat.zero_add, ← size_joined] at hfits
    exact hfits
  · obtain ⟨hexceeded, hwhole⟩ := boundedCopy_of_takesAll hall cap.toNat reads s
    refine ⟨hexceeded, hwhole, fun reads' hstream hend τ w' s' hall' ↦ ?_⟩
    exact outcome_eq_of_stream_eq hall hall' hstream hend cap.toNat s s'

/-- The same five bytes before a failure, in one chunk and in two: there are too many of them
either way, but nothing is handed on the first time, and three bytes the second time. -/
theorem boundedCopy_exact_two_cuts :
    let whole : List Read := [.bytes ⟨#[1, 2, 3, 4, 5]⟩, .failed "gone"]
    let cut : List Read := [.interrupted, .bytes ⟨#[1, 2, 3]⟩, .bytes ⟨#[4, 5]⟩, .interrupted, .failed "gone"]
    (boundedCopy .unlimited 4 whole 0 #[]).1 = .exceeded ∧
      (boundedCopy .unlimited 4 cut 0 #[]).1 = .exceeded ∧
      handed .unlimited 4 whole #[] = [] ∧ handed .unlimited 4 cut #[] = [⟨#[1, 2, 3]⟩] ∧
      checkedCopy .unlimited 4 whole 0 #[] = some (.exceeded, #[]) := by
  intro whole cut
  have hreads : ∀ chunk, .bytes chunk ∈ whole → chunk.size ≤ Read.capacity := by
    intro chunk hmem
    obtain rfl : chunk = ⟨#[1, 2, 3, 4, 5]⟩ := by simpa [whole] using hmem
    decide
  have hcap : (4 : UInt64).toNat + Read.capacity < 2 ^ 64 := by decide
  obtain ⟨hchecked, -, -, hall⟩ := boundedCopy_exact .unlimited #[] hcap hreads
  obtain ⟨hexceeded, -, hsame⟩ := hall Writer.takesAll_unlimited
  have hwhole : (boundedCopy .unlimited 4 whole 0 #[]).1 = .exceeded := hexceeded.mpr (by decide)
  refine ⟨hwhole, ?_, rfl, rfl, hchecked.trans rfl⟩
  exact (hsame cut rfl rfl _ .unlimited #[] Writer.takesAll_unlimited).trans hwhole

end CodeSurvey
