import CodeSurvey.Proofs.Run

/-!
# Every entry is accounted for

The tally of an unpacking counts each entry that was taken once: as a file, as a
directory, as left out, or as the one at which the ceiling for the total was met.
An unpacking is stopped for no other reason than that a ceiling leaves no room, and
nothing that an entry holds makes it fail.
-/

namespace CodeSurvey

namespace Read

/-- How many bytes a copy under a cap is brought until it ends, the chunk that goes
past the cap included, after `written` bytes have been copied. -/
def brought (cap : Nat) : List Read → Nat → Nat
  | [], written => written
  | interrupted :: rest, written => brought cap rest written
  | failed _ :: _, written => written
  | bytes chunk :: rest, written =>
    if chunk.size = 0 then written
    else if cap < written + chunk.size then written + chunk.size
    else brought cap rest (written + chunk.size)

/-- A copy is brought more than the cap exactly if the stream is longer than the cap. -/
theorem lt_brought_iff {cap written : Nat} (hcap : written ≤ cap) (reads : List Read) :
    cap < brought cap reads written ↔ cap < written + totalSize (delivered reads) := by
  induction reads generalizing written with
  | nil => exact Iff.rfl
  | cons read rest ih =>
    cases read with
    | interrupted => exact ih hcap
    | failed message => exact Iff.rfl
    | bytes chunk =>
      rw [brought, delivered]
      split
      next hempty => exact Iff.rfl
      next hne =>
        rw [totalSize_cons, ← Nat.add_assoc]
        split
        next hmore => exact ⟨fun h ↦ Nat.lt_of_lt_of_le h (Nat.le_add_right ..), fun _ ↦ hmore⟩
        next hroom => exact ih (Nat.le_of_not_lt hroom)

end Read

open Placement Extraction

/-! ## One entry -/

/-- Placing an entry stops an unpacking only at the ceiling for the total: the entry has
more bytes than what is left of it. -/
theorem Placement.Course.of_stopped {t : FileTree} {root : Location} {b : Budget} {e : Entry}
    {p : Placement} (h : Course t root b e p) {reason : StopReason}
    (hout : p.outcome = .stopped reason) :
    reason = .totalBytes ∧ b.allowance.boundedByTotal = true ∧
      b.allowance.bytes < (Read.stream e.reads.get).size := by
  cases h with
  | refused reason => exact nomatch hout
  | directories _ _ _ hwhich => rcases hwhich with rfl | rfl <;> exact nomatch hout
  | blocked _ _ => exact nomatch hout
  | written _ _ _ _ _ => exact nomatch hout
  | abandoned _ _ _ _ _ hwhy =>
    rcases hwhy with ⟨_, -, rfl⟩ | ⟨hmore, rfl⟩
    · exact nomatch hout
    · dsimp only at hout
      split at hout
      next hbounded => exact ⟨(EntryOutcome.stopped.inj hout).symm, hbounded, hmore⟩
      next => exact nomatch hout

namespace Budget

/-- An entry is refused because the unpacking was stopped before, or because there may be
no more files. -/
theorem refusal?_cases {b : Budget} {reason : StopReason} (h : b.refusal? = some reason) :
    b.stopped = some reason ∨
      b.stopped = none ∧ reason = .fileCount ∧ b.limits.maxFileCount.toNat ≤ b.fileCount := by
  unfold refusal? at h
  cases hstopped : b.stopped with
  | some earlier =>
    rw [hstopped] at h
    exact .inl h
  | none =>
    rw [hstopped] at h
    dsimp only at h
    split at h
    next hfull => exact .inr ⟨rfl, (Option.some.inj h).symm, hfull⟩
    next => exact nomatch h

/-- What is left of the total, if that is the bound on the next file. -/
theorem remaining_le_allowance {b : Budget} (h : b.allowance.boundedByTotal = true) :
    b.limits.maxTotalBytes.toNat ≤ b.totalBytes + b.allowance.bytes := by
  unfold allowance at h ⊢
  dsimp only at h ⊢
  split at h
  next hless =>
    rw [if_pos hless]
    dsimp only
    omega
  next => exact nomatch h

end Budget

/-- The entry at which an unpacking is stopped brings more than what is left of the
total. -/
theorem Extraction.placement_of_stopped {x : Extraction} {root : Location} {e : Option Entry}
    {reason : StopReason} (h : (x.placement root e).outcome = .stopped reason) :
    reason = .totalBytes ∧ ∃ entry, e = some entry ∧
      x.budget.limits.maxTotalBytes.toNat <
        x.budget.totalBytes + Read.brought x.budget.allowance.bytes entry.reads.get 0 := by
  rcases x.placement_cases root e with heq | ⟨entry, rfl, hcourse⟩
  · rw [heq] at h
    exact nomatch h
  obtain ⟨rfl, hbounded, hmore⟩ := hcourse.of_stopped h
  refine ⟨rfl, entry, rfl, ?_⟩
  have hbrought : x.budget.allowance.bytes < Read.brought x.budget.allowance.bytes entry.reads.get 0 := by
    rw [Read.lt_brought_iff (Nat.zero_le _), Nat.zero_add, ← Read.size_stream]
    exact hmore
  exact Nat.lt_of_le_of_lt (Budget.remaining_le_allowance hbounded) (Nat.add_lt_add_left hbrought _)

theorem IntakeStats.totalSkipped_recordSkip (s : IntakeStats) (reason : EntrySkip) :
    (s.recordSkip reason).totalSkipped = s.totalSkipped + 1 :=
  SortedMap.sum_values_alter ..

/-- How many entries have become a file or a directory, or have been left out. -/
def IntakeStats.counted (s : IntakeStats) : Nat :=
  s.filesExtracted + s.directoriesCreated + s.totalSkipped

/-- An entry that does not stop the unpacking is counted once, whatever becomes of it. -/
theorem Extraction.counted_record (x : Extraction) {p : Placement}
    (h : ∀ reason, p.outcome ≠ .stopped reason) :
    (x.record p).finalStats.counted = x.finalStats.counted + 1 ∧
      (x.record p).finalStats.stopped = x.finalStats.stopped := by
  rw [record]
  cases hout : p.outcome with
  | directory =>
    refine ⟨?_, rfl⟩
    show x.budget.fileCount + (x.stats.directoriesCreated + 1) + x.stats.totalSkipped = _
    rw [← Nat.add_assoc, Nat.add_right_comm]
    rfl
  | written size =>
    refine ⟨?_, rfl⟩
    show x.budget.fileCount + 1 + x.stats.directoriesCreated + x.stats.totalSkipped = _
    rw [Nat.add_right_comm _ 1, Nat.add_right_comm _ 1]
    rfl
  | skipped reason =>
    refine ⟨?_, rfl⟩
    show _ + (IntakeStats.recordSkip _ reason).totalSkipped = _
    rw [IntakeStats.totalSkipped_recordSkip]
    rfl
  | stopped reason => exact absurd hout (h reason)

/-- The entry that stops the unpacking is not counted. -/
theorem Extraction.counted_record_of_stopped (x : Extraction) {p : Placement} {reason : StopReason}
    (h : p.outcome = .stopped reason) :
    (x.record p).finalStats.counted = x.finalStats.counted ∧
      (x.record p).finalStats.stopped = some (x.finalStats.stopped.getD reason) := by
  rw [record, h]
  exact ⟨rfl, rfl⟩

theorem Extraction.entriesSeen_record (x : Extraction) (p : Placement) :
    (x.record p).finalStats.entriesSeen = x.finalStats.entriesSeen + 1 := by
  rw [record]
  cases p.outcome <;> rfl

/-- An entry makes one file at most. -/
theorem Extraction.filesExtracted_record_le (x : Extraction) (p : Placement) :
    (x.record p).finalStats.filesExtracted ≤ x.finalStats.filesExtracted + 1 := by
  rw [record]
  cases p.outcome with
  | written size => exact Nat.le_refl _
  | _ => exact Nat.le_succ _

/-! ## The whole run -/

/-- How the tally of an unpacking accounts for the entries of an archive. -/
structure Accounted (t : FileTree) (root : Location) (limits : Limits) (entries : Entries)
    (s : IntakeStats) : Prop where
  /-- Each entry that was seen has been counted once, but for that at which the ceiling
  for the total was met. -/
  entriesSeen_eq : s.entriesSeen = s.counted + if s.stopped = some .totalBytes then 1 else 0
  /-- If nothing stopped the run, it has seen every entry. -/
  of_none : s.stopped = none → s.entriesSeen = entries.length
  /-- The run is stopped before an entry only if there may be no more files. -/
  of_fileCount : s.stopped = some .fileCount →
    s.filesExtracted = limits.maxFileCount.toNat ∧ s.entriesSeen < entries.length
  /-- The run is stopped at an entry only if this brings more bytes than are left. -/
  of_totalBytes : s.stopped = some .totalBytes → ∃ past last rest,
    entries = past ++ some last :: rest ∧ s.entriesSeen = past.length + 1 ∧
      limits.maxTotalBytes.toNat < s.bytesExtracted +
        Read.brought (extract t root limits past).budget.allowance.bytes last.reads.get 0
  filesExtracted_le : s.filesExtracted ≤ limits.maxFileCount.toNat

namespace Accounted

variable {t : FileTree} {root : Location} {limits : Limits} {entries past : Entries}
  {e : Option Entry} {s : IntakeStats}

/-- While nothing has stopped a run, there are only counters to be looked at. -/
theorem of_running (hstopped : s.stopped = none) (hseen : s.entriesSeen = s.counted)
    (hall : s.entriesSeen = entries.length) (hle : s.filesExtracted ≤ limits.maxFileCount.toNat) :
    Accounted t root limits entries s where
  entriesSeen_eq := by
    rw [hstopped]
    exact hseen
  of_none _ := hall
  of_fileCount h := nomatch hstopped.symm.trans h
  of_totalBytes h := nomatch hstopped.symm.trans h
  filesExtracted_le := hle

/-- A run that is stopped before an entry. -/
theorem of_full (hstopped : s.stopped = some .fileCount) (hseen : s.entriesSeen = s.counted)
    (hless : s.entriesSeen < entries.length) (hfull : s.filesExtracted = limits.maxFileCount.toNat) :
    Accounted t root limits entries s where
  entriesSeen_eq := by
    rw [hstopped]
    exact hseen
  of_none h := nomatch hstopped.symm.trans h
  of_fileCount _ := ⟨hfull, hless⟩
  of_totalBytes h := nomatch hstopped.symm.trans h
  filesExtracted_le := Nat.le_of_eq hfull

/-- Entries that come after a run was stopped change nothing. -/
theorem append (h : Accounted t root limits entries s) (hstopped : s.stopped ≠ none)
    (more : Entries) : Accounted t root limits (entries ++ more) s where
  entriesSeen_eq := h.entriesSeen_eq
  of_none hnone := absurd hnone hstopped
  of_fileCount hcount := by
    obtain ⟨hfull, hless⟩ := h.of_fileCount hcount
    refine ⟨hfull, Nat.lt_of_lt_of_le hless ?_⟩
    rw [List.length_append]
    exact Nat.le_add_right ..
  of_totalBytes htotal := by
    obtain ⟨past, last, rest, rfl, hlast⟩ := h.of_totalBytes htotal
    exact ⟨past, last, rest ++ more, by simp, hlast⟩
  filesExtracted_le := h.filesExtracted_le

/-- While a run goes on, every entry seen has been counted. -/
theorem counted_eq (h : Accounted t root limits entries s) (hrunning : s.stopped = none) :
    s.counted = entries.length := by
  have hseen := h.entriesSeen_eq
  rw [hrunning] at hseen
  exact hseen.symm.trans (h.of_none hrunning)

theorem start : Accounted t root limits [] (Extraction.start t limits).finalStats :=
  of_running rfl rfl rfl (Nat.zero_le _)

/-- An entry that is refused is not seen. -/
theorem refuse {x : Extraction} {reason : StopReason} (h : Accounted t root limits past x.finalStats)
    (hlimits : x.budget.limits = limits) (hrefusal : x.budget.refusal? = some reason) :
    Accounted t root limits (past ++ [e])
      { x with budget := x.budget.stop reason }.finalStats := by
  rcases Budget.refusal?_cases hrefusal with hstopped | ⟨hrunning, rfl, hfull⟩
  · rw [Budget.stop_of_stopped hstopped]
    exact h.append (fun hnone ↦ nomatch hstopped.symm.trans hnone) [e]
  · have hall : x.stats.entriesSeen = past.length := h.of_none hrunning
    refine of_full ?_ (hall.trans (h.counted_eq hrunning).symm) ?_ ?_
    · exact (Budget.stopped_stop ..).trans (by rw [hrunning]; rfl)
    · rw [List.length_append]
      exact Nat.lt_succ_of_le (Nat.le_of_eq hall)
    · exact Nat.le_antisymm h.filesExtracted_le (hlimits ▸ hfull)

/-- An entry that is taken and does not stop the run is counted. -/
theorem take {x : Extraction} (h : Accounted t root limits past x.finalStats)
    (hlimits : x.budget.limits = limits) (hrefusal : x.budget.refusal? = none)
    (hgoes : ∀ reason, (x.placement root e).outcome ≠ .stopped reason) :
    Accounted t root limits (past ++ [e]) (x.record (x.placement root e)).finalStats := by
  obtain ⟨hrunning, hmore⟩ := Budget.refusal?_eq_none_iff.mp hrefusal
  obtain ⟨hcounted, hstopped⟩ := x.counted_record hgoes
  have hseen : (x.record (x.placement root e)).finalStats.entriesSeen = past.length + 1 := by
    rw [entriesSeen_record, h.of_none hrunning]
  refine of_running (hstopped.trans hrunning) ?_ ?_ ?_
  · rw [hseen, hcounted, h.counted_eq hrunning]
  · rw [hseen, List.length_append]
    rfl
  · exact Nat.le_trans (x.filesExtracted_record_le _) (hlimits ▸ hmore)

/-- An entry at which the ceiling for the total is met is seen, and the run ends with it. -/
theorem meet {reason : StopReason}
    (h : Accounted t root limits past (extract t root limits past).finalStats)
    (hrefusal : (extract t root limits past).budget.refusal? = none)
    (hout : ((extract t root limits past).placement root e).outcome = .stopped reason) :
    Accounted t root limits (past ++ [e])
      ((extract t root limits past).record
        ((extract t root limits past).placement root e)).finalStats := by
  obtain ⟨hrunning, -⟩ := Budget.refusal?_eq_none_iff.mp hrefusal
  obtain ⟨rfl, last, rfl, hmet⟩ := placement_of_stopped hout
  obtain ⟨hcounted, hstopped⟩ := (extract t root limits past).counted_record_of_stopped hout
  rw [show (extract t root limits past).finalStats.stopped = none from hrunning,
    Option.getD_none] at hstopped
  have hseen := (extract t root limits past).entriesSeen_record
    ((extract t root limits past).placement root (some last))
  rw [h.of_none hrunning] at hseen
  rw [limits_extract] at hmet
  refine ⟨?_, ?_, ?_, ?_, ?_⟩
  · rw [hseen, hcounted, h.counted_eq hrunning, if_pos hstopped]
  · intro hnone
    exact nomatch hstopped.symm.trans hnone
  · intro hcount
    exact nomatch hstopped.symm.trans hcount
  · intro _
    refine ⟨past, last, [], rfl, hseen, ?_⟩
    rw [record, hout]
    exact hmet
  · rw [record, hout]
    exact h.filesExtracted_le

end Accounted

/-- Every entry of an archive is accounted for. -/
theorem accounted_extract (t : FileTree) (root : Location) (limits : Limits) (entries : Entries) :
    Accounted t root limits entries (extract t root limits entries).finalStats := by
  induction entries using extract_induction with
  | start => exact .start
  | take past e x ih hrefusal =>
    by_cases hout : ∃ reason, (x.placement root e).outcome = .stopped reason
    · obtain ⟨reason, hout⟩ := hout
      exact ih.meet hrefusal hout
    · exact ih.take (limits_extract ..) hrefusal (not_exists.mp hout)
  | refuse past e reason x ih hrefusal => exact ih.refuse (limits_extract ..) hrefusal

/-- Whatever entries an archive has, unpacking it succeeds and accounts for all of them.
Only an archive whose entries cannot be listed is refused. -/
theorem accounted_ofEntries (t : FileTree) (limits : Limits) (entries : Entries) :
    (∃ s, (PreparedInput.ofEntries t limits entries).intake = some s ∧
      Accounted (t.insert (Workspace.location t) .directory) (Workspace.location t) limits entries s) ∧
    ∀ cwd loc raw, Input.accept t cwd limits raw = .ok (.archive loc) →
      Input.entries t [] limits (Location.path loc) = .ok entries →
      PreparedInput.ofPath t cwd limits raw = .ok (.ofEntries t limits entries) := by
  constructor
  · exact ⟨_, rfl, accounted_extract ..⟩
  · intro cwd loc raw haccept hentries
    exact PreparedInput.ofPath_of_archive haccept hentries

/-- Three files, of which the second would have to be below the first. -/
def clashingFiles : List Archive.StoredFile :=
  [.ofText "a.py" "x = 1\n", .ofText "a.py/b.py" "y = 2\n", .ofText "c.py" "z = 3\n"]

theorem storable_clashingFiles : Archive.Storable clashingFiles where
  ne_nil := List.cons_ne_nil _ _
  few := by decide
  small := by decide +kernel
  short := by decide +kernel

/-- A file that cannot be written is seen and left out, and the others are unpacked. -/
theorem accounted_ofEntries_clashing :
    let t := archiveOf clashingFiles
    let entries := clashingFiles.map fun f ↦ some f.entry
    Input.accept t [] .builtin "a.zip" = .ok (.archive ["a.zip"]) ∧
      Input.entries t [] .builtin (Location.path ["a.zip"]) = .ok entries ∧
      PreparedInput.ofPath t [] .builtin "a.zip" = .ok (.ofEntries t .builtin entries) ∧
      ((PreparedInput.ofEntries t .builtin entries).intake.map fun s ↦
        (s.entriesSeen, s.filesExtracted, s.skipped.get? .writeFailed)) = some (3, 2, some 1) := by
  intro t entries
  have haccept : Input.accept t [] .builtin "a.zip" = .ok (.archive ["a.zip"]) :=
    accept_archiveOf (by decide +kernel)
  have hentries := entries_archiveOf storable_clashingFiles .builtin
  have hofPath := (accounted_ofEntries t .builtin entries).2 [] ["a.zip"] "a.zip" haccept hentries
  exact ⟨haccept, hentries, hofPath, by decide +kernel⟩

end CodeSurvey
