import CodeSurvey.Proofs.Intake.Allowance
import CodeSurvey.Proofs.Intake.Outcomes

/-!
# Ceilings for the whole only cut a run short

The ceilings on the number of files and on all bytes together say when an unpacking
stops.  They do not say what becomes of an entry before that: a run under lower
ceilings does the same as one under higher ceilings, entry by entry, until it stops.
So whatever it has counted then, the other run counts at least as often.
-/

namespace CodeSurvey

open Placement Extraction

/-- Ceilings that are the same for a single file, and not higher for all files together. -/
structure Limits.Narrows (limits limits' : Limits) : Prop where
  maxFileSize_eq : limits.maxFileSize = limits'.maxFileSize
  maxCompressionRatio_eq : limits.maxCompressionRatio = limits'.maxCompressionRatio
  maxFileCount_le : limits.maxFileCount ≤ limits'.maxFileCount
  maxTotalBytes_le : limits.maxTotalBytes ≤ limits'.maxTotalBytes

/-! ## The same run under other ceilings -/

namespace Extraction

/-- An unpacking as it stands, with other ceilings from here on. -/
def under (limits : Limits) (x : Extraction) : Extraction :=
  { x with budget := { x.budget with limits } }

theorem record_under (limits : Limits) (x : Extraction) (p : Placement) :
    (x.under limits).record p = (x.record p).under limits := by
  rw [record, record]
  cases p.outcome <;> rfl

variable {limits limits' : Limits} {x : Extraction} {root : Location} {e : Option Entry}

/-- Under higher ceilings the next entry is taken as well. -/
theorem refusal?_under (h : limits.Narrows limits') (hlimits : x.budget.limits = limits)
    (hrefusal : x.budget.refusal? = none) : (x.under limits').budget.refusal? = none := by
  obtain ⟨hrunning, hcount⟩ := Budget.refusal?_eq_none_iff.mp hrefusal
  rw [hlimits] at hcount
  exact Budget.refusal?_eq_none_iff.mpr
    ⟨hrunning, Nat.lt_of_lt_of_le hcount (UInt64.le_iff_toNat_le.mp h.maxFileCount_le)⟩

/-- Under higher ceilings the same becomes of the next entry, unless this stops the run. -/
theorem placement_under (h : limits.Narrows limits') (hlimits : x.budget.limits = limits)
    (hgoes : ∀ reason, (x.placement root e).outcome ≠ .stopped reason) :
    (x.under limits').placement root e = x.placement root e := by
  cases e with
  | none => rfl
  | some entry =>
    subst hlimits
    have hleft : x.budget.limits.maxTotalBytes.toNat - x.budget.totalBytes ≤
        limits'.maxTotalBytes.toNat - x.budget.totalBytes :=
      Nat.sub_le_sub_right (UInt64.le_iff_toNat_le.mp h.maxTotalBytes_le) _
    have htighter : x.budget.Tighter (x.under limits').budget :=
      ⟨h.maxFileSize_eq, h.maxCompressionRatio_eq, Budget.allowance_tighter h.maxFileSize_eq hleft⟩
    rcases ofEntry_of_tighter htighter x.tree root entry with hout | heq
    · exact absurd hout (hgoes _)
    · exact heq.symm

end Extraction

variable {limits limits' : Limits}

/-- As long as nothing has stopped a run, it is the run under higher ceilings. -/
theorem extract_under (h : limits.Narrows limits') (t : FileTree) (root : Location)
    (entries : Entries) (hrunning : (extract t root limits entries).budget.stopped = none) :
    extract t root limits' entries = (extract t root limits entries).under limits' := by
  refine running_induction (motive := fun past x ↦ extract t root limits' past = x.under limits')
    rfl ?_ entries hrunning
  intro past e x ih hrefusal hgoes
  have hlimits : x.budget.limits = limits := limits_extract ..
  rw [extract_concat, ih, step, refusal?_under h hlimits hrefusal]
  dsimp only
  rw [placement_under h hlimits hgoes, record_under]

/-! ## Tallies that grow -/

namespace IntakeStats

/-- One tally counts no more files, bytes, directories and omissions than another. -/
structure AtMost (s s' : IntakeStats) : Prop where
  filesExtracted_le : s.filesExtracted ≤ s'.filesExtracted
  bytesExtracted_le : s.bytesExtracted ≤ s'.bytesExtracted
  directoriesCreated_le : s.directoriesCreated ≤ s'.directoriesCreated
  skippedFor_le : ∀ reason, s.skippedFor reason ≤ s'.skippedFor reason

namespace AtMost

theorem trans {s s' s'' : IntakeStats} (h : s.AtMost s') (h' : s'.AtMost s'') : s.AtMost s'' where
  filesExtracted_le := Nat.le_trans h.filesExtracted_le h'.filesExtracted_le
  bytesExtracted_le := Nat.le_trans h.bytesExtracted_le h'.bytesExtracted_le
  directoriesCreated_le := Nat.le_trans h.directoriesCreated_le h'.directoriesCreated_le
  skippedFor_le reason := Nat.le_trans (h.skippedFor_le reason) (h'.skippedFor_le reason)

theorem of_eq {s s' : IntakeStats} (hfiles : s.filesExtracted = s'.filesExtracted)
    (hbytes : s.bytesExtracted = s'.bytesExtracted)
    (hdirectories : s.directoriesCreated = s'.directoriesCreated) (hskipped : s.skipped = s'.skipped) :
    s.AtMost s' where
  filesExtracted_le := Nat.le_of_eq hfiles
  bytesExtracted_le := Nat.le_of_eq hbytes
  directoriesCreated_le := Nat.le_of_eq hdirectories
  skippedFor_le reason := by rw [skippedFor, skippedFor, hskipped]

/-- No count goes down when an outcome is noted. -/
theorem note {s : IntakeStats} (h : s.bytesExtracted ≤ Budget.maxTotal) (outcome : EntryOutcome) :
    s.AtMost (s.note outcome) where
  filesExtracted_le := by cases outcome <;> simp [IntakeStats.note, recordSkip]
  bytesExtracted_le := by cases outcome <;> simp [IntakeStats.note, recordSkip, h]
  directoriesCreated_le := by cases outcome <;> simp [IntakeStats.note, recordSkip]
  skippedFor_le reason := by
    rw [skippedFor_note]
    exact Nat.le_add_right ..

end AtMost

end IntakeStats

theorem totalBytes_le_maxTotal (t : FileTree) (root : Location) (limits : Limits) (entries : Entries) :
    (extract t root limits entries).budget.totalBytes ≤ Budget.maxTotal := by
  induction entries using extract_induction with
  | start => exact Nat.zero_le _
  | take past e x ih _ =>
    rw [record]
    cases (x.placement root e).outcome with
    | written size => exact Nat.min_le_right ..
    | _ => exact ih
  | refuse past e reason x ih _ => exact ih

theorem atMost_append (t : FileTree) (root : Location) (limits : Limits) (past rest : Entries) :
    (extract t root limits past).finalStats.AtMost
      (extract t root limits (past ++ rest)).finalStats := by
  induction rest using append_induction with
  | start => exact .of_eq rfl rfl rfl rfl
  | place more e x ih =>
    rw [finalStats_record]
    exact ih.trans (.note (totalBytes_le_maxTotal ..) _)
  | refuse more e reason x ih => exact ih.trans (.of_eq rfl rfl rfl rfl)

/-! ## The run that is cut short -/

/-- A run goes as another one, but may be stopped before. -/
structure Truncates (x y : Extraction) : Prop where
  /-- The same becomes of every entry, but perhaps of that at which it is stopped. -/
  outcomes : ∃ kept, (x.outcomes = kept ∨ ∃ reason, x.outcomes = kept ++ [.stopped reason]) ∧
    kept <+: y.outcomes
  atMost : x.finalStats.AtMost y.finalStats

/-- The entry at which a run is stopped adds nothing but the stop. -/
theorem Extraction.Stepped.of_stopped {root : Location} {x y : Extraction} {e : Option Entry}
    (h : Stepped root x e y) (hrunning : x.budget.stopped = none) (hstopped : y.budget.stopped ≠ none) :
    (y.outcomes = x.outcomes ∨ ∃ reason, y.outcomes = x.outcomes ++ [.stopped reason]) ∧
      y.finalStats.AtMost x.finalStats := by
  cases h with
  | full _ => exact ⟨.inl rfl, .of_eq rfl rfl rfl rfl⟩
  | placed _ hgoes => exact absurd ((stopped_record_of_goes hgoes x).trans hrunning) hstopped
  | met _ hout =>
    rw [outcomes_record, finalStats_record, hout]
    exact ⟨.inr ⟨_, rfl⟩, .of_eq rfl rfl rfl rfl⟩

/-- Under lower ceilings for the whole, a run is that under the higher ones, cut short. -/
theorem truncates_extract (h : limits.Narrows limits') (t : FileTree) (root : Location)
    (entries : Entries) :
    Truncates (extract t root limits entries) (extract t root limits' entries) := by
  by_cases hrunning : (extract t root limits entries).budget.stopped = none
  · rw [extract_under h t root entries hrunning]
    exact ⟨⟨_, .inl rfl, List.prefix_rfl⟩, .of_eq rfl rfl rfl rfl⟩
  · obtain ⟨past, e, rest, rfl, hbefore, hstopped, hend⟩ := exists_stop hrunning
    have hsame := extract_under h t root past hbefore
    obtain ⟨hout, hstats⟩ := (stepped_extract_concat hbefore e).of_stopped hbefore hstopped
    rw [hend]
    refine ⟨⟨(extract t root limits past).outcomes, hout, ?_⟩, ?_⟩
    · have hprefix := outcomes_prefix_append t root limits' past (e :: rest)
      rw [hsame] at hprefix
      exact hprefix
    · have hgrow := atMost_append t root limits' past (e :: rest)
      rw [hsame] at hgrow
      exact hstats.trans hgrow

/-- Of three files the second is too much for five bytes in all; with more room it turns out
that it cannot be read to its end, and the third one is written. -/
theorem truncates_extract_failing_stream :
    let t : FileTree := (∅ : FileTree).insert ["w"] .directory
    let limits : Limits := { Limits.builtin with maxTotalBytes := 5 }
    let entries : Entries :=
      [some ⟨"a.py", false, 3, 3, .pure [.bytes ⟨#[97, 61, 49]⟩]⟩,
        some ⟨"b.py", false, 2, 2, .pure [.bytes ⟨#[98, 61]⟩, .bytes ⟨#[49]⟩, .failed "corrupt"]⟩,
        some ⟨"c.py", false, 1, 1, .pure [.bytes ⟨#[99]⟩]⟩]
    limits.Narrows .builtin ∧
      Truncates (extract t ["w"] limits entries) (extract t ["w"] .builtin entries) ∧
      (extract t ["w"] limits entries).outcomes = [.written 3, .stopped .totalBytes] ∧
      (extract t ["w"] .builtin entries).outcomes = [.written 3, .skipped .writeFailed, .written 1] := by
  intro t limits entries
  have hnarrows : limits.Narrows .builtin := ⟨rfl, rfl, by decide, by decide⟩
  refine ⟨hnarrows, truncates_extract hnarrows t ["w"] entries, ?_, ?_⟩
  · decide +kernel
  · decide +kernel

end CodeSurvey
