import CodeSurvey.Proofs.Intake.Tally

/-!
# A run as the list of its outcomes

As long as nothing stops an unpacking, every entry is placed, and the tally can be
read off what became of the entries, one after the other.  If it is stopped, then at
one entry: the run up to there was an ordinary one, and nothing happens afterwards.
Two runs are compared by comparing the ordinary parts of both.
-/

namespace CodeSurvey

open Placement Extraction

/-! ## The tally, outcome by outcome -/

namespace EntrySkip

theorem ctorIdx_inj {a b : EntrySkip} (h : a.ctorIdx = b.ctorIdx) : a = b := by
  rw [← ofNat_ctorIdx a, h, ofNat_ctorIdx]

instance : Std.Irrefl (α := EntrySkip) (· < ·) := ⟨fun reason ↦ Nat.lt_irrefl reason.ctorIdx⟩

instance : Std.Trichotomous (α := EntrySkip) (· < ·) where
  trichotomous _ _ hab hba := ctorIdx_inj (Nat.le_antisymm (Nat.le_of_not_lt hba) (Nat.le_of_not_lt hab))

end EntrySkip

namespace IntakeStats

/-- How many entries have been left out for a reason. -/
def skippedFor (s : IntakeStats) (reason : EntrySkip) : Nat := (s.skipped.get? reason).getD 0

theorem skippedFor_recordSkip (s : IntakeStats) (reason reason' : EntrySkip) :
    (s.recordSkip reason).skippedFor reason' =
      s.skippedFor reason' + if reason' = reason then 1 else 0 := by
  rw [skippedFor, recordSkip, SortedMap.get?_alter]
  by_cases heq : reason' = reason
  · subst heq
    rw [if_pos rfl, if_pos rfl]
    rfl
  · rw [if_neg heq, if_neg heq]
    rfl

/-- The tally after one more entry. -/
def note (s : IntakeStats) (outcome : EntryOutcome) : IntakeStats :=
  let s := { s with entriesSeen := s.entriesSeen + 1 }
  match outcome with
  | .directory => { s with directoriesCreated := s.directoriesCreated + 1 }
  | .written size =>
    { s with
      filesExtracted := s.filesExtracted + 1
      bytesExtracted := min (s.bytesExtracted + size) Budget.maxTotal }
  | .skipped reason => s.recordSkip reason
  | .stopped reason => { s with stopped := some (s.stopped.getD reason) }

theorem skippedFor_note (s : IntakeStats) (outcome : EntryOutcome) (reason : EntrySkip) :
    (s.note outcome).skippedFor reason =
      s.skippedFor reason + if outcome = .skipped reason then 1 else 0 := by
  cases outcome with
  | skipped reason' =>
    refine (skippedFor_recordSkip ..).trans ?_
    simp only [EntryOutcome.skipped.injEq, eq_comm]
    rfl
  | _ => rfl

end IntakeStats

namespace Extraction

/-- What became of the entries so far, from first to last. -/
def outcomes (x : Extraction) : List EntryOutcome := x.history.reverse.map Placement.outcome

theorem outcomes_record (x : Extraction) (p : Placement) :
    (x.record p).outcomes = x.outcomes ++ [p.outcome] := by
  simp [outcomes, record]

theorem finalStats_record (x : Extraction) (p : Placement) :
    (x.record p).finalStats = x.finalStats.note p.outcome := by
  rw [record]
  cases p.outcome <;> rfl

/-! ## One entry -/

/-- All that an entry can make of an unpacking that nothing has stopped. -/
inductive Stepped (root : Location) (x : Extraction) (e : Option Entry) : Extraction → Prop
  /-- There may be no more files, so the entry is not seen. -/
  | full : x.budget.refusal? = some .fileCount →
      Stepped root x e { x with budget := x.budget.stop .fileCount }
  /-- The entry is placed, and the run goes on. -/
  | placed : x.budget.refusal? = none → (∀ reason, (x.placement root e).outcome ≠ .stopped reason) →
      Stepped root x e (x.record (x.placement root e))
  /-- The ceiling for the total is met at the entry. -/
  | met : x.budget.refusal? = none → (x.placement root e).outcome = .stopped .totalBytes →
      Stepped root x e (x.record (x.placement root e))

variable {x y : Extraction} {root : Location} {e : Option Entry}

theorem step_of_refusal {reason : StopReason} (h : x.budget.refusal? = some reason) (root : Location)
    (e : Option Entry) : x.step root e = { x with budget := x.budget.stop reason } := by
  rw [step, h]

theorem stepped_step (hrunning : x.budget.stopped = none) (root : Location) (e : Option Entry) :
    Stepped root x e (x.step root e) := by
  rw [step]
  cases hrefusal : x.budget.refusal? with
  | some reason =>
    rcases Budget.refusal?_cases hrefusal with hstopped | ⟨-, rfl, -⟩
    · rw [hrunning] at hstopped
      cases hstopped
    · exact .full hrefusal
  | none =>
    by_cases hout : ∃ reason, (x.placement root e).outcome = .stopped reason
    · obtain ⟨reason, hout⟩ := hout
      obtain ⟨rfl, -⟩ := placement_of_stopped hout
      exact .met hrefusal hout
    · exact .placed hrefusal (not_exists.mp hout)

theorem stopped_record_of_goes {p : Placement} (h : ∀ reason, p.outcome ≠ .stopped reason)
    (x : Extraction) : (x.record p).budget.stopped = x.budget.stopped :=
  (x.counted_record h).2

/-- What an entry that is placed leaves running was running before, and the entry did not
stop it. -/
theorem Stepped.of_running (h : Stepped root x e y) (hrunning : y.budget.stopped = none) :
    x.budget.refusal? = none ∧ (∀ reason, (x.placement root e).outcome ≠ .stopped reason) ∧
      y = x.record (x.placement root e) := by
  cases h with
  | full _ => exact nomatch hrunning
  | placed hrefusal hgoes => exact ⟨hrefusal, hgoes, rfl⟩
  | met _ hout =>
    have hstopped := (x.counted_record_of_stopped hout).2
    exact nomatch hrunning.symm.trans hstopped

end Extraction

/-! ## The ordinary part of a run -/

variable {t : FileTree} {root : Location} {limits : Limits}

theorem stepped_extract_concat {past : Entries}
    (hrunning : (extract t root limits past).budget.stopped = none) (e : Option Entry) :
    Stepped root (extract t root limits past) e (extract t root limits (past ++ [e])) := by
  rw [extract_concat]
  exact stepped_step hrunning root e

/-- A run that nothing has stopped was not stopped before either. -/
theorem running_of_running_concat {past : Entries} {e : Option Entry}
    (h : (extract t root limits (past ++ [e])).budget.stopped = none) :
    (extract t root limits past).budget.stopped = none := by
  cases hstopped : (extract t root limits past).budget.stopped with
  | none => rfl
  | some reason => rw [extract_concat, step_of_stopped hstopped, hstopped] at h; exact h

/-- What holds at the start and after every entry that is placed holds as long as nothing
has stopped the run. -/
theorem running_induction {motive : Entries → Extraction → Prop} (start : motive [] (.start t limits))
    (place : ∀ past e, let x := extract t root limits past
      motive past x → x.budget.refusal? = none →
        (∀ reason, (x.placement root e).outcome ≠ .stopped reason) →
        motive (past ++ [e]) (x.record (x.placement root e)))
    (entries : Entries) (hrunning : (extract t root limits entries).budget.stopped = none) :
    motive entries (extract t root limits entries) := by
  induction entries using List.reverseRecOn with
  | nil => exact start
  | append_singleton past e ih =>
    have hbefore := running_of_running_concat hrunning
    obtain ⟨hrefusal, hgoes, heq⟩ := (stepped_extract_concat hbefore e).of_running hrunning
    rw [heq]
    exact place past e (ih hbefore) hrefusal hgoes

/-- A run that was stopped was an ordinary one up to some entry, and what came after this
entry made no difference. -/
theorem exists_stop {entries : Entries} (h : (extract t root limits entries).budget.stopped ≠ none) :
    ∃ past e rest, entries = past ++ e :: rest ∧
      (extract t root limits past).budget.stopped = none ∧
      (extract t root limits (past ++ [e])).budget.stopped ≠ none ∧
      extract t root limits entries = extract t root limits (past ++ [e]) := by
  induction entries using List.reverseRecOn with
  | nil => exact absurd rfl h
  | append_singleton past e ih =>
    by_cases hbefore : (extract t root limits past).budget.stopped = none
    · exact ⟨past, e, [], rfl, hbefore, h, rfl⟩
    · obtain ⟨past', e', rest, rfl, hrunning, hstopped, heq⟩ := ih hbefore
      refine ⟨past', e', rest ++ [e], by simp, hrunning, hstopped, ?_⟩
      obtain ⟨reason, hreason⟩ := Option.ne_none_iff_exists'.mp hbefore
      rw [extract_concat, step_of_stopped hreason, heq]

/-- Once a run is stopped, further entries make no difference. -/
theorem extract_append_of_stopped {past : Entries}
    (h : (extract t root limits past).budget.stopped ≠ none) (rest : Entries) :
    extract t root limits (past ++ rest) = extract t root limits past := by
  obtain ⟨reason, hreason⟩ := Option.ne_none_iff_exists'.mp h
  rw [extract_append, run_eq_foldl, foldl_step_of_stopped hreason]

/-- What holds of a run holds of the run with more entries, if it is kept by each of them that
is placed and by each that is refused. -/
theorem append_induction {past : Entries} {motive : Entries → Extraction → Prop}
    (start : motive [] (extract t root limits past))
    (place : ∀ more e, let x := extract t root limits (past ++ more)
      motive more x → motive (more ++ [e]) (x.record (x.placement root e)))
    (refuse : ∀ more e reason, let x := extract t root limits (past ++ more)
      motive more x → motive (more ++ [e]) { x with budget := x.budget.stop reason })
    (rest : Entries) : motive rest (extract t root limits (past ++ rest)) := by
  induction rest using List.reverseRecOn with
  | nil => simpa only [List.append_nil] using start
  | append_singleton more e ih =>
    rw [← List.append_assoc, extract_concat, step]
    cases (extract t root limits (past ++ more)).budget.refusal? with
    | some reason => exact refuse more e reason ih
    | none => exact place more e ih

/-- Outcomes are never taken back. -/
theorem outcomes_prefix_append (t : FileTree) (root : Location) (limits : Limits)
    (past rest : Entries) :
    (extract t root limits past).outcomes <+: (extract t root limits (past ++ rest)).outcomes := by
  induction rest using append_induction with
  | start => exact List.prefix_rfl
  | place more e x ih =>
    rw [outcomes_record]
    exact ih.trans (List.prefix_append ..)
  | refuse more e reason x ih => exact ih

end CodeSurvey
