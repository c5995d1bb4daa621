import CodeSurvey.Proofs.Intake.Moment
import Mathlib.Data.List.Induction

/-!
# An unpacking, entry by entry

Unpacking goes over the entries from left to right, and what it does with the
next one depends only on where it is.  So whatever holds at the start and
survives one entry holds after any number of entries, and an unpacking may be
cut in two between any two of them.
-/

namespace CodeSurvey

namespace Budget

theorem stopped_stop (b : Budget) (reason : StopReason) :
    (b.stop reason).stopped = some (b.stopped.getD reason) := rfl

theorem stop_of_stopped {b : Budget} {reason : StopReason} (h : b.stopped = some reason)
    (reason' : StopReason) : b.stop reason' = b := by
  obtain ⟨limits, fileCount, totalBytes, stopped⟩ := b
  obtain rfl : stopped = some reason := h
  rfl

theorem refusal?_of_stopped {b : Budget} {reason : StopReason} (h : b.stopped = some reason) :
    b.refusal? = some reason := by
  rw [refusal?, h]

/-- An entry is taken only while nothing has stopped the unpacking and there may
be more files. -/
theorem refusal?_eq_none_iff {b : Budget} :
    b.refusal? = none ↔ b.stopped = none ∧ b.fileCount < b.limits.maxFileCount.toNat := by
  unfold refusal?
  cases b.stopped with
  | some reason => simp
  | none => simp

/-- What the next file may have does not go past the ceiling for one file. -/
theorem allowance_le_maxFileSize (b : Budget) :
    b.allowance.bytes ≤ b.limits.maxFileSize.toNat := by
  unfold allowance
  dsimp only
  split
  next h => exact Nat.le_of_lt h
  next => exact Nat.le_refl _

/-- What the next file may have does not go past what is left of the total. -/
theorem allowance_le_remaining (b : Budget) :
    b.allowance.bytes ≤ b.limits.maxTotalBytes.toNat - b.totalBytes := by
  unfold allowance
  dsimp only
  split
  next => exact Nat.le_refl _
  next h => exact Nat.le_of_not_lt h

/-- The total is exact as long as files keep to what they may have. -/
theorem totalBytes_commit {b : Budget} {size : Nat} (hsize : size ≤ b.allowance.bytes)
    (htotal : b.totalBytes ≤ b.limits.maxTotalBytes.toNat) :
    (b.commit size).totalBytes = b.totalBytes + size := by
  have hroom := Nat.le_trans hsize b.allowance_le_remaining
  have hlt := b.limits.maxTotalBytes.toNat_lt
  refine Nat.min_eq_left ?_
  simp only [maxTotal]
  omega

end Budget

namespace Extraction

/-- What one more entry makes of an unpacking. -/
def step (root : Location) (x : Extraction) (e : Option Entry) : Extraction :=
  match x.budget.refusal? with
  | some reason => { x with budget := x.budget.stop reason }
  | none => x.record (x.placement root e)

theorem step_of_stopped {x : Extraction} {reason : StopReason} (h : x.budget.stopped = some reason)
    (root : Location) (e : Option Entry) : x.step root e = x := by
  rw [step, Budget.refusal?_of_stopped h]
  dsimp only
  rw [Budget.stop_of_stopped h]

theorem foldl_step_of_stopped {x : Extraction} {reason : StopReason}
    (h : x.budget.stopped = some reason) (root : Location) (entries : Entries) :
    entries.foldl (step root) x = x := by
  induction entries with
  | nil => rfl
  | cons e rest ih => rw [List.foldl_cons, step_of_stopped h, ih]

/-- A run takes one entry after the other; once it has stopped it goes on without
doing anything. -/
theorem run_eq_foldl (root : Location) (entries : Entries) (x : Extraction) :
    run root entries x = entries.foldl (step root) x := by
  induction entries generalizing x with
  | nil => rfl
  | cons e rest ih =>
    rw [List.foldl_cons, run, Budget.beginEntry, step]
    cases hrefusal : x.budget.refusal? with
    | some reason =>
      exact (foldl_step_of_stopped (x.budget.stopped_stop reason) root rest).symm
    | none =>
      dsimp only
      cases hstop : (x.placement root e).outcome with
      | stopped reason =>
        have hlatched : (x.record (x.placement root e)).budget = x.budget.stop reason := by
          rw [record, hstop]
          rfl
        exact (foldl_step_of_stopped (hlatched ▸ x.budget.stopped_stop reason) root rest).symm
      | _ => exact ih _

end Extraction

open Extraction

theorem extract_append (t : FileTree) (root : Location) (limits : Limits) (past rest : Entries) :
    extract t root limits (past ++ rest) = .run root rest (extract t root limits past) := by
  rw [extract, extract, run_eq_foldl, run_eq_foldl, run_eq_foldl, List.foldl_append]

theorem extract_concat (t : FileTree) (root : Location) (limits : Limits) (past : Entries)
    (e : Option Entry) :
    extract t root limits (past ++ [e]) = (extract t root limits past).step root e := by
  rw [extract_append, run_eq_foldl]
  rfl

/-- What holds at the start of an unpacking, after an entry that is taken, and
after one that is refused, holds after all entries. -/
theorem extract_induction {t : FileTree} {root : Location} {limits : Limits}
    {motive : Entries → Extraction → Prop} (start : motive [] (.start t limits))
    (take : ∀ past e, let x := extract t root limits past
      motive past x → x.budget.refusal? = none → motive (past ++ [e]) (x.record (x.placement root e)))
    (refuse : ∀ past e reason, let x := extract t root limits past
      motive past x → x.budget.refusal? = some reason →
        motive (past ++ [e]) { x with budget := x.budget.stop reason })
    (entries : Entries) : motive entries (extract t root limits entries) := by
  induction entries using List.reverseRecOn with
  | nil => exact start
  | append_singleton past e ih =>
    rw [extract_concat, step]
    cases hrefusal : (extract t root limits past).budget.refusal? with
    | some reason => exact refuse past e reason ih hrefusal
    | none => exact take past e ih hrefusal

theorem limits_extract (t : FileTree) (root : Location) (limits : Limits) (entries : Entries) :
    (extract t root limits entries).budget.limits = limits := by
  induction entries using extract_induction with
  | start => rfl
  | take past e x ih _ =>
    rw [← ih, record]
    cases (x.placement root e).outcome <;> rfl
  | refuse past e reason x ih _ => exact ih

/-! ## One entry -/

namespace Extraction

variable {x : Extraction} {root : Location} {e : Option Entry}

theorem changes_record (x : Extraction) (p : Placement) :
    (x.record p).changes = x.changes ++ p.changes := by
  simp [changes, record]

/-- The next entry either cannot be opened, and nothing is done for it, or it is
placed. -/
theorem placement_cases (x : Extraction) (root : Location) (e : Option Entry) :
    x.placement root e = .skip .writeFailed [] ∨
      ∃ entry, e = some entry ∧ Placement.Course x.tree root x.budget entry (x.placement root e) := by
  cases e with
  | none => exact .inl rfl
  | some entry => exact .inr ⟨entry, rfl, Placement.course_ofEntry ..⟩

theorem isBelow_of_mem_changes {c : Change} (hc : c ∈ (x.placement root e).changes) :
    Placement.IsBelow root c.location := by
  rcases x.placement_cases root e with heq | ⟨entry, -, hcourse⟩
  · rw [heq] at hc
    exact nomatch hc
  · exact hcourse.isBelow c hc

/-- A file that is written to its end is within the allowance. -/
theorem le_allowance_of_written {size : Nat} (h : (x.placement root e).outcome = .written size) :
    size ≤ x.budget.allowance.bytes := by
  rcases x.placement_cases root e with heq | ⟨entry, -, hcourse⟩
  · rw [heq] at h
    exact nomatch h
  · exact hcourse.le_allowance_of_written h

/-- An entry leaves directories and files below the root. -/
theorem node_record {loc : Location} {n : Node}
    (h : (x.record (x.placement root e)).tree.get? loc = some n) :
    x.tree.get? loc = some n ∨
      Placement.IsBelow root loc ∧ (n = .directory ∨ ∃ content, n = .file content) := by
  by_cases huntouched : ∀ c ∈ (x.placement root e).changes, c.location ≠ loc
  · rw [record, FileTree.get?_applyAll_of_ne huntouched] at h
    exact .inl h
  · obtain ⟨c, hc, hloc⟩ : ∃ c ∈ (x.placement root e).changes, c.location = loc := by
      simpa using huntouched
    refine .inr ⟨hloc ▸ isBelow_of_mem_changes hc, ?_⟩
    rcases x.placement_cases root e with heq | ⟨entry, -, hcourse⟩
    · rw [heq] at hc
      exact nomatch hc
    · have hheld := (hcourse.stage (.whole _)).held loc
      generalize hnode : (x.tree.applyAll (x.placement root e).changes).get? loc = held at hheld
      rw [record, hnode] at h
      cases hheld with
      | kept hne => exact absurd hloc (hne c hc)
      | directory _ _ => exact .inl (Option.some.inj h).symm
      | file _ _ _ => exact .inr ⟨_, (Option.some.inj h).symm⟩
      | gone => exact nomatch h

/-- A file that is there after an entry was there before, or it is the whole stream
of this entry. -/
theorem mem_files_record {names : List String} {content : ByteArray}
    (h : (names, content) ∈ (x.record (x.placement root e)).tree.files root) :
    (names, content) ∈ x.tree.files root ∨
      ∃ entry, e = some entry ∧ Placement.Opened x.budget entry names ∧
        Read.failure? entry.reads.get = none ∧ Read.stream entry.reads.get = content ∧
        (x.placement root e).outcome = .written content.size := by
  obtain ⟨hne, hget⟩ := FileTree.mem_files.mp h
  rcases x.placement_cases root e with heq | ⟨entry, he, hcourse⟩
  · rw [heq] at hget
    exact .inl (FileTree.mem_files.mpr ⟨hne, hget⟩)
  · rcases hcourse.file_after hget with hbefore | ⟨names', hloc, hopened, hend, hstream, hout⟩
    · exact .inl (FileTree.mem_files.mpr ⟨hne, hbefore⟩)
    · obtain rfl : names = names' := List.append_cancel_left hloc
      exact .inr ⟨entry, he, hopened, hend, hstream, hout⟩

end Extraction

end CodeSurvey
