import CodeSurvey.Proofs.Intake.Outcomes

/-!
# Rejected entries are inert

An entry that is rejected by its name or by its header is never opened, and nothing is
made, moved or charged for it.  So an archive unpacks in the same way without its
rejected entries.  The one thing that they can do is to be there when no more files are
taken: a run is stopped by the number of files before an entry that would have been
rejected anyway.
-/

namespace CodeSurvey

open Placement Extraction

namespace Entry

/-- Do the declared sizes speak against opening an entry?  Either the file is too large, or
it is packed too well to be trusted. -/
def isSuspicious (limits : Limits) (e : Entry) : Bool :=
  limits.maxFileSize.toNat < e.declaredSize ||
    (0 < e.declaredSize && 0 < e.packedSize &&
      (limits.maxCompressionRatio.toNat + 1) * e.packedSize ≤ e.declaredSize)

/-- Is an entry rejected before it is opened? -/
def isRejected (limits : Limits) (e : Entry) : Bool :=
  match EntryName.components e.name with
  | .error _ => true
  | .ok names =>
    !e.isDirectory && (!isWhitelisted (names.getLast?.getD "") || e.isSuspicious limits)

end Entry

/-- The entries of an archive without the rejected ones.  What cannot be opened is not
rejected. -/
def Entries.kept (limits : Limits) (entries : Entries) : Entries :=
  entries.filter fun e ↦ !e.any (Entry.isRejected limits)

/-! ## One entry -/

/-- What the sizes tell against an entry is why it is left out; otherwise it is opened. -/
theorem Budget.screen_eq (b : Budget) (e : Entry) :
    b.screen (some e.declaredSize) (some e.packedSize) =
      if b.limits.maxFileSize.toNat < e.declaredSize then .error .declaredTooLarge
      else if e.isSuspicious b.limits then .error .compressionRatio
      else .ok () := by
  unfold screen
  simp only [Option.any_some, decide_eq_true_eq]
  by_cases hsize : b.limits.maxFileSize.toNat < e.declaredSize
  · rw [if_pos hsize, if_pos hsize]
  rw [if_neg hsize, if_neg hsize, Entry.isSuspicious, decide_eq_false hsize, Bool.false_or]
  by_cases hpacked : 0 < e.packedSize
  · -- A quotient is above a bound exactly if it is at least the next number.
    have hratio : b.limits.maxCompressionRatio.toNat < e.declaredSize / e.packedSize ↔
        (b.limits.maxCompressionRatio.toNat + 1) * e.packedSize ≤ e.declaredSize :=
      Nat.le_div_iff_mul_le hpacked
    simp only [hratio]
  · simp only [hpacked, decide_false, Bool.and_false, Bool.false_and]

namespace Extraction

variable {x y : Extraction} {root : Location} {e : Option Entry}

/-- A rejected entry is left out untouched, for a reason that does not come from its content. -/
theorem placement_of_rejected (h : e.any (Entry.isRejected x.budget.limits) = true) (root : Location) :
    ∃ reason, reason ≠ .streamTooLarge ∧ reason ≠ .writeFailed ∧
      x.placement root e = .skip reason [] := by
  cases e with
  | none => exact absurd h Bool.false_ne_true
  | some entry =>
  have hrejected : entry.isRejected x.budget.limits = true := h
  rw [Entry.isRejected] at hrejected
  rw [placement, ofEntry]
  cases hname : EntryName.components entry.name with
  | error why => exact ⟨.unsafePath, by decide, by decide, rfl⟩
  | ok names =>
    rw [hname] at hrejected
    dsimp only at hrejected ⊢
    rw [Bool.and_eq_true, Bool.not_eq_true'] at hrejected
    obtain ⟨hfile, hrejected⟩ := hrejected
    rw [hfile, if_neg Bool.false_ne_true]
    cases hallowed : isWhitelisted (names.getLast?.getD "") with
    | false => exact ⟨.notWhitelisted, by decide, by decide, rfl⟩
    | true =>
      rw [hallowed, Bool.not_true, Bool.false_or] at hrejected
      rw [Bool.not_true, if_neg Bool.false_ne_true, Budget.screen_eq, if_pos hrejected]
      by_cases hsize : x.budget.limits.maxFileSize.toNat < entry.declaredSize
      · rw [if_pos hsize]
        exact ⟨.declaredTooLarge, by decide, by decide, rfl⟩
      · rw [if_neg hsize]
        exact ⟨.compressionRatio, by decide, by decide, rfl⟩

/-- Two unpackings that are at the same place, but for how many entries were rejected. -/
structure Alike (x y : Extraction) : Prop where
  tree_eq : y.tree = x.tree
  budget_eq : y.budget = x.budget
  directoriesCreated_eq : y.finalStats.directoriesCreated = x.finalStats.directoriesCreated
  streamTooLarge_eq : y.finalStats.skippedFor .streamTooLarge = x.finalStats.skippedFor .streamTooLarge
  writeFailed_eq : y.finalStats.skippedFor .writeFailed = x.finalStats.skippedFor .writeFailed

namespace Alike

theorem refl (x : Extraction) : Alike x x := ⟨rfl, rfl, rfl, rfl, rfl⟩

/-- One of the two meets an entry that is rejected. -/
theorem reject (h : Alike x y) {reason : EntrySkip} (hstream : reason ≠ .streamTooLarge)
    (hwrite : reason ≠ .writeFailed) : Alike (x.record (.skip reason [])) y where
  tree_eq := h.tree_eq
  budget_eq := h.budget_eq
  directoriesCreated_eq := h.directoriesCreated_eq
  streamTooLarge_eq := by
    have hother : (skip reason []).outcome ≠ .skipped .streamTooLarge :=
      fun heq ↦ hstream (EntryOutcome.skipped.inj heq)
    rw [finalStats_record, IntakeStats.skippedFor_note, if_neg hother, h.streamTooLarge_eq, Nat.add_zero]
  writeFailed_eq := by
    have hother : (skip reason []).outcome ≠ .skipped .writeFailed :=
      fun heq ↦ hwrite (EntryOutcome.skipped.inj heq)
    rw [finalStats_record, IntakeStats.skippedFor_note, if_neg hother, h.writeFailed_eq, Nat.add_zero]

theorem placement_eq (h : Alike x y) (root : Location) (e : Option Entry) :
    y.placement root e = x.placement root e := by
  cases e with
  | none => rfl
  | some entry => rw [placement, placement, h.tree_eq, h.budget_eq]

/-- Both place the same entry. -/
theorem record (h : Alike x y) (p : Placement) : Alike (x.record p) (y.record p) where
  tree_eq := by
    show y.tree.applyAll p.changes = x.tree.applyAll p.changes
    rw [h.tree_eq]
  budget_eq := by
    show charge y.budget p.outcome = charge x.budget p.outcome
    rw [h.budget_eq]
  directoriesCreated_eq := by
    have heq := h.directoriesCreated_eq
    rw [finalStats_record, finalStats_record]
    cases p.outcome with
    | directory => exact congrArg (· + 1) heq
    | _ => exact heq
  streamTooLarge_eq := by
    rw [finalStats_record, finalStats_record, IntakeStats.skippedFor_note, IntakeStats.skippedFor_note,
      h.streamTooLarge_eq]
  writeFailed_eq := by
    rw [finalStats_record, finalStats_record, IntakeStats.skippedFor_note, IntakeStats.skippedFor_note,
      h.writeFailed_eq]

/-- Both come to the same entry. -/
theorem step (h : Alike x y) (root : Location) (e : Option Entry) :
    Alike (x.step root e) (y.step root e) := by
  rw [Extraction.step, Extraction.step, h.placement_eq, h.budget_eq]
  cases x.budget.refusal? with
  | some reason => exact ⟨h.tree_eq, rfl, h.directoriesCreated_eq, h.streamTooLarge_eq, h.writeFailed_eq⟩
  | none => exact h.record _

end Alike

end Extraction

/-! ## Runs without the rejected entries -/

variable {limits : Limits}

theorem Entries.kept_concat (past : Entries) (e : Option Entry) :
    (past ++ [e]).kept limits =
      if e.any (Entry.isRejected limits) = true then past.kept limits else past.kept limits ++ [e] := by
  rw [kept, List.filter_append]
  cases h : e.any (Entry.isRejected limits) <;> simp [kept, h]

/-- As long as nothing has stopped a run, it is at the same place without its rejected
entries. -/
theorem alike_kept (t : FileTree) (root : Location) (entries : Entries)
    (hrunning : (extract t root limits entries).budget.stopped = none) :
    Alike (extract t root limits entries) (extract t root limits (entries.kept limits)) := by
  refine running_induction (motive := fun past x ↦ Alike x (extract t root limits (past.kept limits)))
    (.refl _) ?_ entries hrunning
  intro past e x ih hrefusal _
  rw [Entries.kept_concat]
  split
  next hrejected =>
    obtain ⟨reason, hstream, hwrite, heq⟩ := placement_of_rejected (x := x)
      (by rw [limits_extract]; exact hrejected) root
    rw [heq]
    exact ih.reject hstream hwrite
  next =>
    have hstep : x.step root e = x.record (x.placement root e) := by rw [step, hrefusal]
    rw [← hstep, extract_concat]
    exact ih.step root e

/-- A run of an archive without its rejected entries leaves and counts the same. -/
structure Inert (limits : Limits) (entries : Entries) (x y : Extraction) : Prop where
  tree_eq : y.tree = x.tree
  filesExtracted_eq : y.finalStats.filesExtracted = x.finalStats.filesExtracted
  bytesExtracted_eq : y.finalStats.bytesExtracted = x.finalStats.bytesExtracted
  directoriesCreated_eq : y.finalStats.directoriesCreated = x.finalStats.directoriesCreated
  streamTooLarge_eq : y.finalStats.skippedFor .streamTooLarge = x.finalStats.skippedFor .streamTooLarge
  writeFailed_eq : y.finalStats.skippedFor .writeFailed = x.finalStats.skippedFor .writeFailed
  /-- It is stopped for the same reason, unless only rejected entries were left when no more
  files were taken. -/
  stopped : y.finalStats.stopped = x.finalStats.stopped ∨
    x.finalStats.stopped = some .fileCount ∧ y.finalStats.stopped = none ∧
      ∀ e ∈ entries.drop x.finalStats.entriesSeen, e.any (Entry.isRejected limits) = true

theorem Extraction.Alike.inert {x y : Extraction} (h : Alike x y) (entries : Entries) :
    Inert limits entries x y where
  tree_eq := h.tree_eq
  filesExtracted_eq := congrArg Budget.fileCount h.budget_eq
  bytesExtracted_eq := congrArg Budget.totalBytes h.budget_eq
  directoriesCreated_eq := h.directoriesCreated_eq
  streamTooLarge_eq := h.streamTooLarge_eq
  writeFailed_eq := h.writeFailed_eq
  stopped := .inl (congrArg Budget.stopped h.budget_eq)

/-- A run that is stopped at an entry leaves the same as one that is stopped, without the
rejected entries, at the next one that is kept. -/
theorem inert_of_step {t : FileTree} {root : Location} {past : Entries} {next : Option Entry}
    {x : Extraction} (hbefore : (extract t root limits past).budget.stopped = none)
    (hstep : (extract t root limits past).step root next = x) (hstopped : x.budget.stopped ≠ none)
    (entries later : Entries) :
    Inert limits entries x (extract t root limits (past.kept limits ++ next :: later)) := by
  have halike : Alike x (extract t root limits (past.kept limits ++ [next])) := by
    rw [← hstep, extract_concat]
    exact (alike_kept t root past hbefore).step root next
  have hend : (extract t root limits (past.kept limits ++ [next])).budget.stopped ≠ none := by
    rw [halike.budget_eq]
    exact hstopped
  have heq := extract_append_of_stopped hend later
  rw [List.append_assoc] at heq
  exact heq ▸ halike.inert entries

theorem isRejected_of_kept_eq_nil {entries : Entries} (h : entries.kept limits = []) :
    ∀ e ∈ entries, e.any (Entry.isRejected limits) = true := by
  intro e he
  simpa using List.filter_eq_nil_iff.mp h e he

/-- A run that takes no more files leaves the same as one that has come to its end because
only rejected entries were left. -/
theorem inert_of_full {t : FileTree} {root : Location} {past rest : Entries}
    (hbefore : (extract t root limits past).budget.stopped = none) (hkept : rest.kept limits = []) :
    let x := extract t root limits past
    Inert limits (past ++ rest) { x with budget := x.budget.stop .fileCount }
      (extract t root limits (past.kept limits)) := by
  intro x
  have halike : Alike x (extract t root limits (past.kept limits)) := alike_kept t root past hbefore
  have hseen : x.finalStats.entriesSeen = past.length :=
    (accounted_extract t root limits past).of_none hbefore
  have hinert : Inert limits (past ++ rest) x (extract t root limits (past.kept limits)) :=
    halike.inert _
  refine { hinert with stopped := .inr ⟨?_, ?_, ?_⟩ }
  · exact congrArg some (by rw [hbefore]; rfl)
  · exact (congrArg Budget.stopped halike.budget_eq).trans hbefore
  · have hdrop : (past ++ rest).drop past.length = rest := List.drop_left
    intro e he
    refine isRejected_of_kept_eq_nil hkept e ?_
    rw [← hdrop, ← hseen]
    exact he

/-- An entry at which the ceiling for the total is met is not a rejected one. -/
theorem not_isRejected_of_met {x : Extraction} {root : Location} {e : Option Entry} {reason : StopReason}
    (hout : (x.placement root e).outcome = .stopped reason) :
    ¬ e.any (Entry.isRejected x.budget.limits) = true := by
  intro hrejected
  obtain ⟨_, -, -, heq⟩ := placement_of_rejected hrejected root
  rw [heq] at hout
  cases hout

/-- The entries that are rejected make no difference to what is unpacked. -/
theorem inert_kept (t : FileTree) (root : Location) (limits : Limits) (entries : Entries) :
    Inert limits entries (extract t root limits entries)
      (extract t root limits (entries.kept limits)) := by
  by_cases hrunning : (extract t root limits entries).budget.stopped = none
  · exact (alike_kept t root entries hrunning).inert entries
  obtain ⟨past, e, rest, rfl, hbefore, hstopped, hend⟩ := exists_stop hrunning
  have hsplit : (past ++ e :: rest).kept limits = past.kept limits ++ Entries.kept limits (e :: rest) :=
    List.filter_append ..
  have hstep := stepped_extract_concat hbefore e
  rw [hend, hsplit]
  generalize hafter : extract t root limits (past ++ [e]) = x at hstep hstopped ⊢
  cases hstep with
  | full hrefusal =>
    -- The run is stopped whatever the entry is, so it may well be one that is not kept.
    cases hkept : Entries.kept limits (e :: rest) with
    | nil =>
      rw [List.append_nil]
      exact inert_of_full hbefore hkept
    | cons next later => exact inert_of_step hbefore (step_of_refusal hrefusal ..) hstopped _ later
  | placed _ hgoes => exact absurd ((stopped_record_of_goes hgoes _).trans hbefore) hstopped
  | met _ hout =>
    have hkept := not_isRejected_of_met hout
    rw [limits_extract] at hkept
    have hfirst : Entries.kept limits (e :: rest) = e :: Entries.kept limits rest :=
      List.filter_cons_of_pos (by simpa using hkept)
    rw [extract_concat] at hafter
    rw [hfirst]
    exact inert_of_step hbefore hafter hstopped _ _

end CodeSurvey
