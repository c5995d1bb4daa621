import CodeSurvey.Proofs.Intake.Allowance
import CodeSurvey.Proofs.Intake.Apart
import CodeSurvey.Proofs.Intake.Outcomes
import Mathlib.Data.List.Pairwise

/-!
# The order of entries

An unpacking that nothing stops has room for every file, so what becomes of an entry
does not depend on how much was unpacked before it.  Nor does it depend on entries that
are apart from it.  So two such entries may change places, and all orders of the entries
of an archive leave the same tree and the same tally.
-/

namespace CodeSurvey

open Placement Extraction

/-! ## An unpacking with room for everything -/

/-- The ceilings for a single file, and a total that is never less than one of them. -/
def Limits.single (limits : Limits) : Limits := { limits with maxTotalBytes := limits.maxFileSize }

/-- What an entry makes of a tree and a tally if nothing has been unpacked before it. -/
def gather (root : Location) (limits : Limits) (g : FileTree × IntakeStats) (e : Option Entry) :
    FileTree × IntakeStats :=
  let p := (Extraction.start g.1 limits.single).placement root e
  (g.1.applyAll p.changes, g.2.note p.outcome)

/-- What is left of a total is never more room than a file has at the start. -/
theorem Budget.tighter_single (b : Budget) : b.Tighter (.start b.limits.single) where
  maxFileSize_eq := rfl
  maxCompressionRatio_eq := rfl
  allowance := by
    have hsingle : (Budget.start b.limits.single).allowance = ⟨b.limits.maxFileSize.toNat, false⟩ :=
      if_neg (Nat.lt_irrefl _)
    rw [hsingle]
    unfold Budget.allowance
    dsimp only
    split
    next hless => exact .inr ⟨rfl, Nat.le_of_lt hless⟩
    next => exact .inl rfl

/-- An entry that does not stop an unpacking comes to the same as if nothing had been
unpacked before it. -/
theorem Extraction.placement_eq_single {x : Extraction} {root : Location} {e : Option Entry}
    (hgoes : ∀ reason, (x.placement root e).outcome ≠ .stopped reason) :
    x.placement root e = (Extraction.start x.tree x.budget.limits.single).placement root e := by
  cases e with
  | none => rfl
  | some entry =>
    rcases ofEntry_of_tighter x.budget.tighter_single x.tree root entry with hout | heq
    · exact absurd hout (hgoes _)
    · exact heq

/-- An unpacking that nothing stops gathers one entry after the other. -/
theorem extract_eq_foldl_gather {t : FileTree} {root : Location} {limits : Limits} {entries : Entries}
    (hrunning : (extract t root limits entries).budget.stopped = none) :
    ((extract t root limits entries).tree, (extract t root limits entries).finalStats) =
      entries.foldl (gather root limits) (t, ∅) := by
  refine running_induction
    (motive := fun past x ↦ (x.tree, x.finalStats) = past.foldl (gather root limits) (t, ∅))
    rfl ?_ entries hrunning
  intro past e x ih _ hgoes
  have hlimits : x.budget.limits = limits := limits_extract ..
  have hplace := placement_eq_single hgoes
  rw [hlimits] at hplace
  rw [List.foldl_append, ← ih, List.foldl_cons, List.foldl_nil, gather, ← hplace, finalStats_record]
  rfl

/-! ## Any order -/

namespace IntakeStats

theorem recordSkip_comm (s : IntakeStats) (reason reason' : EntrySkip) :
    (s.recordSkip reason).recordSkip reason' = (s.recordSkip reason').recordSkip reason := by
  have hskipped : ((s.recordSkip reason).recordSkip reason').skipped =
      ((s.recordSkip reason').recordSkip reason).skipped := by
    refine SortedMap.ext_get? fun k ↦ ?_
    by_cases hsame : reason' = reason
    · rw [hsame]
    simp only [recordSkip, SortedMap.get?_alter, if_neg hsame, if_neg (Ne.symm hsame)]
    by_cases hk : k = reason'
    · rw [if_pos hk, if_pos hk, if_neg (hk ▸ hsame)]
    · rw [if_neg hk, if_neg hk]
  exact congrArg (fun skipped ↦ { s with skipped }) hskipped

/-- Outcomes may be noted in either order, if there is only one reason to stop. -/
theorem note_comm (s : IntakeStats) {o o' : EntryOutcome}
    (h : ∀ reason reason', o = .stopped reason → o' = .stopped reason' → reason = reason') :
    (s.note o).note o' = (s.note o').note o := by
  cases o with
  | directory => cases o' <;> rfl
  | written size =>
    cases o' with
    | written size' =>
      have hbytes : min (min (s.bytesExtracted + size) Budget.maxTotal + size') Budget.maxTotal =
          min (min (s.bytesExtracted + size') Budget.maxTotal + size) Budget.maxTotal := by omega
      simp only [note, hbytes]
    | _ => rfl
  | skipped reason =>
    cases o' with
    | skipped reason' =>
      exact recordSkip_comm { s with entriesSeen := s.entriesSeen + 1 + 1 } reason reason'
    | _ => rfl
  | stopped reason =>
    cases o' with
    | stopped reason' => rw [h reason reason' rfl rfl]
    | _ => rfl

end IntakeStats

/-- What becomes of an entry does not depend on one that is apart from it. -/
theorem gather_gather {root : Location} {limits : Limits} {e e' : Option Entry} (h : Entry.Apart e e')
    (g : FileTree × IntakeStats) :
    let p := (Extraction.start g.1 limits.single).placement root e
    let p' := (Extraction.start g.1 limits.single).placement root e'
    gather root limits (gather root limits g e) e' =
      ((g.1.applyAll p.changes).applyAll p'.changes, (g.2.note p.outcome).note p'.outcome) := by
  cases e with
  | none => rfl
  | some entry =>
    cases e' with
    | none => rfl
    | some entry' =>
      obtain ⟨hout, hchanges⟩ := ofEntry_of_apart g.1 root (.start limits.single) h.1 h.2
      exact Prod.ext hchanges (congrArg (IntakeStats.note _) hout)

theorem applyAll_placement_comm {e e' : Option Entry} (h : Entry.Apart e e') (x : Extraction)
    (root : Location) :
    (x.tree.applyAll (x.placement root e).changes).applyAll (x.placement root e').changes =
      (x.tree.applyAll (x.placement root e').changes).applyAll (x.placement root e).changes := by
  cases e with
  | none => rfl
  | some entry =>
    cases e' with
    | none => rfl
    | some entry' => exact applyAll_comm_of_apart h.1 h.2

/-- Two entries that are apart may change places. -/
theorem gather_comm {root : Location} {limits : Limits} {e e' : Option Entry} (h : Entry.Apart e e')
    (g : FileTree × IntakeStats) :
    gather root limits (gather root limits g e) e' = gather root limits (gather root limits g e') e := by
  rw [gather_gather h, gather_gather (Std.Symm.symm _ _ h)]
  refine Prod.ext (applyAll_placement_comm h (.start g.1 limits.single) root)
    (IntakeStats.note_comm _ fun reason reason' hout hout' ↦ ?_)
  rw [(placement_of_stopped hout).1, (placement_of_stopped hout').1]

/-- All orders of the same entries leave the same tree and the same tally, if none of them is
stopped and no file is in the way of another entry. -/
theorem extract_perm {t : FileTree} {root : Location} {limits : Limits} {entries entries' : Entries}
    (hperm : entries.Perm entries') (hapart : entries.Pairwise Entry.Apart)
    (hstopped : (extract t root limits entries).finalStats.stopped = none)
    (hstopped' : (extract t root limits entries').finalStats.stopped = none) :
    (extract t root limits entries).tree = (extract t root limits entries').tree ∧
      (extract t root limits entries).finalStats = (extract t root limits entries').finalStats := by
  have heq : entries.foldl (gather root limits) (t, ∅) = entries'.foldl (gather root limits) (t, ∅) := by
    refine hperm.foldl_eq' (fun e he e' he' g ↦ ?_) _
    by_cases hsame : e = e'
    · rw [hsame]
    · exact gather_comm (hapart.forall he he' hsame) g
  rw [← extract_eq_foldl_gather hstopped, ← extract_eq_foldl_gather hstopped'] at heq
  exact Prod.ext_iff.mp heq

/-- A file that is too large leaves the directory that was made for it, whether or not this
directory and the other file in it come first. -/
theorem extract_perm_too_large :
    let t : FileTree := (∅ : FileTree).insert ["w"] .directory
    let limits : Limits := { Limits.builtin with maxFileSize := 2 }
    let entries : Entries :=
      [some ⟨"d/a.py", false, 2, 2, .pure [.bytes ⟨#[97, 61]⟩, .bytes ⟨#[49]⟩]⟩,
        some ⟨"d/", true, 0, 0, .pure []⟩,
        some ⟨"d/b.py", false, 2, 2, .pure [.bytes ⟨#[98, 61]⟩]⟩]
    entries.Pairwise Entry.Apart ∧
      (extract t ["w"] limits entries).finalStats.stopped = none ∧
      (extract t ["w"] limits entries.reverse).finalStats.stopped = none ∧
      (extract t ["w"] limits entries).tree = (extract t ["w"] limits entries.reverse).tree ∧
      (extract t ["w"] limits entries).finalStats = (extract t ["w"] limits entries.reverse).finalStats ∧
      (extract t ["w"] limits entries).outcomes =
        [.skipped .streamTooLarge, .directory, .written 2] := by
  intro t limits entries
  have hapart : entries.Pairwise Entry.Apart := by decide +kernel
  have hstopped : (extract t ["w"] limits entries).finalStats.stopped = none := by decide +kernel
  have hstopped' : (extract t ["w"] limits entries.reverse).finalStats.stopped = none := by
    decide +kernel
  obtain ⟨htree, hstats⟩ := extract_perm entries.reverse_perm.symm hapart hstopped hstopped'
  exact ⟨hapart, hstopped, hstopped', htree, hstats, by decide +kernel⟩

end CodeSurvey
