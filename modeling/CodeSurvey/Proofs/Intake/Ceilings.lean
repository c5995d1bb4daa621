import CodeSurvey.Proofs.Intake.Unpacking
import Mathlib.Algebra.Order.BigOperators.Group.List
import Mathlib.Algebra.Order.Group.Nat
import Mathlib.Data.List.Perm.Subperm

/-!
# Ceilings are kept at every moment

The budget is charged for a file only when it is complete, and it looks at no file
on the disk.  Nevertheless at every moment of an unpacking, also in the middle of a
file, the disk holds no more files and no more bytes than the ceilings allow: what
has been charged covers the files that are complete, and the allowance of the file
at hand is what is left.
-/

namespace CodeSurvey

open Placement Extraction

/-- How many bytes there are in files. -/
def sizes (files : List (Location × ByteArray)) : Nat := (files.map fun f ↦ f.2.size).sum

@[simp] theorem sizes_cons (f : Location × ByteArray) (fs : List (Location × ByteArray)) :
    sizes (f :: fs) = f.2.size + sizes fs := rfl

theorem sizes_le_of_subset {fs gs : List (Location × ByteArray)} (hnodup : fs.Nodup) (h : fs ⊆ gs) :
    sizes fs ≤ sizes gs := by
  obtain ⟨hs, hperm, hsub⟩ := hnodup.subperm h
  calc sizes fs = sizes hs := (hperm.map _).sum_eq.symm
    _ ≤ sizes gs := (hsub.map _).sum_le_sum fun _ _ ↦ Nat.zero_le _

/-- The bytes that are charged for an outcome. -/
def EntryOutcome.charged : EntryOutcome → Nat
  | written size => size
  | _ => 0

theorem charge_of_ne_written {outcome : EntryOutcome} (h : ∀ size, outcome ≠ .written size)
    (b : Budget) : (charge b outcome).fileCount = b.fileCount ∧
      (charge b outcome).totalBytes = b.totalBytes ∧ outcome.charged = 0 := by
  cases outcome with
  | written size => exact absurd rfl (h size)
  | _ => exact ⟨rfl, rfl, rfl⟩

/-! ## The files on the disk -/

namespace Placement

variable {t : FileTree} {root : Location} {b : Budget} {e : Entry}

/-- At every stage there is at most one file more than before the entry, and it is
within the allowance. -/
theorem Stage.files_subset {made : List Change} (h : Stage t root b e made) :
    ∃ f : Location × ByteArray, f.2.size ≤ b.allowance.bytes ∧
      (t.applyAll made).files root ⊆ f :: t.files root := by
  cases h with
  | directories hdirs =>
    refine ⟨([], .empty), Nat.zero_le _, fun ⟨names, content⟩ hmem ↦ ?_⟩
    obtain ⟨hne, hget⟩ := FileTree.mem_files.mp hmem
    exact List.mem_cons_of_mem _ (FileTree.mem_files.mpr ⟨hne, hdirs.file_before hget⟩)
  | @writing place dirs kept hopened hdirs hcap =>
    refine ⟨(place, joined kept), size_joined kept ▸ hcap, fun ⟨names, content⟩ hmem ↦ ?_⟩
    obtain ⟨hne, hget⟩ := FileTree.mem_files.mp hmem
    rw [FileTree.applyAll_append, FileTree.get?_applyAll_writing (hopened.dest_ne_nil root)] at hget
    split at hget
    next hloc =>
      obtain rfl : names = place := List.append_cancel_left hloc
      obtain rfl : joined kept = content := by simpa using hget
      exact List.mem_cons_self
    next => exact List.mem_cons_of_mem _ (FileTree.mem_files.mpr ⟨hne, hdirs.file_before hget⟩)
  | @removed place dirs kept hopened hdirs =>
    refine ⟨([], .empty), Nat.zero_le _, fun ⟨names, content⟩ hmem ↦ ?_⟩
    obtain ⟨hne, hget⟩ := FileTree.mem_files.mp hmem
    rw [FileTree.applyAll_append, FileTree.get?_applyAll_removed (hopened.dest_ne_nil root)] at hget
    split at hget
    next => exact nomatch hget
    next => exact List.mem_cons_of_mem _ (FileTree.mem_files.mpr ⟨hne, hdirs.file_before hget⟩)

end Placement

/-- If no file is written to its end, an entry leaves no file that was not there. -/
theorem files_record_subset {x : Extraction} {root : Location} {e : Option Entry}
    (h : ∀ size, (x.placement root e).outcome ≠ .written size) :
    (x.record (x.placement root e)).tree.files root ⊆ x.tree.files root := by
  rintro ⟨names, content⟩ hmem
  rcases mem_files_record hmem with hbefore | ⟨_, -, -, -, -, hout⟩
  · exact hbefore
  · exact absurd hout (h _)

/-- If a file is written to its end, an entry leaves at most this file beside those that
were there. -/
theorem files_record_subset_cons {x : Extraction} {root : Location} {e : Option Entry} {size : Nat}
    (h : (x.placement root e).outcome = .written size) :
    ∃ f : Location × ByteArray, f.2.size ≤ size ∧
      (x.record (x.placement root e)).tree.files root ⊆ f :: x.tree.files root := by
  by_cases hold : (x.record (x.placement root e)).tree.files root ⊆ x.tree.files root
  · exact ⟨([], .empty), Nat.zero_le _, List.subset_cons_of_subset _ hold⟩
  -- Two new files would both be the stream of this entry at the place of its name.
  obtain ⟨⟨place, stream⟩, hmem, hnew⟩ : ∃ f ∈ (x.record (x.placement root e)).tree.files root,
      f ∉ x.tree.files root := by
    simpa [List.subset_def] using hold
  rcases mem_files_record hmem with hbefore | ⟨entry, rfl, hopened, -, rfl, hout⟩
  · exact absurd hbefore hnew
  refine ⟨(place, Read.stream entry.reads.get), ?_, ?_⟩
  · rw [h] at hout
    exact Nat.le_of_eq (EntryOutcome.written.inj hout).symm
  · rintro ⟨names, content⟩ hmem'
    rcases mem_files_record hmem' with hbefore | ⟨entry', heq, hopened', -, rfl, -⟩
    · exact List.mem_cons_of_mem _ hbefore
    · obtain rfl : entry = entry' := Option.some.inj heq
      obtain rfl : place = names := Except.ok.inj (hopened.named.symm.trans hopened'.named)
      exact List.mem_cons_self

/-! ## Moments -/

/-- A moment of an unpacking: where it stands, and which changes have been made for
the entry at hand. -/
inductive Moment (t : FileTree) (root : Location) (limits : Limits) (entries : Entries) :
    Extraction → List Change → Prop
  /-- Before an entry, or after the last. -/
  | between {past rest : Entries} : entries = past ++ rest →
      Moment t root limits entries (extract t root limits past) []
  /-- While an entry is placed. -/
  | during {past rest : Entries} {e : Option Entry} {made : List Change} :
      entries = past ++ e :: rest → (extract t root limits past).budget.refusal? = none →
      Underway ((extract t root limits past).placement root e).changes made →
      Moment t root limits entries (extract t root limits past) made

/-- The files on a disk to which the changes at hand have not been made. -/
def completedFiles (disk : FileTree) (root : Location) (made : List Change) :
    List (Location × ByteArray) :=
  (disk.files root).filter fun f ↦ made.all fun c ↦ c.location ≠ root ++ f.1

/-- What is kept at a moment of an unpacking. -/
structure WithinCeilings (root : Location) (limits : Limits) (x : Extraction) (made : List Change) :
    Prop where
  /-- The files that are complete have been counted. -/
  completed_le : (completedFiles (x.tree.applyAll made) root made).length ≤ x.budget.fileCount
  fileCount_le : x.budget.fileCount ≤ limits.maxFileCount.toNat
  /-- All files together, that at hand included, keep the ceiling for the total. -/
  sizes_le : sizes ((x.tree.applyAll made).files root) ≤ limits.maxTotalBytes.toNat
  /-- The total is exact. -/
  totalBytes_eq : x.budget.totalBytes = (x.history.map fun p ↦ p.outcome.charged).sum
  totalBytes_le : x.budget.totalBytes ≤ limits.maxTotalBytes.toNat

/-- What is kept between any two entries: the files on the disk have been charged, and
what has been charged keeps the ceilings. -/
structure Charged (root : Location) (limits : Limits) (x : Extraction) : Prop where
  files_le : (x.tree.files root).length ≤ x.budget.fileCount
  fileCount_le : x.budget.fileCount ≤ limits.maxFileCount.toNat
  sizes_le : sizes (x.tree.files root) ≤ x.budget.totalBytes
  totalBytes_eq : x.budget.totalBytes = (x.history.map fun p ↦ p.outcome.charged).sum
  totalBytes_le : x.budget.totalBytes ≤ limits.maxTotalBytes.toNat

namespace Charged

variable {t : FileTree} {root : Location} {limits : Limits} {past : Entries} {e : Option Entry}

theorem start (h : t.IsEmptyDirectory root) : Charged root limits (.start t limits) where
  files_le := by
    rw [Extraction.start, h.files_eq_nil]
    exact Nat.zero_le _
  fileCount_le := Nat.zero_le _
  sizes_le := by
    rw [Extraction.start, h.files_eq_nil]
    exact Nat.zero_le _
  totalBytes_eq := rfl
  totalBytes_le := Nat.zero_le _

/-- An entry for which no file is written to its end is not charged. -/
theorem take_of_ne_written {x : Extraction} (h : Charged root limits x)
    (hout : ∀ size, (x.placement root e).outcome ≠ .written size) :
    Charged root limits (x.record (x.placement root e)) := by
  have hsub := files_record_subset hout
  have hnodup := (x.record (x.placement root e)).tree.nodup_files root
  obtain ⟨hcount, htotal, hcharged⟩ := charge_of_ne_written hout x.budget
  refine ⟨?_, ?_, ?_, ?_, ?_⟩
  · refine Nat.le_trans (hnodup.subperm hsub).length_le (Nat.le_trans h.files_le ?_)
    exact Nat.le_of_eq hcount.symm
  · exact Nat.le_trans (Nat.le_of_eq hcount) h.fileCount_le
  · refine Nat.le_trans (sizes_le_of_subset hnodup hsub) (Nat.le_trans h.sizes_le ?_)
    exact Nat.le_of_eq htotal.symm
  · rw [record, List.map_cons, List.sum_cons, hcharged, Nat.zero_add, ← h.totalBytes_eq]
    exact htotal
  · exact Nat.le_trans (Nat.le_of_eq htotal) h.totalBytes_le

/-- A file that is written to its end is charged, and there is room for it. -/
theorem take_of_written {x : Extraction} (h : Charged root limits x) (hlimits : x.budget.limits = limits)
    (hrefusal : x.budget.refusal? = none) {size : Nat}
    (hout : (x.placement root e).outcome = .written size) :
    Charged root limits (x.record (x.placement root e)) := by
  obtain ⟨f, hf, hsub⟩ := files_record_subset_cons hout
  have hnodup := (x.record (x.placement root e)).tree.nodup_files root
  have hroom : size ≤ limits.maxTotalBytes.toNat - x.budget.totalBytes :=
    hlimits ▸ Nat.le_trans (le_allowance_of_written hout) (Budget.allowance_le_remaining _)
  have hmore : x.budget.fileCount < limits.maxFileCount.toNat :=
    hlimits ▸ (Budget.refusal?_eq_none_iff.mp hrefusal).2
  have hle := h.totalBytes_le
  have hcount : (x.record (x.placement root e)).budget.fileCount = x.budget.fileCount + 1 := by
    rw [record, hout]
    rfl
  have htotal : (x.record (x.placement root e)).budget.totalBytes = x.budget.totalBytes + size := by
    rw [record, hout]
    exact Budget.totalBytes_commit (le_allowance_of_written hout) (hlimits ▸ hle)
  refine ⟨?_, ?_, ?_, ?_, ?_⟩
  · rw [hcount]
    exact Nat.le_trans (hnodup.subperm hsub).length_le (Nat.succ_le_succ h.files_le)
  · rw [hcount]
    exact hmore
  · have hsizes := sizes_le_of_subset hnodup hsub
    have hbefore := h.sizes_le
    rw [sizes_cons] at hsizes
    omega
  · rw [htotal, h.totalBytes_eq, record, List.map_cons, List.sum_cons, hout, EntryOutcome.charged,
      Nat.add_comm]
  · omega

end Charged

/-- Between any two entries the files on the disk have been charged. -/
theorem charged_extract {t : FileTree} {root : Location} (h : t.IsEmptyDirectory root)
    (limits : Limits) (entries : Entries) : Charged root limits (extract t root limits entries) := by
  induction entries using extract_induction with
  | start => exact .start h
  | take past e x ih hrefusal =>
    cases hout : (x.placement root e).outcome with
    | written size => exact ih.take_of_written (limits_extract ..) hrefusal hout
    | _ => exact ih.take_of_ne_written fun size heq ↦ nomatch hout.symm.trans heq
  | refuse past e reason x ih _ => exact ⟨ih.1, ih.2, ih.3, ih.4, ih.5⟩

/-- While an entry is placed, the files that are complete are among those that were
there before. -/
theorem completedFiles_subset (t : FileTree) (root : Location) (made : List Change) :
    completedFiles (t.applyAll made) root made ⊆ t.files root := by
  rintro ⟨names, content⟩ hmem
  obtain ⟨hfile, huntouched⟩ := List.mem_filter.mp hmem
  obtain ⟨hne, hget⟩ := FileTree.mem_files.mp hfile
  refine FileTree.mem_files.mpr ⟨hne, ?_⟩
  rw [← hget, FileTree.get?_applyAll_of_ne]
  simpa using huntouched

/-- While an entry is placed, the files on the disk have no more bytes than before,
except for what the entry is allowed. -/
theorem sizes_underway {x : Extraction} {root : Location} {e : Option Entry} {made : List Change}
    (hmade : Underway (x.placement root e).changes made) :
    sizes ((x.tree.applyAll made).files root) ≤ x.budget.allowance.bytes + sizes (x.tree.files root) := by
  rcases x.placement_cases root e with heq | ⟨entry, -, hcourse⟩
  · rw [heq] at hmade
    rw [hmade.nil]
    exact Nat.le_add_left ..
  · obtain ⟨f, hf, hsub⟩ := (hcourse.stage hmade).files_subset
    calc sizes ((x.tree.applyAll made).files root)
      _ ≤ sizes (f :: x.tree.files root) := sizes_le_of_subset (FileTree.nodup_files ..) hsub
      _ = f.2.size + sizes (x.tree.files root) := sizes_cons ..
      _ ≤ x.budget.allowance.bytes + sizes (x.tree.files root) := Nat.add_le_add_right hf _

/-- Whatever headers declare and streams deliver, the ceilings are kept at every moment
of unpacking below an empty directory. -/
theorem withinCeilings {t : FileTree} {root : Location} (h : t.IsEmptyDirectory root)
    {limits : Limits} {entries : Entries} {x : Extraction} {made : List Change}
    (hmoment : Moment t root limits entries x made) : WithinCeilings root limits x made := by
  have hnodup : (completedFiles (x.tree.applyAll made) root made).Nodup :=
    (FileTree.nodup_files ..).filter _
  have hcompleted : (completedFiles (x.tree.applyAll made) root made).length ≤
      (x.tree.files root).length :=
    (hnodup.subperm (completedFiles_subset ..)).length_le
  cases hmoment with
  | @between past rest _ =>
    have hcharged := charged_extract h limits past
    exact ⟨Nat.le_trans hcompleted hcharged.files_le, hcharged.fileCount_le,
      Nat.le_trans hcharged.sizes_le hcharged.totalBytes_le, hcharged.totalBytes_eq,
      hcharged.totalBytes_le⟩
  | @during past rest e made _ _ hmade =>
    have hcharged := charged_extract h limits past
    have hallowed := (extract t root limits past).budget.allowance_le_remaining
    rw [limits_extract] at hallowed
    refine ⟨Nat.le_trans hcompleted hcharged.files_le, hcharged.fileCount_le, ?_,
      hcharged.totalBytes_eq, hcharged.totalBytes_le⟩
    have hsizes := sizes_underway hmade
    have hbefore := hcharged.sizes_le
    have htotal := hcharged.totalBytes_le
    omega

/-- In the middle of the second file, which empties the first before it is written over
it. -/
theorem withinCeilings_overwriting :
    let t : FileTree := (∅ : FileTree).insert ["w"] .directory
    let first : Entry := ⟨"a.py", false, 2, 2, .pure [.bytes ⟨#[97, 98]⟩]⟩
    let second : Entry := ⟨"./a.py", false, 0, 0, .pure [.bytes ⟨#[99]⟩, .bytes ⟨#[100, 101]⟩]⟩
    let made := [.create ["w", "a.py"], .append ["w", "a.py"] ⟨#[99]⟩, .append ["w", "a.py"] ⟨#[100]⟩]
    Moment t ["w"] .builtin [some first, some second] (extract t ["w"] .builtin [some first]) made ∧
      WithinCeilings ["w"] .builtin (extract t ["w"] .builtin [some first]) made := by
  intro t first second made
  have hrefusal : (extract t ["w"] .builtin [some first]).budget.refusal? = none := by decide +kernel
  have hchanges : ((extract t ["w"] .builtin [some first]).placement ["w"] (some second)).changes =
      [.create ["w", "a.py"], .append ["w", "a.py"] ⟨#[99]⟩, .append ["w", "a.py"] ⟨#[100, 101]⟩] := by
    decide +kernel
  have hmade : Underway ((extract t ["w"] .builtin [some first]).placement ["w"] (some second)).changes
      made := by
    rw [hchanges]
    exact .next (.next (.cut (by decide)))
  have hmoment : Moment t ["w"] .builtin [some first, some second]
      (extract t ["w"] .builtin [some first]) made := .during rfl hrefusal hmade
  exact ⟨hmoment, withinCeilings ⟨rfl, rfl⟩ hmoment⟩

end CodeSurvey
