import CodeSurvey.Proofs.Intake.Unpacking

/-!
# Nothing but whole files, and nothing outside the workspace

Whatever an archive holds, unpacking it below an empty directory only ever makes
directories and files below this directory, and after every entry each file that
is there is, byte for byte, what one of the entries delivered up to the end of its
stream.  Names that clash, headers that lie, streams that fail and ceilings that
are met make no difference to that.
-/

namespace CodeSurvey

open Placement Extraction

/-- One of the entries was taken and its file written to the end, so many bytes. -/
def EndsWritten (t : FileTree) (root : Location) (limits : Limits) (entries : Entries)
    (e : Entry) (size : Nat) : Prop :=
  ∃ past rest, entries = past ++ some e :: rest ∧
    (extract t root limits past).budget.refusal? = none ∧
    ((extract t root limits past).placement root (some e)).outcome = .written size

theorem EndsWritten.append {t : FileTree} {root : Location} {limits : Limits} {entries : Entries}
    {e : Entry} {size : Nat} (h : EndsWritten t root limits entries e size) (more : Entries) :
    EndsWritten t root limits (entries ++ more) e size := by
  obtain ⟨past, rest, rfl, hrefusal, hout⟩ := h
  exact ⟨past, rest ++ more, by simp, hrefusal, hout⟩

/-- What an unpacking that started from a tree `t` leaves below the root of its
workspace. -/
structure Sandboxed (t : FileTree) (root : Location) (limits : Limits) (entries : Entries)
    (x : Extraction) : Prop where
  /-- The tree is the one that the recorded changes lead to. -/
  replayed : x.tree = t.applyAll x.changes
  /-- Every change was made below the root. -/
  confined : ∀ c ∈ x.changes, IsBelow root c.location
  /-- The root and everything that is not below it is as it was. -/
  outside : ∀ loc, ¬ IsBelow root loc → x.tree.get? loc = t.get? loc
  /-- Whatever is below the root is a directory or a file, and is reached by safe
  names. -/
  inside : ∀ names n, names ≠ [] → x.tree.get? (root ++ names) = some n →
    (∀ name ∈ names, SafeName name) ∧ (n = .directory ∨ ∃ content, n = .file content)
  /-- Files have names that are worth unpacking. -/
  whitelisted : ∀ names content, (names, content) ∈ x.tree.files root →
    isWhitelisted (names.getLast?.getD "") = true
  /-- Each file is the whole stream of an entry that belongs there. -/
  complete : ∀ names content, (names, content) ∈ x.tree.files root →
    ∃ e, EndsWritten t root limits entries e content.size ∧ EntryName.components e.name = .ok names ∧
      Read.failure? e.reads.get = none ∧ Read.stream e.reads.get = content
  /-- No file is larger than the ceiling for a single file. -/
  bounded : ∀ names content, (names, content) ∈ x.tree.files root →
    content.size ≤ limits.maxFileSize.toNat

namespace Sandboxed

variable {t : FileTree} {root : Location} {limits : Limits} {past : Entries}

theorem start (h : t.IsEmptyDirectory root) : Sandboxed t root limits [] (.start t limits) :=
  have hfiles (f : Location × ByteArray) : f ∉ t.files root :=
    List.eq_nil_iff_forall_not_mem.mp h.files_eq_nil f
  { replayed := rfl
    confined := fun _ hc ↦ nomatch hc
    outside := fun _ _ ↦ rfl
    inside := fun _ _ hne hget ↦ nomatch (h.get?_eq_none hne).symm.trans hget
    whitelisted := fun _ _ hmem ↦ absurd hmem (hfiles _)
    complete := fun _ _ hmem ↦ absurd hmem (hfiles _)
    bounded := fun _ _ hmem ↦ absurd hmem (hfiles _) }

/-- An entry that is refused leaves everything as it is. -/
theorem refuse {x : Extraction} (h : Sandboxed t root limits past x) (e : Option Entry) (b : Budget) :
    Sandboxed t root limits (past ++ [e]) { x with budget := b } where
  replayed := h.replayed
  confined := h.confined
  outside := h.outside
  inside := h.inside
  whitelisted := h.whitelisted
  complete names content hmem := by
    obtain ⟨entry, hwritten, hrest⟩ := h.complete names content hmem
    exact ⟨entry, hwritten.append [e], hrest⟩
  bounded := h.bounded

/-- A file that is there after an entry that is taken was there before, or it is the
whole stream of this entry. -/
theorem file_take {e : Option Entry} {names : List String} {content : ByteArray}
    (hrefusal : (extract t root limits past).budget.refusal? = none)
    (hmem : (names, content) ∈ ((extract t root limits past).record
      ((extract t root limits past).placement root e)).tree.files root) :
    (names, content) ∈ (extract t root limits past).tree.files root ∨
      ∃ entry, EndsWritten t root limits (past ++ [e]) entry content.size ∧
        Opened (extract t root limits past).budget entry names ∧
        Read.failure? entry.reads.get = none ∧ Read.stream entry.reads.get = content ∧
        content.size ≤ limits.maxFileSize.toNat := by
  rcases mem_files_record hmem with hbefore | ⟨entry, rfl, hopened, hend, hstream, hout⟩
  · exact .inl hbefore
  · have hsize := Nat.le_trans (le_allowance_of_written hout) (Budget.allowance_le_maxFileSize _)
    rw [limits_extract] at hsize
    exact .inr ⟨entry, ⟨past, [], rfl, hrefusal, hout⟩, hopened, hend, hstream, hsize⟩

/-- An entry that is taken leaves the workspace sandboxed. -/
theorem take {e : Option Entry} (h : Sandboxed t root limits past (extract t root limits past))
    (hrefusal : (extract t root limits past).budget.refusal? = none) :
    Sandboxed t root limits (past ++ [e])
      ((extract t root limits past).record ((extract t root limits past).placement root e)) where
  replayed := by
    rw [changes_record, FileTree.applyAll_append, ← h.replayed]
    rfl
  confined c hc := by
    rw [changes_record] at hc
    rcases List.mem_append.mp hc with hc | hc
    · exact h.confined c hc
    · exact isBelow_of_mem_changes hc
  outside loc hloc := by
    rw [← h.outside loc hloc]
    refine FileTree.get?_applyAll_of_ne (fun c hc heq ↦ hloc ?_) _
    exact heq ▸ isBelow_of_mem_changes hc
  inside names n hne hget := by
    rcases node_record hget with hbefore | ⟨⟨way, -, hsafe, hloc⟩, hkind⟩
    · exact h.inside names n hne hbefore
    · obtain rfl : names = way := List.append_cancel_left hloc
      exact ⟨hsafe, hkind⟩
  whitelisted names content hmem := by
    rcases file_take hrefusal hmem with hbefore | ⟨entry, -, hopened, -, -, -⟩
    · exact h.whitelisted names content hbefore
    · exact hopened.allowed
  complete names content hmem := by
    rcases file_take hrefusal hmem with hbefore | ⟨entry, hwritten, hopened, hend, hstream, -⟩
    · obtain ⟨entry, hwritten, hrest⟩ := h.complete names content hbefore
      exact ⟨entry, hwritten.append [e], hrest⟩
    · exact ⟨entry, hwritten, hopened.named, hend, hstream⟩
  bounded names content hmem := by
    rcases file_take hrefusal hmem with hbefore | ⟨entry, -, -, -, -, hsize⟩
    · exact h.bounded names content hbefore
    · exact hsize

end Sandboxed

/-- Unpacking below an empty directory is sandboxed after every entry that has been
gone over, whatever the entries are and whichever ceilings there are. -/
theorem sandboxed_extract {t : FileTree} {root : Location} (h : t.IsEmptyDirectory root)
    (limits : Limits) (past rest : Entries) :
    Sandboxed t root limits past (extract t root limits past) ∧
      extract t root limits (past ++ rest) = .run root rest (extract t root limits past) := by
  refine ⟨?_, extract_append ..⟩
  induction past using extract_induction with
  | start => exact .start h
  | take past e x ih hrefusal => exact ih.take hrefusal
  | refuse past e reason x ih _ => exact ih.refuse e _

/-- The second of two files cannot be read to its end and leaves nothing behind. -/
theorem sandboxed_extract_failing_stream :
    let t : FileTree := (∅ : FileTree).insert ["w"] .directory
    let entries : Entries :=
      [some ⟨"src/a.py", false, 1, 1, .pure [.bytes ⟨#[97]⟩, .interrupted, .bytes ⟨#[98]⟩]⟩,
        some ⟨"./b.py", false, 0, 0, .pure [.bytes ⟨#[97]⟩, .failed "corrupt"]⟩]
    Sandboxed t ["w"] .builtin entries (extract t ["w"] .builtin entries) ∧
      (extract t ["w"] .builtin entries).tree.files ["w"] = [(["src", "a.py"], ⟨#[97, 98]⟩)] :=
  ⟨(sandboxed_extract ⟨rfl, rfl⟩ .builtin _ []).1, rfl⟩

end CodeSurvey
