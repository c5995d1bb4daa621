import CodeSurvey.Proofs.Intake.Ceilings
import CodeSurvey.Proofs.Intake.Overwriting

/-!
# Files that are counted but lost

The budget counts a file when it is complete and never takes it back.  A file in whose
place another is begun is lost, so what has been counted is what is on the disk together
with what was lost, file by file and byte by byte.
-/

namespace CodeSurvey

open Placement Extraction

theorem sizes_append (fs gs : List (Location × ByteArray)) : sizes (fs ++ gs) = sizes fs + sizes gs := by
  simp [sizes]

namespace Extraction

/-- The files in whose place the next entry begins its own. -/
def lostTo (x : Extraction) (root : Location) (e : Option Entry) : List (Location × ByteArray) :=
  match x.budget.refusal? with
  | some _ => []
  | none => (x.tree.files root).filter fun f ↦ (x.placement root e).Begins (root ++ f.1)

/-- The files that are lost one after the other while entries are unpacked. -/
def lost (root : Location) : Entries → Extraction → List (Location × ByteArray)
  | [], _ => []
  | e :: rest, x => x.lostTo root e ++ lost root rest (x.step root e)

theorem lost_append (root : Location) (past rest : Entries) (x : Extraction) :
    lost root (past ++ rest) x = lost root past x ++ lost root rest (run root past x) := by
  induction past generalizing x with
  | nil => rfl
  | cons e past ih =>
    rw [List.cons_append, lost, lost, ih, List.append_assoc, run_eq_foldl, run_eq_foldl,
      List.foldl_cons]

variable {x : Extraction} {root : Location} {e : Option Entry}

/-- The files in whose place the next entry begins none. -/
def spared (x : Extraction) (root : Location) (e : Option Entry) : List (Location × ByteArray) :=
  (x.tree.files root).filter fun f ↦ ¬ (x.placement root e).Begins (root ++ f.1)

theorem mem_spared {names : List String} {content : ByteArray} :
    (names, content) ∈ x.spared root e ↔ names ≠ [] ∧
      ¬ (x.placement root e).Begins (root ++ names) ∧
      x.tree.get? (root ++ names) = some (.file content) := by
  rw [spared, List.mem_filter, FileTree.mem_files, decide_eq_true_iff, and_assoc]
  exact and_congr_right' and_comm

theorem nodup_spared (x : Extraction) (root : Location) (e : Option Entry) : (x.spared root e).Nodup :=
  (x.tree.nodup_files root).filter _

theorem lostTo_append_spared (hrefusal : x.budget.refusal? = none) :
    (x.lostTo root e ++ x.spared root e).Perm (x.tree.files root) := by
  rw [lostTo, hrefusal, spared]
  simp only [decide_not]
  exact List.filter_append_perm ..

/-- After an entry that is taken there are the files that it spared, and its own if it was
written to the end. -/
theorem files_record_perm (x : Extraction) (root : Location) (e : Option Entry) :
    (∃ f : Location × ByteArray, (x.placement root e).outcome = .written f.2.size ∧
      ((x.record (x.placement root e)).tree.files root).Perm (f :: x.spared root e)) ∨
    (∀ size, (x.placement root e).outcome ≠ .written size) ∧
      ((x.record (x.placement root e)).tree.files root).Perm (x.spared root e) := by
  have hnodup := (x.record (x.placement root e)).tree.nodup_files root
  cases x.effect root e with
  | none hbegins hout hfiles =>
    refine .inr ⟨hout, (List.perm_ext_iff_of_nodup hnodup (nodup_spared ..)).mpr ?_⟩
    rintro ⟨names, content⟩
    rw [FileTree.mem_files, mem_spared, record, hfiles, and_iff_right (hbegins _)]
  | @clear entry names _ _ hbegins hout hfiles =>
    refine .inr ⟨hout, (List.perm_ext_iff_of_nodup hnodup (nodup_spared ..)).mpr ?_⟩
    rintro ⟨names', content⟩
    rw [FileTree.mem_files, mem_spared, record, hfiles, hbegins]
  | @put entry names _ hnamed hbegins hout hfiles =>
    have hfresh : (names, Read.stream entry.reads.get) ∉ x.spared root e := by
      rw [mem_spared, hbegins]
      exact fun h ↦ h.2.1 rfl
    refine .inl ⟨(names, Read.stream entry.reads.get), hout, ?_⟩
    refine (List.perm_ext_iff_of_nodup hnodup (List.nodup_cons.mpr ⟨hfresh, nodup_spared ..⟩)).mpr ?_
    rintro ⟨names', content⟩
    rw [FileTree.mem_files, List.mem_cons, mem_spared, record, hfiles, hbegins, Prod.mk.injEq]
    have hne := EntryName.ne_nil_of_components hnamed
    by_cases hplace : names' = names
    · subst hplace
      simp [hne]
    · simp [hplace]

end Extraction

/-- What has been counted is what is on the disk together with what was lost. -/
structure Counted (root : Location) (x : Extraction) (gone : List (Location × ByteArray)) : Prop where
  fileCount_eq : x.budget.fileCount = (x.tree.files root).length + gone.length
  totalBytes_eq : x.budget.totalBytes = sizes (x.tree.files root) + sizes gone

namespace Counted

variable {root : Location} {x : Extraction} {e : Option Entry} {gone : List (Location × ByteArray)}

theorem start {t : FileTree} (h : t.IsEmptyDirectory root) (limits : Limits) :
    Counted root (.start t limits) [] := by
  have hfiles : (Extraction.start t limits).tree.files root = [] := h.files_eq_nil
  constructor
  · rw [hfiles]
    rfl
  · rw [hfiles]
    rfl

/-- An entry that is taken loses what it does not spare. -/
theorem take (h : Counted root x gone) (hrefusal : x.budget.refusal? = none)
    (htotal : x.budget.totalBytes ≤ x.budget.limits.maxTotalBytes.toNat) :
    Counted root (x.record (x.placement root e)) (gone ++ x.lostTo root e) := by
  have hbefore : (x.lostTo root e ++ x.spared root e).Perm (x.tree.files root) :=
    lostTo_append_spared hrefusal
  have hlength := hbefore.length_eq
  have hsizes : sizes (x.lostTo root e ++ x.spared root e) = sizes (x.tree.files root) :=
    (hbefore.map _).sum_eq
  rw [List.length_append] at hlength
  rw [sizes_append] at hsizes
  obtain ⟨hcount, hbytes⟩ := h
  rcases x.files_record_perm root e with ⟨f, hout, hafter⟩ | ⟨hout, hafter⟩
  · have hlength' := hafter.length_eq
    have hsizes' : sizes _ = sizes (f :: x.spared root e) := (hafter.map _).sum_eq
    have hcommit := Budget.totalBytes_commit (le_allowance_of_written hout) htotal
    rw [List.length_cons] at hlength'
    rw [sizes_cons] at hsizes'
    constructor
    · show (charge x.budget _).fileCount = _
      rw [hout, List.length_append]
      show x.budget.fileCount + 1 = _
      omega
    · show (charge x.budget _).totalBytes = _
      rw [hout, sizes_append]
      refine hcommit.trans ?_
      omega
  · have hlength' := hafter.length_eq
    have hsizes' : sizes _ = sizes _ := (hafter.map _).sum_eq
    obtain ⟨hcount', hbytes', -⟩ := charge_of_ne_written hout x.budget
    constructor
    · show (charge x.budget _).fileCount = _
      rw [hcount', List.length_append]
      omega
    · show (charge x.budget _).totalBytes = _
      rw [hbytes', sizes_append]
      omega

end Counted

theorem lost_concat (t : FileTree) (root : Location) (limits : Limits) (past : Entries)
    (e : Option Entry) :
    lost root (past ++ [e]) (.start t limits) =
      lost root past (.start t limits) ++ (extract t root limits past).lostTo root e := by
  rw [lost_append, lost, lost, List.append_nil]
  rfl

/-- After any number of entries, what has been counted is what is on the disk together with
what was lost. -/
theorem counted_extract {t : FileTree} {root : Location} (h : t.IsEmptyDirectory root)
    (limits : Limits) (entries : Entries) :
    Counted root (extract t root limits entries) (lost root entries (.start t limits)) := by
  induction entries using extract_induction with
  | start => exact .start h limits
  | take past e x ih hrefusal =>
    rw [lost_concat]
    refine ih.take hrefusal ?_
    rw [limits_extract]
    exact (charged_extract h limits past).totalBytes_le
  | refuse past e reason x ih hrefusal =>
    rw [lost_concat, lostTo, hrefusal, List.append_nil]
    exact ⟨ih.fileCount_eq, ih.totalBytes_eq⟩

theorem lostTo_eq_nil_iff {x : Extraction} {root : Location} {e : Option Entry} :
    x.lostTo root e = [] ↔ (x.budget.refusal? = none →
      ∀ f ∈ x.tree.files root, ¬ (x.placement root e).Begins (root ++ f.1)) := by
  rw [lostTo]
  cases x.budget.refusal? with
  | some reason => simp
  | none => simp

/-- Nothing is lost over a run exactly if no entry takes anything away. -/
theorem lost_eq_nil_iff {t : FileTree} {root : Location} {limits : Limits} {entries : Entries} :
    lost root entries (.start t limits) = [] ↔
      ∀ past e, past ++ [e] <+: entries → (extract t root limits past).lostTo root e = [] := by
  induction entries using List.reverseRecOn with
  | nil =>
    refine ⟨fun _ past e hpre ↦ ?_, fun _ ↦ rfl⟩
    simp at hpre
  | append_singleton entries last ih =>
    rw [lost_concat, List.append_eq_nil_iff, ih]
    constructor
    · rintro ⟨hearlier, hlast⟩ past e hpre
      rcases List.prefix_concat_iff.mp hpre with heq | hpre
      · obtain ⟨rfl, hlasts⟩ := List.append_inj' heq rfl
        obtain rfl := List.singleton_inj.mp hlasts
        exact hlast
      · exact hearlier past e hpre
    · intro hnone
      exact ⟨fun past e hpre ↦ hnone past e (hpre.trans (List.prefix_append ..)),
        hnone entries last List.prefix_rfl⟩

/-- The tally describes the workspace exactly if no file is begun where one is already. -/
theorem stats_eq_files_iff {t : FileTree} {root : Location} (h : t.IsEmptyDirectory root)
    (limits : Limits) (entries : Entries) :
    let x := extract t root limits entries
    (x.finalStats.filesExtracted = (x.tree.files root).length ∧
      x.finalStats.bytesExtracted = sizes (x.tree.files root)) ↔
    ∀ past e, Taken t root limits entries past e → ∀ f ∈ (extract t root limits past).tree.files root,
      ¬ ((extract t root limits past).placement root e).Begins (root ++ f.1) := by
  intro x
  have hcount : x.finalStats.filesExtracted = _ := (counted_extract h limits entries).fileCount_eq
  have hbytes : x.finalStats.bytesExtracted = _ := (counted_extract h limits entries).totalBytes_eq
  calc _ ↔ lost root entries (.start t limits) = [] := by
        rw [hcount, hbytes]
        constructor
        · rintro ⟨hlength, -⟩
          exact List.eq_nil_of_length_eq_zero (Nat.add_left_cancel hlength)
        · intro hnil
          rw [hnil]
          exact ⟨rfl, rfl⟩
    _ ↔ ∀ past e, past ++ [e] <+: entries → (extract t root limits past).lostTo root e = [] :=
        lost_eq_nil_iff
    _ ↔ _ := by
        simp only [lostTo_eq_nil_iff, Taken, and_imp]

/-- Of two entries with different names one is written, and it is all that there is. -/
theorem stats_eq_files_distinct :
    let t : FileTree := (∅ : FileTree).insert ["w"] .directory
    let first : Entry := ⟨"a.py", false, 2, 2, .pure [.bytes ⟨#[97, 98]⟩]⟩
    let second : Entry := ⟨"b.py", false, 1, 1, .pure [.bytes ⟨#[99]⟩, .failed "corrupt"]⟩
    let x := extract t ["w"] .builtin [some first, some second]
    t.IsEmptyDirectory ["w"] ∧ x.finalStats.filesExtracted = (x.tree.files ["w"]).length ∧
      x.finalStats.bytesExtracted = sizes (x.tree.files ["w"]) := by
  intro t first second x
  refine ⟨⟨rfl, rfl⟩, (stats_eq_files_iff ⟨rfl, rfl⟩ .builtin [some first, some second]).mpr ?_⟩
  rintro past e ⟨hpre, -⟩
  match past with
  | [] =>
    obtain rfl : e = some first := by simpa using hpre
    decide +kernel
  | [_] =>
    obtain ⟨rfl, rfl⟩ : _ = some first ∧ e = some second := by simpa using hpre
    decide +kernel
  | _ :: _ :: _ => simp at hpre

/-- A file that is too long takes away the one before it, which is counted still. -/
theorem stats_ne_files_too_large :
    let t : FileTree := (∅ : FileTree).insert ["w"] .directory
    let limits : Limits := { Limits.builtin with maxFileSize := 4 }
    let first : Entry := ⟨"a.py", false, 4, 4, .pure [.bytes ⟨#[120, 61, 49, 10]⟩]⟩
    let second : Entry := ⟨"./a.py", false, 4, 4, .pure [.bytes ⟨#[120, 61, 49, 50, 10]⟩]⟩
    let x := extract t ["w"] limits [some first, some second]
    t.IsEmptyDirectory ["w"] ∧ x.finalStats.filesExtracted = 1 ∧ x.finalStats.bytesExtracted = 4 ∧
      x.tree.files ["w"] = [] := by
  intro t limits first second x
  refine ⟨⟨rfl, rfl⟩, ?_⟩
  decide +kernel

end CodeSurvey
