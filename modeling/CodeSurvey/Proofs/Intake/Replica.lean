import CodeSurvey.Archive.Content
import CodeSurvey.Proofs.Intake.Unpacking
import CodeSurvey.Proofs.Path

/-!
# Unpacking an honest archive

An honest archive lists files, in some order, with their true sizes and under plain
names, and there is room for all of them.  Nothing then stops the unpacking, and
nothing stands in the way of a file.  In the end the workspace holds no other files,
and it holds each file that is worth unpacking, under its name and with all of its
bytes, unless the name is longer than the file system can take.
-/

namespace CodeSurvey

open Extraction

/-- A file with its path below some directory. -/
abbrev NamedFile := String × ByteArray

namespace NamedFile

/-- The names to go down by to a file. -/
def names (f : NamedFile) : List String := Path.components f.1

end NamedFile

/-- A directory that holds some files, and no others. -/
def Holds (t : FileTree) (root : Location) (files : List NamedFile) : Prop :=
  ∀ names content, (names, content) ∈ t.files root ↔ ∃ f ∈ files, f.names = names ∧ f.2 = content

/-- Files that an archive may hold as well as a directory, within given limits. -/
structure Portable (limits : Limits) (files : List NamedFile) : Prop where
  distinct : (files.map Prod.fst).Nodup
  /-- No file stands where another one needs a directory. -/
  apart : ∀ f ∈ files, ∀ g ∈ files, f.names <+: g.names → f.names = g.names
  accepted : ∀ f ∈ files, ∃ names, EntryName.components f.1 = .ok names
  /-- A path is written as its components with slashes between them. -/
  written : ∀ f ∈ files, "/".intercalate f.names = f.1
  no_backslash : ∀ f ∈ files, f.1.toList.getLast? ≠ some '\\'
  size_le : ∀ f ∈ files, f.2.size ≤ limits.maxFileSize.toNat
  total_le : (files.map fun f ↦ f.2.size).sum ≤ limits.maxTotalBytes.toNat
  count_le : files.length ≤ limits.maxFileCount.toNat

/-- An entry that truthfully stands for a file. -/
structure Delivers (limits : Limits) (e : Entry) (f : NamedFile) : Prop where
  name : e.name = f.1
  isDirectory : e.isDirectory = Archive.namesDirectory f.1
  declared : e.declaredSize = f.2.size
  /-- The packed size is not suspicious. -/
  ratio : 0 < f.2.size → 0 < e.packedSize →
    f.2.size / e.packedSize ≤ limits.maxCompressionRatio.toNat
  ends : Read.failure? e.reads.get = none
  stream : Read.stream e.reads.get = f.2

/-- A file that the file system can hold below a directory. -/
structure Fits (root : Location) (f : NamedFile) : Prop where
  name : ∀ name ∈ f.names, name.utf8ByteSize ≤ Location.maxName
  path : Location.isTooLong (root ++ f.names) = false

/-- What is said of a truthful entry speaks for opening it. -/
theorem Delivers.screen_eq_ok {limits : Limits} {e : Entry} {f : NamedFile} (h : Delivers limits e f)
    {b : Budget} (hlimits : b.limits = limits) (hsize : f.2.size ≤ limits.maxFileSize.toNat) :
    b.screen (some e.declaredSize) (some e.packedSize) = .ok () := by
  have hratio := h.ratio
  rw [← hlimits] at hratio hsize
  rw [Budget.screen, h.declared, if_neg (by simpa using hsize)]
  refine if_neg fun hsuspicious ↦ ?_
  simp only [Bool.and_eq_true, decide_eq_true_eq] at hsuspicious
  exact Nat.not_lt.mpr (hratio hsuspicious.1.1 hsuspicious.1.2) hsuspicious.2

/-- May a file be unpacked? -/
def NamedFile.isWanted (f : NamedFile) : Bool := isWhitelisted (f.names.getLast?.getD "")

namespace Portable

variable {limits : Limits} {files : List NamedFile}

theorem components_eq (h : Portable limits files) {f : NamedFile} (hf : f ∈ files) :
    EntryName.components f.1 = .ok f.names := by
  obtain ⟨names, hnames⟩ := h.accepted f hf
  obtain ⟨-, -, -, -, -, -, -, rfl⟩ := EntryName.components_eq_ok_iff.mp hnames
  exact hnames

theorem names_ne_nil (h : Portable limits files) {f : NamedFile} (hf : f ∈ files) : f.names ≠ [] :=
  EntryName.ne_nil_of_components (h.components_eq hf)

/-- Of two files none is above the other. -/
theorem not_prefix (h : Portable limits files) {f g : NamedFile} (hf : f ∈ files) (hg : g ∈ files)
    (hne : f.1 ≠ g.1) : ¬ f.names <+: g.names := by
  intro hlead
  refine hne ?_
  rw [← h.written f hf, ← h.written g hg, h.apart f hf g hg hlead]

/-- A path that is accepted and does not end in a backslash is not that of a directory. -/
theorem not_namesDirectory (h : Portable limits files) {f : NamedFile} (hf : f ∈ files) :
    Archive.namesDirectory f.1 = false := by
  obtain ⟨last, hlast⟩ :=
    Option.isSome_iff_exists.mp (List.getLast?_isSome.mpr (h.names_ne_nil hf))
  have hsafe := EntryName.safeName_of_components (h.components_eq hf) last (List.mem_of_getLast? hlast)
  have hends := Path.getLast?_intercalate hsafe.ne_empty hlast
  rw [h.written f hf] at hends
  have hback := h.no_backslash f hf
  rw [hends] at hback
  rw [Archive.namesDirectory, hends]
  cases hc : last.toList.getLast? with
  | none => rfl
  | some c =>
    have hslash : c ≠ '/' := by
      rintro rfl
      exact hsafe.no_slash (List.mem_of_getLast? hc)
    have hbackslash : c ≠ '\\' := by
      rintro rfl
      exact hback hc
    simp [hslash, hbackslash]

end Portable

/-- A workspace into which some files have been unpacked, and the budget that is left. -/
structure Replica (root : Location) (limits : Limits) (done : List NamedFile) (x : Extraction) :
    Prop where
  /-- It holds no other files. -/
  sound : ∀ names content, (names, content) ∈ x.tree.files root →
    ∃ f ∈ done, f.names = names ∧ f.2 = content
  /-- It holds those that may be unpacked and fit. -/
  complete : ∀ f ∈ done, f.isWanted = true → Fits root f → (f.names, f.2) ∈ x.tree.files root
  /-- Besides it holds directories that lead to files. -/
  directories : ∀ names n, names ≠ [] → x.tree.get? (root ++ names) = some n →
    (∃ content, n = .file content) ∨ n = .directory ∧ ∃ f ∈ done, names <+: f.names ∧ names ≠ f.names
  limits_eq : x.budget.limits = limits
  running : x.budget.stopped = none
  fileCount_le : x.budget.fileCount ≤ done.length
  totalBytes_le : x.budget.totalBytes ≤ (done.map fun f ↦ f.2.size).sum

namespace Replica

variable {root : Location} {limits : Limits} {done rest : List NamedFile} {x : Extraction}
  {f : NamedFile} {e : Entry}

theorem start {t : FileTree} (h : t.IsEmptyDirectory root) :
    Replica root limits [] (.start t limits) where
  sound names content hmem := by
    rw [Extraction.start, h.files_eq_nil] at hmem
    exact nomatch hmem
  complete f hf := nomatch hf
  directories names n hne hget := nomatch (h.get?_eq_none hne).symm.trans hget
  limits_eq := rfl
  running := rfl
  fileCount_le := Nat.le_refl 0
  totalBytes_le := Nat.le_refl 0

/-- The files that have been unpacked stay out of the way of the next one. -/
theorem apart_of_portable (hp : Portable limits (done ++ f :: rest)) {g : NamedFile} (hg : g ∈ done) :
    ¬ f.names <+: g.names ∧ ¬ g.names <+: f.names := by
  have hf : f ∈ done ++ f :: rest := by simp
  have hg' : g ∈ done ++ f :: rest := List.mem_append_left _ hg
  have hne : f.1 ≠ g.1 := by
    have hdistinct := hp.distinct
    rw [List.map_append, List.map_cons] at hdistinct
    exact Ne.symm ((List.nodup_append.mp hdistinct).2.2 g.1 (List.mem_map_of_mem hg) f.1
      List.mem_cons_self)
  exact ⟨hp.not_prefix hf hg' hne, hp.not_prefix hg' hf hne.symm⟩

/-- The next entry is taken. -/
theorem refusal?_eq_none (h : Replica root limits done x) (hp : Portable limits (done ++ f :: rest)) :
    x.budget.refusal? = none := by
  refine Budget.refusal?_eq_none_iff.mpr ⟨h.running, ?_⟩
  have hcount := hp.count_le
  have hle := h.fileCount_le
  rw [List.length_append, List.length_cons] at hcount
  rw [h.limits_eq]
  omega

/-- The directories above the next file can be made. -/
theorem makeDirectories_eq_none (h : Replica root limits done x)
    (hp : Portable limits (done ++ f :: rest)) (hfits : Fits root f) :
    (x.tree.makeDirectories root f.names.dropLast).2 = none := by
  have hshort := Location.isTooLong_dropLast hfits.path
  rw [List.dropLast_append_of_ne_nil (hp.names_ne_nil (by simp))] at hshort
  refine FileTree.makeDirectories_ok hshort (fun n hn ↦ hfits.name n (List.dropLast_subset _ hn))
    fun way hne hlead ↦ ?_
  cases hget : x.tree.get? (root ++ way) with
  | none => exact .inl rfl
  | some n =>
    rcases h.directories way n hne hget with ⟨content, rfl⟩ | ⟨rfl, -⟩
    · obtain ⟨g, hg, rfl, -⟩ := h.sound way content (FileTree.mem_files.mpr ⟨hne, hget⟩)
      exact absurd (hlead.trans (List.dropLast_prefix _)) (apart_of_portable hp hg).2
    · exact .inr rfl

/-- The next file can be opened. -/
theorem openFailure?_eq_none (h : Replica root limits done x)
    (hp : Portable limits (done ++ f :: rest)) (hfits : Fits root f) :
    x.tree.openFailure? (root ++ f.names) = none := by
  have hne := hp.names_ne_nil (f := f) (by simp)
  have hlast : ((root ++ f.names).getLast?.getD "").utf8ByteSize ≤ Location.maxName := by
    rw [List.getLast?_append, Option.or_of_isSome (List.getLast?_isSome.mpr hne),
      List.getLast?_eq_some_getLast hne]
    exact hfits.name _ (List.getLast_mem hne)
  have hfree : x.tree.isDirectory (root ++ f.names) = false := by
    refine decide_eq_false fun hget ↦ ?_
    rcases h.directories f.names _ hne hget with ⟨content, hfile⟩ | ⟨-, g, hg, hlead, -⟩
    · exact nomatch hfile
    · exact (apart_of_portable hp hg).1 hlead
  rw [FileTree.openFailure?, hfits.path, if_neg (by simp), if_neg (Nat.not_lt.mpr hlast), hfree,
    if_neg (by simp)]

/-- There is room for the next file. -/
theorem size_le_allowance (h : Replica root limits done x) (hp : Portable limits (done ++ f :: rest)) :
    f.2.size ≤ x.budget.allowance.bytes := by
  have hsize := hp.size_le f (by simp)
  have htotal := hp.total_le
  have hle := h.totalBytes_le
  rw [List.map_append, List.map_cons, List.sum_append, List.sum_cons] at htotal
  rw [← h.limits_eq] at hsize htotal
  unfold Budget.allowance
  dsimp only
  split
  · dsimp only
    omega
  · exact hsize

/-- A file that is worth unpacking is opened. -/
theorem opened (h : Replica root limits done x) (hp : Portable limits (done ++ f :: rest))
    (hd : Delivers limits e f) (hwanted : f.isWanted = true) :
    Placement.Opened x.budget e f.names where
  named := hd.name ▸ hp.components_eq (by simp)
  regular := hd.isDirectory.trans (hp.not_namesDirectory (by simp))
  allowed := hwanted
  screened := hd.screen_eq_ok h.limits_eq (hp.size_le f (by simp))

/-- The next entry is either given up, perhaps after directories have been made for
it, or it is written. -/
theorem placement_cases (h : Replica root limits done x) (hp : Portable limits (done ++ f :: rest))
    (hd : Delivers limits e f) :
    ∃ dirs, Placement.NewDirectories x.tree root f.names.dropLast dirs ∧
      ((∃ reason, x.placement root (some e) = .skip reason dirs) ∨
        x.placement root (some e) = ⟨.written f.2.size,
          dirs ++ writing (root ++ f.names) (Read.delivered e.reads.get)⟩) := by
  have hnames : ∀ names, EntryName.components e.name = .ok names → f.names = names := by
    intro names hok
    rw [hd.name, hp.components_eq (by simp)] at hok
    exact Except.ok.inj hok
  have hcourse : Placement.Course x.tree root x.budget e (x.placement root (some e)) :=
    Placement.course_ofEntry ..
  generalize x.placement root (some e) = p at hcourse ⊢
  cases hcourse with
  | refused reason => exact ⟨[], nofun, .inl ⟨reason, rfl⟩⟩
  | directories _ hdir _ _ =>
    rw [hd.isDirectory, hp.not_namesDirectory (by simp)] at hdir
    exact nomatch hdir
  | @blocked names dirs hopened hnew =>
    obtain rfl := hnames names hopened.named
    exact ⟨dirs, hnew, .inl ⟨_, rfl⟩⟩
  | @written names dirs hopened hnew _ _ _ =>
    obtain rfl := hnames names hopened.named
    rw [hd.stream]
    exact ⟨dirs, hnew, .inr rfl⟩
  | abandoned _ _ _ _ _ hwhy =>
    rcases hwhy with ⟨message, hfailed, -⟩ | ⟨hmore, -⟩
    · exact nomatch hfailed.symm.trans hd.ends
    · rw [hd.stream] at hmore
      exact absurd (h.size_le_allowance hp) (Nat.not_le.mpr hmore)

/-- A file that is worth unpacking is written if the file system can hold it. -/
theorem placement_eq_written (h : Replica root limits done x)
    (hp : Portable limits (done ++ f :: rest)) (hd : Delivers limits e f) (hfits : Fits root f)
    (hwanted : f.isWanted = true) :
    x.placement root (some e) = ⟨.written f.2.size,
      (x.tree.makeDirectories root f.names.dropLast).1 ++
        writing (root ++ f.names) (Read.delivered e.reads.get)⟩ := by
  have heq := Placement.ofEntry_eq_written (h.opened hp hd hwanted) (h.makeDirectories_eq_none hp hfits)
    (h.openFailure?_eq_none hp hfits) hd.ends (hd.stream.symm ▸ h.size_le_allowance hp)
  rw [hd.stream] at heq
  exact heq

/-- The directories that are made for a file lead to it, and were not there before. -/
theorem of_mem_newDirectories {t : FileTree} {dirs : List Change} {names : List String}
    (hne : f.names ≠ []) (hnew : Placement.NewDirectories t root f.names.dropLast dirs)
    (h : .makeDirectory (root ++ names) ∈ dirs) :
    names <+: f.names ∧ names ≠ f.names ∧ t.get? (root ++ names) = none := by
  obtain ⟨way, -, hlead, heq, hnone⟩ := hnew _ h
  obtain rfl : names = way := List.append_cancel_left (Change.makeDirectory.inj heq)
  refine ⟨hlead.trans (List.dropLast_prefix _), ?_, hnone⟩
  rintro rfl
  have hlength := hlead.length_le
  rw [List.length_dropLast] at hlength
  exact absurd (List.length_pos_iff.mpr hne) (by omega)

/-- What is below the root after directories have been made. -/
theorem get?_newDirectories {t : FileTree} {dirs : List Change}
    (hnew : Placement.NewDirectories t root f.names.dropLast dirs) (names : List String) :
    (t.applyAll dirs).get? (root ++ names) =
      if .makeDirectory (root ++ names) ∈ dirs then some .directory else t.get? (root ++ names) :=
  FileTree.get?_applyAll_makeDirectory hnew.makeDirectory t _

/-- What is below the root after a file has been written. -/
theorem get?_written {t : FileTree} {dirs : List Change} (hne : f.names ≠ [])
    (hnew : Placement.NewDirectories t root f.names.dropLast dirs) (chunks : List ByteArray)
    (names : List String) :
    (t.applyAll (dirs ++ writing (root ++ f.names) chunks)).get? (root ++ names) =
      if names = f.names then some (.file (joined chunks))
      else if .makeDirectory (root ++ names) ∈ dirs then some .directory
      else t.get? (root ++ names) := by
  rw [FileTree.applyAll_append, FileTree.get?_applyAll_writing (by simp [hne]),
    get?_newDirectories hnew]
  simp only [List.append_cancel_left_eq]

/-- What there is after the next entry was there before, or leads to its file, or is
its file. -/
theorem node_next (h : Replica root limits done x) (hp : Portable limits (done ++ f :: rest))
    (hd : Delivers limits e f) {names : List String} {n : Node}
    (hget : (x.record (x.placement root (some e))).tree.get? (root ++ names) = some n) :
    x.tree.get? (root ++ names) = some n ∨
      (n = .directory ∧ names <+: f.names ∧ names ≠ f.names) ∨ (n = .file f.2 ∧ names = f.names) := by
  have hne : f.names ≠ [] := hp.names_ne_nil (by simp)
  have hjoined : joined (Read.delivered e.reads.get) = f.2 := hd.stream
  obtain ⟨dirs, hnew, ⟨reason, hplace⟩ | hplace⟩ := h.placement_cases hp hd
  · rw [hplace, record, Placement.skip, get?_newDirectories hnew] at hget
    split at hget
    next hmem =>
      obtain ⟨hlead, hother, -⟩ := of_mem_newDirectories hne hnew hmem
      exact .inr (.inl ⟨(Option.some.inj hget).symm, hlead, hother⟩)
    next => exact .inl hget
  · rw [hplace, record, get?_written hne hnew, hjoined] at hget
    split at hget
    next hown => exact .inr (.inr ⟨(Option.some.inj hget).symm, hown⟩)
    next =>
      split at hget
      next hmem =>
        obtain ⟨hlead, hother, -⟩ := of_mem_newDirectories hne hnew hmem
        exact .inr (.inl ⟨(Option.some.inj hget).symm, hlead, hother⟩)
      next => exact .inl hget

/-- The next entry leaves everything else as it was. -/
theorem node_kept (h : Replica root limits done x) (hp : Portable limits (done ++ f :: rest))
    (hd : Delivers limits e f) {names : List String} (hother : names ≠ f.names) {n : Node}
    (hget : x.tree.get? (root ++ names) = some n) :
    (x.record (x.placement root (some e))).tree.get? (root ++ names) = some n := by
  have hne : f.names ≠ [] := hp.names_ne_nil (by simp)
  obtain ⟨dirs, hnew, hcases⟩ := h.placement_cases hp hd
  have hold : .makeDirectory (root ++ names) ∉ dirs := fun hmem ↦
    nomatch hget.symm.trans (of_mem_newDirectories hne hnew hmem).2.2
  rcases hcases with ⟨reason, hplace⟩ | hplace
  · rw [hplace, record, Placement.skip, get?_newDirectories hnew, if_neg hold]
    exact hget
  · rw [hplace, record, get?_written hne hnew, if_neg hother, if_neg hold]
    exact hget

/-- After the next entry its file is there, if it is worth unpacking and fits. -/
theorem file_next (h : Replica root limits done x) (hp : Portable limits (done ++ f :: rest))
    (hd : Delivers limits e f) (hwanted : f.isWanted = true) (hfits : Fits root f) :
    (x.record (x.placement root (some e))).tree.get? (root ++ f.names) = some (.file f.2) := by
  have hnew : Placement.NewDirectories x.tree root f.names.dropLast
      (x.tree.makeDirectories root f.names.dropLast).1 := fun _ hc ↦ FileTree.mem_makeDirectories hc
  have hjoined : joined (Read.delivered e.reads.get) = f.2 := hd.stream
  rw [h.placement_eq_written hp hd hfits hwanted, record, get?_written (hp.names_ne_nil (by simp)) hnew,
    if_pos rfl, hjoined]

/-- The next entry is charged at most for its file, and does not stop the unpacking. -/
theorem budget_next (h : Replica root limits done x) (hp : Portable limits (done ++ f :: rest))
    (hd : Delivers limits e f) :
    (x.record (x.placement root (some e))).budget = x.budget ∨
      (x.record (x.placement root (some e))).budget = x.budget.commit f.2.size := by
  obtain ⟨dirs, -, ⟨reason, hplace⟩ | hplace⟩ := h.placement_cases hp hd
  · rw [hplace]
    exact .inl rfl
  · rw [hplace]
    exact .inr rfl

/-- The next entry leaves a replica of one more file. -/
theorem step (h : Replica root limits done x) (hp : Portable limits (done ++ f :: rest))
    (hd : Delivers limits e f) : Replica root limits (done ++ [f]) (x.step root (some e)) := by
  rw [Extraction.step, h.refusal?_eq_none hp]
  dsimp only
  refine ⟨fun names content hmem ↦ ?_, fun g hg hwanted hfits ↦ ?_, fun names n hne hget ↦ ?_,
    ?_, ?_, ?_, ?_⟩
  · obtain ⟨hne, hget⟩ := FileTree.mem_files.mp hmem
    rcases h.node_next hp hd hget with hbefore | ⟨hdir, -⟩ | ⟨hfile, rfl⟩
    · obtain ⟨g, hg, hrest⟩ := h.sound names content (FileTree.mem_files.mpr ⟨hne, hbefore⟩)
      exact ⟨g, List.mem_append_left _ hg, hrest⟩
    · cases hdir
    · exact ⟨f, by simp, rfl, (Node.file.inj hfile).symm⟩
  · rcases List.mem_append.mp hg with hg | hg
    · obtain ⟨hne, hget⟩ := FileTree.mem_files.mp (h.complete g hg hwanted hfits)
      have hother : g.names ≠ f.names := fun heq ↦
        (apart_of_portable hp hg).1 (heq ▸ List.prefix_rfl)
      exact FileTree.mem_files.mpr ⟨hne, h.node_kept hp hd hother hget⟩
    · obtain rfl := List.mem_singleton.mp hg
      exact FileTree.mem_files.mpr ⟨hp.names_ne_nil (by simp), h.file_next hp hd hwanted hfits⟩
  · rcases h.node_next hp hd hget with hbefore | ⟨hdir, hlead, hother⟩ | ⟨hfile, -⟩
    · rcases h.directories names n hne hbefore with hfile | ⟨hdir, g, hg, hrest⟩
      · exact .inl hfile
      · exact .inr ⟨hdir, g, List.mem_append_left _ hg, hrest⟩
    · exact .inr ⟨hdir, f, by simp, hlead, hother⟩
    · exact .inl ⟨_, hfile⟩
  · rcases h.budget_next hp hd with heq | heq
    · exact heq ▸ h.limits_eq
    · exact heq ▸ h.limits_eq
  · rcases h.budget_next hp hd with heq | heq
    · exact heq ▸ h.running
    · exact heq ▸ h.running
  · have hle := h.fileCount_le
    rw [List.length_append, List.length_singleton]
    rcases h.budget_next hp hd with heq | heq
    · rw [heq]
      omega
    · rw [heq]
      exact Nat.add_le_add_right hle 1
  · have hle := h.totalBytes_le
    rw [List.map_append, List.sum_append]
    rcases h.budget_next hp hd with heq | heq
    · rw [heq]
      exact Nat.le_trans hle (Nat.le_add_right ..)
    · rw [heq]
      refine Nat.le_trans (Nat.min_le_left ..) ?_
      simpa using hle

end Replica

/-- An archive that lists some files, in this order. -/
def Lists (limits : Limits) (entries : Entries) (files : List NamedFile) : Prop :=
  List.Forall₂ (fun e f ↦ ∃ entry, e = some entry ∧ Delivers limits entry f) entries files

/-- Unpacking the files that are left completes the replica. -/
theorem Replica.run {root : Location} {limits : Limits} {done files : List NamedFile} {x : Extraction}
    {entries : Entries} (h : Replica root limits done x) (hp : Portable limits (done ++ files))
    (hlists : Lists limits entries files) :
    Replica root limits (done ++ files) (.run root entries x) := by
  rw [run_eq_foldl]
  induction hlists generalizing done x with
  | nil => rwa [List.append_nil]
  | @cons e f entries files hdelivers _ ih =>
    obtain ⟨entry, rfl, hd⟩ := hdelivers
    have hstep := h.step hp hd
    rw [List.append_cons] at hp ⊢
    exact ih hstep hp

end CodeSurvey
