import CodeSurvey.Command.Execution
import CodeSurvey.Proofs.FileTree.Growth
import CodeSurvey.Proofs.FileTree.Writing

/-!
# Writing a record

The record of a run is written into a directory that is made for it if need be.  If there are no
links on the way, nothing is touched but the missing directories on this way and the record
itself, whether writing succeeds or not, and writing it once more comes to the same.
-/

namespace CodeSurvey.Command

open FileTree

variable {t : FileTree} {p : Path}

/-- Where the record is written in a directory. -/
def recordPlace (p : Path) : Location := p.names ++ [recordName]

theorem recordPlace_ne_nil (p : Path) : recordPlace p ≠ [] := by simp [recordPlace]

/-- The record is not on the way to its own directory. -/
theorem ne_recordPlace {way : List String} (h : way <+: p.names) : way ≠ recordPlace p := by
  rintro rfl
  have hle := h.length_le
  simp only [recordPlace, List.length_append, List.length_singleton] at hle
  omega

/-- No name on the way to the record is that of a link. -/
abbrev NoLinks (t : FileTree) (p : Path) : Prop := t.Unlinked [] (recordPlace p)

theorem NoLinks.directory (h : NoLinks t p) : t.Unlinked [] p.names :=
  h.mono (List.prefix_append ..)

/-! ## The directory -/

theorem location_of_mem_makeDirectories {c : Change} (h : c ∈ (t.makeDirectories [] p.names).1) :
    c.location <+: p.names ∧ t.get? c.location = none := by
  obtain ⟨way, -, hway, rfl, hnone⟩ := mem_makeDirectories h
  exact ⟨hway, hnone⟩

theorem get?_applyAll_makeDirectories (t : FileTree) (p : Path) (loc : Location) :
    (t.applyAll (t.makeDirectories [] p.names).1).get? loc =
      if .makeDirectory loc ∈ (t.makeDirectories [] p.names).1 then some .directory else t.get? loc :=
  get?_applyAll_makeDirectory (fun _ hc ↦ makeDirectory_of_mem_makeDirectories hc) t loc

/-- At the place of the record nothing has changed after the directory has been made. -/
theorem get?_recordPlace_makeDirectories (t : FileTree) (p : Path) :
    (t.applyAll (t.makeDirectories [] p.names).1).get? (recordPlace p) = t.get? (recordPlace p) := by
  rw [get?_applyAll_makeDirectories, if_neg]
  exact fun hmem ↦ ne_recordPlace (location_of_mem_makeDirectories hmem).1 rfl

/-! ## The record -/

theorem get?_recordPlace_ne_link (h : NoLinks t p) (target : String) :
    (t.applyAll (t.makeDirectories [] p.names).1).get? (recordPlace p) ≠ some (.link target) := by
  rw [get?_recordPlace_makeDirectories]
  exact h (recordPlace p) (List.prefix_refl _) target

/-- All that writing a record can come to. -/
inductive RecordCourse (t : FileTree) (p : Path) (report : RunReport) :
    List Change × Except CommandError String → Prop
  /-- The directory cannot be had. -/
  | noDirectory {e : OsError} : (t.makeDirectories [] p.names).2 = some e →
      RecordCourse t p report
        ((t.makeDirectories [] p.names).1, .error (.noOutputDirectory p.written e))
  /-- The directory can be had, but the file cannot. -/
  | unwritable {e : OsError} : (t.makeDirectories [] p.names).2 = none →
      (t.applyAll (t.makeDirectories [] p.names).1).writeFile p.names recordName
        report.toJson.text.toUTF8 = .error e →
      RecordCourse t p report ((t.makeDirectories [] p.names).1,
        .error (.unwritable (Path.extend p.written recordName) e))
  | written : (t.makeDirectories [] p.names).2 = none → t.openFailure? (recordPlace p) = none →
      RecordCourse t p report
        ((t.makeDirectories [] p.names).1 ++ writing (recordPlace p) [report.toJson.text.toUTF8],
          .ok (Path.extend p.written recordName))

theorem openFailure?_recordPlace_makeDirectories (t : FileTree) (p : Path) :
    (t.applyAll (t.makeDirectories [] p.names).1).openFailure? (recordPlace p) =
      t.openFailure? (recordPlace p) := by
  rw [openFailure?, openFailure?, isDirectory, isDirectory, get?_recordPlace_makeDirectories]

theorem recordCourse_writeRecord (h : NoLinks t p) (report : RunReport) :
    RecordCourse t p report (writeRecord t report p) := by
  rw [writeRecord, ensureDirectory_eq h.directory]
  cases hmade : t.makeDirectories [] p.names with
  | mk made failure =>
    obtain rfl : (t.makeDirectories [] p.names).1 = made := by rw [hmade]
    cases failure with
    | some e => exact .noDirectory (by rw [hmade])
    | none =>
      dsimp only
      have hdone : (t.makeDirectories [] p.names).2 = none := by rw [hmade]
      cases hwrite : (t.applyAll (t.makeDirectories [] p.names).1).writeFile p.names recordName
          report.toJson.text.toUTF8 with
      | error e => exact .unwritable hdone hwrite
      | ok more =>
        obtain ⟨hopen, rfl⟩ := (writeFile_eq_ok_iff (get?_recordPlace_ne_link h)).mp hwrite
        exact .written hdone (openFailure?_recordPlace_makeDirectories t p ▸ hopen)

/-- If the directory can be made and the record can be opened, both are written. -/
theorem writeRecord_of_openFailure? (h : NoLinks t p) (hmade : (t.makeDirectories [] p.names).2 = none)
    (hopen : t.openFailure? (recordPlace p) = none) (report : RunReport) :
    writeRecord t report p =
      ((t.makeDirectories [] p.names).1 ++ writing (recordPlace p) [report.toJson.text.toUTF8],
        .ok (Path.extend p.written recordName)) := by
  have hopen' := (openFailure?_recordPlace_makeDirectories t p).trans hopen
  have hwrite : (t.applyAll (t.makeDirectories [] p.names).1).writeFile p.names recordName
      report.toJson.text.toUTF8 = .ok (writing (recordPlace p) [report.toJson.text.toUTF8]) :=
    (writeFile_eq_ok_iff (get?_recordPlace_ne_link h)).mpr ⟨hopen', rfl⟩
  have hcourse := recordCourse_writeRecord h report
  generalize writeRecord t report p = w at hcourse ⊢
  cases hcourse with
  | noDirectory hfail => exact nomatch hmade.symm.trans hfail
  | unwritable _ hfail => exact nomatch hwrite.symm.trans hfail
  | written _ _ => rfl

/-- What the tree is like after a text has been written as the record in a directory. -/
structure RecordWritten (t : FileTree) (p : Path) (text : String) (cs : List Change) : Prop where
  /-- Nothing is touched but the record and the directories that were missing. -/
  touched : ∀ loc, (∃ c ∈ cs, c.location = loc) ↔
    loc = recordPlace p ∨ loc <+: p.names ∧ t.get? loc = none
  record : (t.applyAll cs).get? (recordPlace p) = some (.file text.toUTF8)
  directory : ∀ loc, loc <+: p.names → (t.applyAll cs).get? loc = some .directory
  untouched : ∀ loc, loc ≠ recordPlace p → ¬(loc <+: p.names ∧ t.get? loc = none) →
    (t.applyAll cs).get? loc = t.get? loc

/-- What is in the tree after the directory and the record have been written. -/
theorem get?_applyAll_written (t : FileTree) (p : Path) (content : ByteArray) (loc : Location) :
    (t.applyAll ((t.makeDirectories [] p.names).1 ++ writing (recordPlace p) [content])).get? loc =
      if loc = recordPlace p then some (.file content)
      else (t.applyAll (t.makeDirectories [] p.names).1).get? loc := by
  rw [applyAll_append, get?_applyAll_writing (recordPlace_ne_nil p)]
  simp [joined]

theorem recordWritten (hmade : (t.makeDirectories [] p.names).2 = none) (text : String) :
    RecordWritten t p text
      ((t.makeDirectories [] p.names).1 ++ writing (recordPlace p) [text.toUTF8]) := by
  have hmissing := (makeDirectories_eq_none_iff.mp (Prod.ext rfl hmade)).2
  have hmem (loc : Location) : .makeDirectory loc ∈ (t.makeDirectories [] p.names).1 ↔
      loc <+: p.names ∧ t.get? loc = none := by
    constructor
    · exact location_of_mem_makeDirectories
    · rintro ⟨hway, hnone⟩
      have hne : loc ≠ [] := by
        rintro rfl
        cases hnone
      rcases directory_or_missing hmissing hne hway with hdir | ⟨-, hmem⟩
      · exact nomatch hnone.symm.trans hdir
      · exact hmem
  constructor
  case touched =>
    intro loc
    constructor
    · rintro ⟨c, hc, rfl⟩
      rcases List.mem_append.mp hc with hc | hc
      · exact .inr (location_of_mem_makeDirectories hc)
      · exact .inl (location_of_mem_writing hc)
    · rintro (rfl | hnew)
      · exact ⟨.create (recordPlace p), by simp [writing], rfl⟩
      · exact ⟨.makeDirectory loc, List.mem_append_left _ ((hmem loc).mpr hnew), rfl⟩
  case record => rw [get?_applyAll_written, if_pos rfl]
  case directory =>
    intro loc hway
    rw [get?_applyAll_written, if_neg (ne_recordPlace hway), get?_applyAll_makeDirectories]
    by_cases hne : loc = []
    · subst hne
      split <;> rfl
    · rcases directory_or_missing hmissing hne hway with hdir | ⟨-, hin⟩
      · split
        · rfl
        · exact hdir
      · exact if_pos hin
  case untouched =>
    intro loc hne hold
    rw [get?_applyAll_written, if_neg hne, get?_applyAll_makeDirectories, if_neg (mt (hmem loc).mp hold)]

/-! ## Writing it again -/

/-- Making the directory of the record adds to the tree. -/
theorem enlarged_makeDirectories (t : FileTree) (p : Path) :
    Enlarged (recordPlace p) t (t.applyAll (t.makeDirectories [] p.names).1) where
  kept loc n hget _ := by
    rw [get?_applyAll_makeDirectories]
    split
    next hmem => exact nomatch (location_of_mem_makeDirectories hmem).2.symm.trans hget
    next => exact hget
  new loc := by
    rw [get?_applyAll_makeDirectories]
    split
    next hmem => exact .inr (.inl ⟨(location_of_mem_makeDirectories hmem).2, rfl⟩)
    next => exact .inl rfl

theorem exists_file_recordPlace (h : NoLinks t p) (hopen : t.openFailure? (recordPlace p) = none)
    {n : Node} (hget : t.get? (recordPlace p) = some n) : ∃ content, n = .file content := by
  cases n with
  | file content => exact ⟨content, rfl⟩
  | directory => exact absurd hget (openFailure?_eq_none_iff.mp hopen).2.2
  | link target => exact absurd hget (h (recordPlace p) (List.prefix_refl _) target)

/-- Writing a record adds to the tree, even if it fails in the end. -/
theorem enlarged_writeRecord (h : NoLinks t p) (report : RunReport) :
    Enlarged (recordPlace p) t (t.applyAll (writeRecord t report p).1) := by
  have hmade := enlarged_makeDirectories t p
  have hcourse := recordCourse_writeRecord h report
  generalize writeRecord t report p = w at hcourse ⊢
  cases hcourse with
  | noDirectory _ => exact hmade
  | unwritable _ _ => exact hmade
  | written _ hopen =>
    constructor
    case kept =>
      intro loc n hget hkind
      have hloc : loc ≠ recordPlace p := by
        rintro rfl
        obtain ⟨content, rfl⟩ := exists_file_recordPlace h hopen hget
        exact hkind.elim nofun fun hne ↦ hne rfl
      rw [get?_applyAll_written, if_neg hloc]
      exact hmade.kept loc n hget hkind
    case new =>
      intro loc
      rw [get?_applyAll_written]
      by_cases hloc : loc = recordPlace p
      · rw [if_pos hloc]
        exact .inr (.inr ⟨hloc, _, rfl⟩)
      · rw [if_neg hloc]
        exact hmade.new loc

/-- What is not on the way to the record stays as it is, whether writing succeeds or not. -/
theorem get?_applyAll_writeRecord (h : NoLinks t p) (report : RunReport) {loc : Location}
    (hloc : ¬loc <+: recordPlace p) :
    (t.applyAll (writeRecord t report p).1).get? loc = t.get? loc := by
  have hmade : (t.applyAll (t.makeDirectories [] p.names).1).get? loc = t.get? loc := by
    rw [get?_applyAll_makeDirectories, if_neg]
    exact fun hmem ↦ hloc ((location_of_mem_makeDirectories hmem).1.trans (List.prefix_append ..))
  have hcourse := recordCourse_writeRecord h report
  generalize writeRecord t report p = w at hcourse ⊢
  cases hcourse with
  | noDirectory _ => exact hmade
  | unwritable _ _ => exact hmade
  | written _ _ =>
    rw [get?_applyAll_written, if_neg, hmade]
    rintro rfl
    exact hloc (List.prefix_refl _)

/-- In a tree that has grown there are no more links. -/
theorem NoLinks.of_enlarged {t' : FileTree} (h : NoLinks t p) (hlarger : Enlarged (recordPlace p) t t') :
    NoLinks t' p := by
  intro way hway target hlink
  rcases hlarger.new way with hsame | ⟨-, hdir⟩ | ⟨-, content, hfile⟩
  · exact h way hway target (hsame.symm.trans hlink)
  · exact nomatch hdir.symm.trans hlink
  · exact nomatch hfile.symm.trans hlink

/-- Once the directory of the record has been made it is there, and if that failed it fails again. -/
theorem makeDirectories_record_again {t' : FileTree} (hsame : ∀ way, way <+: p.names →
      t'.get? way = (t.applyAll (t.makeDirectories [] p.names).1).get? way) :
    t'.makeDirectories [] p.names = ([], (t.makeDirectories [] p.names).2) :=
  makeDirectories_again fun way _ hway ↦ hsame way hway

/-- A file that is written with the content that it has stays as it is. -/
theorem get?_applyAll_writing_self {content : ByteArray}
    (h : t.get? (recordPlace p) = some (.file content)) (loc : Location) :
    (t.applyAll (writing (recordPlace p) [content])).get? loc = t.get? loc := by
  rw [get?_applyAll_writing (recordPlace_ne_nil p)]
  by_cases hloc : loc = recordPlace p
  · rw [if_pos hloc, hloc, h]
    simp [joined]
  · rw [if_neg hloc]

/-- Writing a record for the second time comes to the same as for the first time and leaves
everything as it is. -/
theorem writeRecord_again (h : NoLinks t p) (report : RunReport) :
    let t' := t.applyAll (writeRecord t report p).1
    (writeRecord t' report p).2 = (writeRecord t report p).2 ∧
      ∀ loc, (t'.applyAll (writeRecord t' report p).1).get? loc = t'.get? loc := by
  have hlinks := h.of_enlarged (enlarged_writeRecord h report)
  have hcourse := recordCourse_writeRecord h report
  generalize writeRecord t report p = w at hcourse hlinks ⊢
  dsimp only
  cases hcourse with
  | noDirectory hfail =>
    have hagain := makeDirectories_record_again (t := t) (p := p) fun _ _ ↦ rfl
    dsimp only at hlinks ⊢
    rw [writeRecord, ensureDirectory_eq hlinks.directory, hagain, hfail]
    exact ⟨rfl, fun _ ↦ rfl⟩
  | unwritable hmade hwrite =>
    have hagain := makeDirectories_record_again (t := t) (p := p) fun _ _ ↦ rfl
    dsimp only at hlinks ⊢
    rw [writeRecord, ensureDirectory_eq hlinks.directory, hagain, hmade]
    dsimp only
    rw [applyAll_nil, hwrite]
    exact ⟨rfl, fun _ ↦ rfl⟩
  | written hmade hopen =>
    have hsame (loc : Location) := get?_applyAll_written t p report.toJson.text.toUTF8 loc
    dsimp only at hlinks ⊢
    generalize t.applyAll ((t.makeDirectories [] p.names).1 ++
      writing (recordPlace p) [report.toJson.text.toUTF8]) = t' at hlinks hsame ⊢
    have hagain := makeDirectories_record_again fun way hway ↦
      (hsame way).trans (if_neg (ne_recordPlace hway))
    have hrecord := (hsame (recordPlace p)).trans (if_pos rfl)
    have hopen' : t'.openFailure? (recordPlace p) = none := by
      obtain ⟨hshort, hname, -⟩ := openFailure?_eq_none_iff.mp hopen
      refine openFailure?_eq_none_iff.mpr ⟨hshort, hname, ?_⟩
      rw [hrecord]
      nofun
    have hmade' : (t'.makeDirectories [] p.names).2 = none := by rw [hagain, hmade]
    rw [writeRecord_of_openFailure? hlinks hmade' hopen', hagain]
    exact ⟨rfl, get?_applyAll_writing_self hrecord⟩

end CodeSurvey.Command
