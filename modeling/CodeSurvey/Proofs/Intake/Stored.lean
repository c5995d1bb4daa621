import CodeSurvey.Proofs.Archive.Stored
import CodeSurvey.Proofs.FileTree.Lookup
import CodeSurvey.Proofs.Intake.Input
import CodeSurvey.Proofs.Intake.Replica
import CodeSurvey.Proofs.Intake.Workspace

/-!
# Stored files as an input

An archive that stores its files is accepted as an input if it is not too large, and it is
honest: its entries stand truthfully for the files.
-/

namespace CodeSurvey

open Archive

/-- A file with a plain name and some text in it. -/
def Archive.StoredFile.ofText (name text : String) : StoredFile :=
  ⟨name.toUTF8.data.toList, text.toUTF8.data.toList⟩

/-- The file that is put into an archive. -/
def Archive.StoredFile.named (f : StoredFile) : NamedFile := (codePageText ⟨⟨f.name⟩⟩, ⟨⟨f.content⟩⟩)

/-- A tree with an archive of some files, and nothing else. -/
def archiveOf (files : List StoredFile) : FileTree :=
  (∅ : FileTree).insert ["a.zip"] (.file ⟨⟨stored files⟩⟩)

variable {limits : Limits} {files : List StoredFile}

theorem get?_archiveOf {loc : Location} (hne : loc ≠ []) : (archiveOf files).get? loc =
    if loc = ["a.zip"] then some (.file ⟨⟨stored files⟩⟩) else none := by
  rw [archiveOf, FileTree.get?_insert hne]
  split
  · rfl
  · rw [FileTree.get?_of_ne hne]
    rfl

theorem accept_archiveOf (h : closingStart files + endRecordSize ≤ limits.maxArchiveSize.toNat) :
    Input.accept (archiveOf files) [] limits "a.zip" = .ok (.archive ["a.zip"]) := by
  have hget : (archiveOf files).get? ["a.zip"] = some (.file ⟨⟨stored files⟩⟩) := get?_archiveOf (by simp)
  have hfind := FileTree.find_name (by decide) (by decide) hget nofun
  refine Input.accept_archive_iff.mpr ⟨_, hfind, ?_⟩
  rw [size_stored, Input.archiveRefusal?, if_neg (by decide +kernel), if_neg (by simp [endRecordSize]),
    if_neg (Nat.not_lt.mpr h)]

theorem entries_archiveOf (h : Storable files) (limits : Limits) :
    Input.entries (archiveOf files) [] limits (Location.path ["a.zip"]) =
      .ok (files.map fun f ↦ some f.entry) := by
  have hget : (archiveOf files).get? ["a.zip"] = some (.file ⟨⟨stored files⟩⟩) := get?_archiveOf (by simp)
  rw [Input.entries, FileTree.find_path (by decide) (by decide) hget nofun]
  dsimp only
  rw [h.entries_eq]
  rfl

end CodeSurvey
