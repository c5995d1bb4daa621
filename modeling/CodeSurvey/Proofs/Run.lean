import CodeSurvey.Proofs.Intake.Deep
import CodeSurvey.Proofs.Intake.Workspace
import CodeSurvey.Proofs.Survey.Sources
import CodeSurvey.Run

/-!
# Archives are surveyed like directories

A run on an honest archive finds out the same as a run on a directory with the same
files.  The order of the entries does not matter, since the workspace is walked in
the order of the names; nor does it matter which files are left out of the workspace,
since none of them would be read.  Only a source whose path in the workspace would be
longer than a path may be is lost.
-/

namespace CodeSurvey

theorem PreparedInput.ofPath_of_directory {t : FileTree} {cwd root : Location} {limits : Limits}
    {raw : String} (haccept : Input.accept t cwd limits raw = .ok (.directory root)) :
    ofPath t cwd limits raw = .ok ⟨t, root, none⟩ := by
  rw [ofPath, haccept]
  rfl

theorem PreparedInput.ofPath_of_archive {t : FileTree} {cwd loc : Location} {limits : Limits}
    {raw : String} {entries : Entries} (haccept : Input.accept t cwd limits raw = .ok (.archive loc))
    (hentries : Input.entries t [] limits (Location.path loc) = .ok entries) :
    ofPath t cwd limits raw = .ok (ofEntries t limits entries) := by
  rw [ofPath, haccept]
  show (Input.entries t [] limits (Location.path loc)).bind _ = _
  rw [hentries]
  rfl

theorem run_of_prepared [Grammars] {t : FileTree} {cwd : Location} {limits : Limits} {raw : String}
    {prepared : PreparedInput} (h : PreparedInput.ofPath t cwd limits raw = .ok prepared)
    (options : SurveyOptions) : ∃ r, run t cwd limits options raw = .ok r ∧
      r.survey = .ofSightings (options.within limits) (prepared.tree.sightings prepared.root) := by
  refine ⟨⟨raw, limits, prepared.intake, _⟩, ?_, rfl⟩
  rw [run, h]
  rfl

/-- A replica in which there is room for the sources is walked like the directory whose
files it has. -/
theorem Replica.sightings_eq {t' : FileTree} {root root' : Location} {limits : Limits}
    {files : List NamedFile} {x : Extraction} (h : Replica root limits files x)
    (hfits : ∀ f ∈ files, isSource (f.names, f.2) = true → Fits root f)
    (hholds : Holds t' root' files) : x.tree.sightings root = t'.sightings root' := by
  refine FileTree.sightings_congr ?_
  rintro ⟨names, content⟩ hsource
  rw [hholds]
  constructor
  · exact h.sound names content
  · rintro ⟨f, hf, rfl, rfl⟩
    exact h.complete f hf (Language.isWhitelisted_of_isKnown hsource) (hfits f hf hsource)

end CodeSurvey
