import CodeSurvey.Config.Source
import CodeSurvey.Proofs.FileTree.Lookup
import CodeSurvey.Proofs.Intake.Input

/-!
# Which configuration is found

At the root of a tree a configuration is looked for right below the root.  If none is found,
everything has its usual value; one that is found has to be text.
-/

namespace CodeSurvey.Config

open FileTree

variable {t : FileTree} {cwd : Location}

theorem safeName_configName {name : String} (h : name ∈ fileNames) : SafeName name := by
  revert name
  decide

theorem utf8ByteSize_configName {name : String} (h : name ∈ fileNames) :
    name.utf8ByteSize ≤ Location.maxName := by
  revert name
  decide

theorem join_configName {name : String} (h : name ∈ fileNames) :
    Path.join (Location.path []) name = Location.path [name] := by
  revert name
  decide

/-- No configuration is found at the root if none of the usual names leads anywhere. -/
theorem discover_eq_none (h : ∀ name ∈ fileNames, t.find [] (Location.path [name]) = .error .notFound) :
    discover t [] (Location.path []) = none := by
  refine List.find?_eq_none.mpr fun path hpath ↦ ?_
  obtain ⟨name, hname, rfl⟩ := List.mem_map.mp hpath
  rw [isFile, join_configName hname, h name hname]
  exact Bool.false_ne_true

theorem discover_eq_none_of_get? (h : ∀ name ∈ fileNames, t.get? [name] = none) :
    discover t [] (Location.path []) = none :=
  discover_eq_none fun name hname ↦
    find_path_of_none (safeName_configName hname) (utf8ByteSize_configName hname) (h name hname) []

/-- The first of the usual names comes first. -/
theorem discover_eq_some_of_find {loc : Location} {content : ByteArray}
    (h : t.find [] (Location.path ["archlens.yaml"]) = .ok (loc, .file content)) :
    discover t [] (Location.path []) = some (Location.path ["archlens.yaml"]) := by
  rw [discover, fileNames, List.map_cons, join_configName (by decide), List.find?_cons_of_pos]
  rw [isFile, h]

/-- Without a configuration everything has its usual value. -/
theorem load_of_discover_eq_none (h : discover t cwd (Location.path cwd) = none) :
    load t cwd none (Location.path cwd) = .ok (∅, none) := by
  rw [load, h]
  rfl

/-- A configuration is loaded from the text of a file. -/
theorem load_of_text {explicit : Option String} {directory path text : String} {config : Config}
    (hsource : (explicit <|> discover t cwd directory) = some path)
    (hread : t.read cwd path = .ok text.toUTF8) (htext : ofYaml text.toList = .ok config)
    (hvalid : config.validate = .ok ()) :
    load t cwd explicit directory = .ok (config, some path) := by
  have hutf8 : String.fromUTF8? text.toUTF8 = some text := dif_pos text.isValidUTF8
  have hload : readFile t cwd path = .ok config := by
    simp only [readFile, hread, mapError_ok, bind, Except.bind, hutf8, htext]
  rw [load, hsource]
  simp [hload, hvalid, mapError_ok, bind, Except.bind, pure, Except.pure]

/-- A configuration that is found has to be text. -/
theorem load_of_not_text {path : String} {content : ByteArray}
    (hdiscover : discover t cwd (Location.path cwd) = some path)
    (hread : t.read cwd path = .ok content) (htext : String.fromUTF8? content = none) :
    load t cwd none (Location.path cwd) = .error (.notText path) := by
  have hload : readFile t cwd path = .error (.notText path) := by
    simp [readFile, hread, mapError_ok, bind, Except.bind, htext, throw, throwThe,
      MonadExceptOf.throw]
  rw [load, hdiscover]
  simp [hload, bind, Except.bind]

end CodeSurvey.Config
