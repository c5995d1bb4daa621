import CodeSurvey.Proofs.FileTree.Lookup
import CodeSurvey.Proofs.Survey.Visiting
import CodeSurvey.Proofs.Survey.Walk
import CodeSurvey.Proofs.Text.ByteOrder
import Mathlib.Data.List.Induction

/-!
# A survey visits one file after the other

A survey reads its files side by side and puts together what it learns afterwards.  What
comes out is what one model would hold if the files had been visited in the order of
their paths, name by name and byte by byte.  Every file that the walk comes upon is
either read or skipped for one reason, and so is every directory that cannot be listed.
-/

namespace CodeSurvey

/-! ## The tally of a survey -/

namespace FileSkip

theorem ctorIdx_inj {a b : FileSkip} (h : a.ctorIdx = b.ctorIdx) : a = b := by
  rw [← ofNat_ctorIdx a, h, ofNat_ctorIdx]

instance : Std.Irrefl (α := FileSkip) (· < ·) := ⟨fun reason ↦ Nat.lt_irrefl reason.ctorIdx⟩

instance : Std.Trichotomous (α := FileSkip) (· < ·) where
  trichotomous _ _ hab hba := ctorIdx_inj (Nat.le_antisymm (Nat.le_of_not_lt hba) (Nat.le_of_not_lt hab))

end FileSkip

namespace SurveyStats

/-- What has been analyzed or skipped. -/
def accounted (s : SurveyStats) : Nat :=
  s.filesAnalyzed + s.skippedFor .oversized + s.skippedFor .unreadable + s.skippedFor .excluded

theorem skippedFor_skip (s : SurveyStats) (reason reason' : FileSkip) :
    (s.skip reason).skippedFor reason' = s.skippedFor reason' + if reason' = reason then 1 else 0 := by
  rw [skippedFor, skip, SortedMap.get?_alter]
  by_cases heq : reason' = reason
  · subst heq
    rw [if_pos rfl, if_pos rfl]
    rfl
  · rw [if_neg heq, if_neg heq]
    rfl

theorem accounted_skip (s : SurveyStats) (reason : FileSkip) :
    (s.skip reason).accounted = s.accounted + 1 := by
  have hkept : (s.skip reason).filesAnalyzed = s.filesAnalyzed := rfl
  rw [accounted, accounted, hkept, skippedFor_skip, skippedFor_skip, skippedFor_skip]
  cases reason with
  | oversized | unreadable | excluded =>
    simp only [reduceCtorEq, if_true, if_false]
    omega

end SurveyStats

/-- If it is a source that was sighted, its language is known. -/
def Sighting.IsKnown : Sighting → Prop
  | .source file => file.language.isKnown = true
  | _ => True

namespace Survey

/-- Do patterns stand in for a grammar when a file is read? -/
def fellBack [Grammars] (file : SourceFile) : Bool := (contribution? file).any Contribution.fellBack

/-- Is a file that can be read to be read? It must not be excluded, and not be too large. -/
def isWanted (options : SurveyOptions) (file : SourceFile) : Bool :=
  !isExcluded options file.path && decide (file.content.size ≤ options.maxFileSize.toNat)

theorem isWanted_iff {options : SurveyOptions} {file : SourceFile} :
    isWanted options file = true ↔
      isExcluded options file.path = false ∧ file.content.size ≤ options.maxFileSize.toNat := by
  rw [isWanted, Bool.and_eq_true, Bool.not_eq_true', decide_eq_true_iff]

/-- The file of a sighting, if it is read. -/
def read? (options : SurveyOptions) : Sighting → Option SourceFile
  | .source file => if isWanted options file then some file else none
  | _ => none

section

variable [Grammars] {options : SurveyOptions} {seen : List Sighting} {x : Sighting} {s : Survey}

/-- What is sighted is either read, and then its contribution is there, or skipped. -/
theorem outcome_cases (options : SurveyOptions) (h : x.IsKnown) :
    (∃ file contribution, read? options x = some file ∧ contribution? file = some contribution ∧
      outcome options x = .analyzed contribution) ∨
    (read? options x = none ∧ ∃ reason, outcome options x = .skipped reason) := by
  cases x with
  | unlisted | sealed path => exact .inr ⟨rfl, _, rfl⟩
  | source file =>
    by_cases hexcluded : isExcluded options file.path = true
    · refine .inr ⟨if_neg fun hwanted ↦ ?_, .excluded, if_pos hexcluded⟩
      exact Bool.noConfusion (hexcluded.symm.trans (isWanted_iff.mp hwanted).1)
    · rw [outcome, if_neg hexcluded]
      by_cases hsize : options.maxFileSize.toNat < file.content.size
      · refine .inr ⟨if_neg fun hwanted ↦ ?_, .oversized, if_pos hsize⟩
        exact Nat.not_lt.mpr (isWanted_iff.mp hwanted).2 hsize
      · have hwanted : isWanted options file = true :=
          isWanted_iff.mpr ⟨eq_false_of_ne_true hexcluded, Nat.not_lt.mp hsize⟩
        obtain ⟨record, -, hrecord, -⟩ := Language.exists_recorder h
        obtain ⟨contribution, hcontribution⟩ : ∃ contribution, contribution? file = some contribution :=
          ⟨_, congrArg (Option.map _) hrecord⟩
        refine .inl ⟨file, contribution, if_pos hwanted, hcontribution, ?_⟩
        rw [if_neg hsize, hcontribution]

/-- A survey has visited what was to be read of the things seen, in their order, and has
accounted for all of them. -/
structure Tallied (options : SurveyOptions) (seen : List Sighting) (s : Survey) : Prop where
  model_eq : s.model = (seen.filterMap (read? options)).foldl Model.visit ∅
  filesAnalyzed_eq : s.stats.filesAnalyzed = (seen.filterMap (read? options)).length
  fallbacks_eq : s.stats.fallbacks = (seen.filterMap (read? options)).countP fellBack
  accounted_eq : s.stats.accounted = seen.length

namespace Tallied

theorem nil (options : SurveyOptions) : Tallied options [] ⟨∅, ∅⟩ := ⟨rfl, rfl, rfl, rfl⟩

/-- One more thing is seen. -/
theorem record (h : Tallied options seen s) (hx : x.IsKnown) :
    Tallied options (seen ++ [x]) (s.record (outcome options x)) := by
  rcases outcome_cases options hx with
    ⟨file, contribution, hread, hcontribution, houtcome⟩ | ⟨hread, reason, houtcome⟩
  · have hfiles : (seen ++ [x]).filterMap (read? options) = seen.filterMap (read? options) ++ [file] := by
      rw [List.filterMap_append, List.filterMap_cons_some hread, List.filterMap_nil]
    rw [houtcome]
    refine ⟨?_, ?_, ?_, ?_⟩
    · rw [hfiles, List.foldl_append, ← h.model_eq]
      exact Model.merge_contribution hcontribution s.model
    · rw [hfiles, List.length_append, ← h.filesAnalyzed_eq]
      rfl
    · rw [hfiles, List.countP_append, ← h.fallbacks_eq, List.countP_singleton, fellBack, hcontribution,
        Option.any_some]
      cases hfell : contribution.fellBack <;> simp [Survey.record, hfell]
    · have hmore : (s.record (.analyzed contribution)).stats.accounted = s.stats.accounted + 1 := by
        simp only [Survey.record, SurveyStats.accounted, SurveyStats.skippedFor]
        omega
      rw [hmore, h.accounted_eq, List.length_append]
      rfl
  · have hfiles : (seen ++ [x]).filterMap (read? options) = seen.filterMap (read? options) := by
      rw [List.filterMap_append, List.filterMap_cons_none hread, List.filterMap_nil, List.append_nil]
    rw [houtcome]
    refine ⟨?_, ?_, ?_, ?_⟩
    · rw [hfiles]
      exact h.model_eq
    · rw [hfiles]
      exact h.filesAnalyzed_eq
    · rw [hfiles]
      exact h.fallbacks_eq
    · have hmore : (s.record (.skipped reason)).stats.accounted = s.stats.accounted + 1 :=
        SurveyStats.accounted_skip s.stats reason
      rw [hmore, h.accounted_eq, List.length_append]
      rfl

end Tallied

/-- One more sighting is one more outcome to record. -/
theorem ofSightings_concat (options : SurveyOptions) (seen : List Sighting) (x : Sighting) :
    ofSightings options (seen ++ [x]) = (ofSightings options seen).record (outcome options x) := by
  rw [ofSightings, List.map_append, List.foldl_append]
  rfl

/-- A survey of any sightings has the right tally. -/
theorem tallied_ofSightings (options : SurveyOptions) (h : ∀ x ∈ seen, x.IsKnown) :
    Tallied options seen (ofSightings options seen) := by
  induction seen using List.reverseRecOn with
  | nil => exact .nil options
  | append_singleton seen x ih =>
    rw [ofSightings_concat]
    exact (ih fun y hy ↦ h y (List.mem_append_left _ hy)).record (h x (by simp))

end

end Survey

/-! ## The files that are visited -/

namespace FileTree

/-- A file below the root of a walk, as a survey reads it. -/
def sourceAt (f : Location × ByteArray) : SourceFile := ⟨relativePath f.1, languageOf f.1, f.2⟩

@[simp] theorem language_sourceAt (f : Location × ByteArray) :
    (sourceAt f).language = languageOf f.1 := by
  rw [sourceAt]

variable {t : FileTree} {root : Location} {locked : Location → Bool} {options : SurveyOptions}

/-- The files that a survey visits: they can be read, are not excluded and not too large. -/
def visited (t : FileTree) (root : Location) (locked : Location → Bool) (options : SurveyOptions) :
    List (Location × ByteArray) :=
  (t.found root locked).filter fun f ↦ !locked (root ++ f.1) && Survey.isWanted options (sourceAt f)

theorem mem_visited {f : Location × ByteArray} :
    f ∈ t.visited root locked options ↔ f ∈ t.found root locked ∧ locked (root ++ f.1) = false ∧
      Survey.isExcluded options (relativePath f.1) = false ∧ f.2.size ≤ options.maxFileSize.toNat := by
  rw [visited, List.mem_filter, Bool.and_eq_true, Bool.not_eq_true', Survey.isWanted_iff]
  rfl

theorem sorted_visited (t : FileTree) (root : Location) (locked : Location → Bool)
    (options : SurveyOptions) : (t.visited root locked options).Pairwise fun f g ↦ f.1 < g.1 :=
  (t.sorted_found root locked).filter _

theorem sighting?_file (names : Location) (isLocked : Bool) (content : ByteArray) :
    sighting? names (languageOf names) isLocked (.file content) =
      if (languageOf names).isKnown then
        some (if isLocked then .sealed (relativePath names) else .source (sourceAt (names, content)))
      else none := by
  rw [sighting?, sourceFile?]
  · cases (languageOf names).isKnown <;> rfl
  · intro hdirectory
    cases hdirectory

theorem isKnown_of_sighting? {names : Location} {l : Language} {isLocked : Bool} {n : Node} {x : Sighting}
    (h : sighting? names l isLocked n = some x) : x.IsKnown := by
  cases n with
  | link target => simp [sighting?, sourceFile?] at h
  | directory =>
    cases isLocked with
    | true => exact Option.some.inj h ▸ trivial
    | false => simp [sighting?] at h
  | file content =>
    obtain ⟨file, hsource, rfl⟩ := Option.map_eq_some_iff.mp h
    cases isLocked with
    | true => trivial
    | false =>
      rw [sourceFile?] at hsource
      split at hsource
      next hknown => exact Option.some.inj hsource ▸ hknown
      next => cases hsource

theorem isKnown_of_mem_sightings {x : Sighting} (h : x ∈ t.sightings root locked) : x.IsKnown := by
  obtain ⟨⟨names, n⟩, -, hsome⟩ := List.mem_filterMap.mp h
  dsimp only at hsome
  split at hsome
  next => exact nomatch hsome
  next => exact isKnown_of_sighting? hsome

/-- What is read of the things that a walk reports are the files to visit, in their order. -/
theorem filterMap_read?_sightings (t : FileTree) (root : Location) (locked : Location → Bool)
    (options : SurveyOptions) :
    (t.sightings root locked).filterMap (Survey.read? options) =
      (t.visited root locked options).map sourceAt := by
  rw [visited, found_eq_filterMap, ← List.filterMap_eq_map, List.filter_filterMap, List.filterMap_filterMap,
    sightings, List.filterMap_filterMap]
  refine List.filterMap_congr ?_
  rintro ⟨names, n⟩ -
  dsimp only
  cases isHidden locked root names with
  | true => rfl
  | false =>
    cases n with
    | link target => rfl
    | directory => cases locked (root ++ names) <;> rfl
    | file content =>
      have hsource : isSource (names, content) = (languageOf names).isKnown := rfl
      rw [if_neg Bool.false_ne_true, if_neg Bool.false_ne_true]
      change (sighting? names (languageOf names) (locked (root ++ names)) (.file content)).bind
        (Survey.read? options) = _
      rw [sighting?_file, Node.content?, Option.map_some, Option.filter_some, hsource]
      cases (languageOf names).isKnown with
      | false => rfl
      | true =>
        rw [if_pos rfl, if_pos rfl, Option.filter_some, Option.bind_some]
        cases locked (root ++ names) with
        | true => rfl
        | false =>
          rw [if_neg Bool.false_ne_true, Survey.read?]
          cases Survey.isWanted options (sourceAt (names, content)) <;> rfl

theorem isKnown_of_mem_visited {file : SourceFile}
    (h : file ∈ (t.visited root locked options).map sourceAt) : file.language.isKnown = true := by
  obtain ⟨⟨names, content⟩, hmem, rfl⟩ := List.mem_map.mp h
  rw [language_sourceAt]
  exact (mem_found.mp (mem_visited.mp hmem).1).2.2.1

theorem tallied_survey [Grammars] {cwd : Location} {raw : String}
    (h : t.find cwd raw = .ok (root, .directory)) (locked : Location → Bool) (options : SurveyOptions) :
    Survey.Tallied options (t.sightings root locked) (t.survey cwd options raw locked) := by
  rw [survey, walk_of_find h]
  exact Survey.tallied_ofSightings options fun x hx ↦ isKnown_of_mem_sightings hx

end FileTree

/-! ## Surveys of directories -/

open FileTree

/-- The directory `root` was surveyed as if its files had been visited one after the
other.  The walk has found the files in `found` and was refused the directories in
`errors`; the files in `visited` were read. -/
structure Sequential [Grammars] (t : FileTree) (root : Location) (locked : Location → Bool)
    (options : SurveyOptions) (found visited : List (Location × ByteArray)) (errors : List Location)
    (s : Survey) : Prop where
  /-- A regular file is found if it can be reached and its name tells its language. -/
  mem_found : ∀ names content, (names, content) ∈ found ↔
    t.get? (root ++ names) = some (.file content) ∧ (languageOf names).isKnown = true ∧
      Reached locked root names
  nodup_found : found.Nodup
  /-- A directory that can be reached but not listed is an error of the walk. -/
  mem_errors : ∀ names, names ∈ errors ↔
    t.get? (root ++ names) = some .directory ∧ locked (root ++ names) = true ∧
      Reached locked root names
  nodup_errors : errors.Nodup
  mem_visited : ∀ names content, (names, content) ∈ visited ↔
    (names, content) ∈ found ∧ locked (root ++ names) = false ∧
      Survey.isExcluded options (relativePath names) = false ∧
      content.size ≤ options.maxFileSize.toNat
  /-- Files are visited in the order of their names, byte by byte, and so each of them once. -/
  sorted_visited : visited.Pairwise fun f g ↦ f.1.map nameBytes < g.1.map nameBytes
  model_eq : s.model = (visited.map sourceAt).foldl Model.visit ∅
  filesAnalyzed_eq : s.stats.filesAnalyzed = visited.length
  /-- The model counts files in machine words, which no walk that fits into a memory comes near. -/
  totalFiles_eq : s.model.totalFiles = s.stats.filesAnalyzed % 2 ^ 64
  fileCount_eq : ∀ l, s.model.fileCount l = (visited.countP fun f ↦ languageOf f.1 = l) % 2 ^ 64
  fallbacks_eq : s.stats.fallbacks = visited.countP fun f ↦ Survey.fellBack (sourceAt f)
  /-- Whatever is found or cannot be listed is analyzed, or skipped for one reason. -/
  accounted_eq : s.stats.filesAnalyzed + s.stats.skippedFor .oversized +
    s.stats.skippedFor .unreadable + s.stats.skippedFor .excluded = found.length + errors.length

/-- Every survey of a directory visits its files one after the other, whatever the
operating system refuses to open. -/
theorem sequential_survey [Grammars] {t : FileTree} {cwd root : Location} {raw : String}
    (h : t.find cwd raw = .ok (root, .directory)) (locked : Location → Bool) (options : SurveyOptions) :
    Sequential t root locked options (t.found root locked) (t.visited root locked options)
      (t.unlistable root locked) (t.survey cwd options raw locked) := by
  have hroot : t.get? root = some .directory := (locate_get?_of_find h).2
  have htally := tallied_survey h locked options
  have hread := filterMap_read?_sightings t root locked options
  have hmodel := htally.model_eq
  have hcount := htally.filesAnalyzed_eq
  rw [hread] at hmodel hcount
  rw [List.length_map] at hcount
  have hknown : ∀ file ∈ (t.visited root locked options).map sourceAt, file.language.isKnown = true :=
    fun _ ↦ isKnown_of_mem_visited
  constructor
  case mem_found =>
    intro names content
    rw [mem_found]
    refine and_iff_right_of_imp ?_
    rintro ⟨hget, -⟩ rfl
    rw [List.append_nil, hroot] at hget
    exact nomatch hget
  case nodup_found =>
    refine (t.sorted_found root locked).imp fun {f g} hlt heq ↦ ?_
    exact List.lt_irrefl g.1 (heq ▸ hlt)
  case mem_errors =>
    intro names
    exact mem_unlistable hroot
  case nodup_errors => exact t.nodup_unlistable root locked
  case mem_visited =>
    intro names content
    exact mem_visited
  case sorted_visited =>
    exact (t.sorted_visited root locked options).imp map_nameBytes_lt_iff.mpr
  case model_eq => exact hmodel
  case filesAnalyzed_eq => exact hcount
  case totalFiles_eq =>
    rw [hmodel, Model.totalFiles_foldl_visit hknown, List.length_map, hcount]
  case fileCount_eq =>
    intro l
    rw [hmodel, Model.fileCount_foldl_visit hknown, List.countP_map]
    simp only [Function.comp_def, language_sourceAt]
  case fallbacks_eq =>
    rw [htally.fallbacks_eq, hread, List.countP_map]
    rfl
  case accounted_eq => exact htally.accounted_eq.trans (t.length_sightings root locked)

/-- A directory with a package, a module and a file too large, of which the operating
system refuses to open a file and a directory. -/
def guardedTree : FileTree :=
  ⟨⟨[(["p"], .directory), (["p", "a"], .directory), (["p", "a", "b.py"], .file "import os".toUTF8),
    (["p", "a.py"], .file "".toUTF8), (["p", "big.c"], .file "int main(void) {}".toUTF8),
    (["p", "note.txt"], .file "".toUTF8), (["p", "old.py"], .file "".toUTF8),
    (["p", "s.py"], .file "".toUTF8), (["p", "z"], .directory), (["p", "z", "c.py"], .file "".toUTF8)],
    by decide +kernel⟩⟩

/-- What may not be opened in it. -/
def guardedPlaces : Location → Bool := fun loc ↦ loc = ["p", "s.py"] || loc = ["p", "z"]

/-- Of seven files two are visited, the one in the directory before the one beside it. -/
theorem sequential_survey_guardedTree :
    let options : SurveyOptions := ⟨9, 1, [⟨"old.py".toList.map .literal⟩]⟩
    guardedTree.find [] "p" = .ok (["p"], .directory) ∧
      Sequential guardedTree ["p"] guardedPlaces options
        (guardedTree.found ["p"] guardedPlaces) (guardedTree.visited ["p"] guardedPlaces options)
        (guardedTree.unlistable ["p"] guardedPlaces) (guardedTree.survey [] options "p" guardedPlaces) ∧
      (guardedTree.found ["p"] guardedPlaces).map Prod.fst =
        [["a", "b.py"], ["a.py"], ["big.c"], ["old.py"], ["s.py"]] ∧
      (guardedTree.visited ["p"] guardedPlaces options).map Prod.fst = [["a", "b.py"], ["a.py"]] ∧
      guardedTree.unlistable ["p"] guardedPlaces = [["z"]] := by
  intro options
  have hname : SafeName "p" := ⟨by simp, by simp, by simp, by simp, by simp⟩
  have hfind : guardedTree.find [] "p" = .ok (["p"], .directory) :=
    find_name hname (by decide) (by decide +kernel) nofun
  refine ⟨hfind, sequential_survey hfind guardedPlaces options, ?_, ?_, ?_⟩
  · decide +kernel
  · decide +kernel
  · decide +kernel

end CodeSurvey
