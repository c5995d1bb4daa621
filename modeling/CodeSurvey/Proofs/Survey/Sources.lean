import CodeSurvey.Intake.Whitelist
import CodeSurvey.Proofs.FileTree.Content
import CodeSurvey.Survey.Walk
import Mathlib.Data.List.Sort

/-!
# The sources below a directory

A walk sees nothing but the regular files whose names are those of sources, in the
order of their names.  So two directories are walked in the same way as soon as they
have the same source files, wherever they are and however their files got there.
Whatever has the name of a source may be unpacked from an archive.
-/

namespace CodeSurvey

namespace Language

/-! ## Names of sources may be unpacked -/

theorem mem_of_lookup_eq_some {table : List (String × Language)} {key : String} {l : Language}
    (h : table.lookup key = some l) : (key, l) ∈ table := by
  obtain ⟨before, after, rfl, -⟩ := List.lookup_eq_some_iff.mp h
  simp

/-- Manifests are allowed by their names or by their extensions. -/
theorem isWhitelisted_of_mem_manifestNames :
    ∀ p ∈ manifestNames, (allowedNames.contains p.1 ||
      match Text.splitLast? '.' p.1.toList with
      | some (_, extension) => allowedExtensions.contains (String.ofList extension)
      | none => false) = true := by
  decide

theorem allowed_of_mem_extensions : ∀ p ∈ extensions, p.1 ∈ allowedExtensions := by
  decide

/-- A file in a known language has a name that is worth unpacking. -/
theorem isWhitelisted_of_isKnown {name : String} (h : (ofFileName name).isKnown = true) :
    isWhitelisted name = true := by
  unfold ofFileName at h
  unfold isWhitelisted
  dsimp only at h ⊢
  cases hmanifest : manifestNames.lookup (String.ofList (Text.lower name.toList)) with
  | some l =>
    have hallowed := isWhitelisted_of_mem_manifestNames _ (mem_of_lookup_eq_some hmanifest)
    rwa [String.toList_ofList] at hallowed
  | none =>
    rw [hmanifest] at h
    dsimp only at h
    cases hext : extension? (Text.lower name.toList) with
    | none =>
      rw [hext] at h
      exact absurd h (by decide)
    | some ext =>
      obtain ⟨stem, hsplit⟩ :
          ∃ stem, Text.splitLast? '.' (Text.lower name.toList) = some (stem, ext) := by
        unfold extension? at hext
        split at hext
        next c cs ext' hsplit => exact ⟨c :: cs, Option.some.inj hext ▸ hsplit⟩
        next => exact nomatch hext
      rw [hext] at h
      dsimp only at h
      cases hlookup : extensions.lookup (String.ofList ext) with
      | none =>
        rw [hlookup] at h
        exact absurd h (by decide)
      | some l =>
        have hallowed := allowed_of_mem_extensions _ (mem_of_lookup_eq_some hlookup)
        rw [hsplit]
        simp only [List.contains_iff_mem.mpr hallowed, Bool.or_true]

end Language

/-! ## What a walk reports -/

/-- Does a file have the name of a source? -/
def isSource (f : Location × ByteArray) : Bool := (Language.ofFileName (f.1.getLast?.getD "")).isKnown

/-- A file as a walk reports it, if it has the name of a source. -/
def sourceOf? (f : Location × ByteArray) : Option SourceFile :=
  FileTree.sourceFile? f.1 (Language.ofFileName (f.1.getLast?.getD "")) (.file f.2)

namespace FileTree

theorem isHidden_of_unlocked (base : Location) (names : List String) :
    isHidden (fun _ ↦ false) base names = false := by
  induction names generalizing base with
  | nil => rfl
  | cons name rest ih => rw [isHidden, ih, Bool.or_false]

/-- Where nothing is locked, the source files are all that a walk reports. -/
theorem sightings_eq_map (t : FileTree) (root : Location) :
    t.sightings root = ((t.files root).filterMap sourceOf?).map .source := by
  rw [sightings, List.filterMap_cons_none rfl, files, List.filterMap_filterMap, List.map_filterMap]
  refine List.filterMap_congr ?_
  rintro ⟨names, n⟩ -
  dsimp only
  rw [isHidden_of_unlocked, if_neg Bool.false_ne_true]
  cases n with
  | directory | link target => rfl
  | file content =>
    rw [Node.content?, Option.map_some, Option.bind_some, sourceOf?]
    rfl

theorem filterMap_sourceOf? (fs : List (Location × ByteArray)) :
    (fs.filter isSource).filterMap sourceOf? = fs.filterMap sourceOf? := by
  rw [List.filterMap_filter]
  refine List.filterMap_congr fun f _ ↦ ?_
  by_cases h : isSource f = true
  · rw [if_pos h]
  · rw [if_neg h, sourceOf?, sourceFile?]
    exact (if_neg h).symm

/-- Directories with the same source files list them in the same order. -/
theorem filter_isSource_congr {t t' : FileTree} {root root' : Location}
    (h : ∀ f, isSource f = true → (f ∈ t.files root ↔ f ∈ t'.files root')) :
    (t.files root).filter isSource = (t'.files root').filter isSource := by
  have : Std.Irrefl fun f g : Location × ByteArray ↦ f.1 < g.1 := ⟨fun f ↦ List.lt_irrefl f.1⟩
  refine ((t.sorted_files root).filter _).eq_of_mem_iff ((t'.sorted_files root').filter _) fun f ↦ ?_
  rw [List.mem_filter, List.mem_filter]
  exact and_congr_left (h f)

/-- Directories with the same source files are walked in the same way. -/
theorem sightings_congr {t t' : FileTree} {root root' : Location}
    (h : ∀ f, isSource f = true → (f ∈ t.files root ↔ f ∈ t'.files root')) :
    t.sightings root = t'.sightings root' := by
  rw [sightings_eq_map, sightings_eq_map, ← filterMap_sourceOf?, filter_isSource_congr h,
    filterMap_sourceOf?]

end FileTree

end CodeSurvey
