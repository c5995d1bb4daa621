import CodeSurvey.FileTree.Basic
import CodeSurvey.Proofs.SortedMap

/-!
# What file trees hold

A tree is read through `get?`, place by place.  What is below a directory is a
list in the order of the names that lead there, so two directories with the same
files list them in the same way, whatever else the two trees hold and however
they came about.
-/

namespace CodeSurvey

namespace Node

/-- The content that a node has as a file. -/
def content? : Node → Option ByteArray
  | file content => some content
  | _ => none

theorem content?_eq_some {n : Node} {content : ByteArray} :
    n.content? = some content ↔ n = file content := by
  cases n <;> simp [content?]

end Node

namespace FileTree

@[simp] theorem get?_root (t : FileTree) : t.get? [] = some .directory := rfl

theorem get?_of_ne {loc : Location} (h : loc ≠ []) (t : FileTree) : t.get? loc = t.nodes.get? loc :=
  if_neg h

theorem get?_insert {loc : Location} (h : loc ≠ []) (t : FileTree) (place : Location) (n : Node) :
    (t.insert place n).get? loc = if loc = place then some n else t.get? loc := by
  rw [get?_of_ne h, get?_of_ne h]
  exact SortedMap.get?_insert ..

/-! ## What is below a directory -/

theorem isPrefixOf?_eq_some_iff {loc place names : Location} :
    loc.isPrefixOf? place = some names ↔ place = loc ++ names := by
  induction loc generalizing place with
  | nil => exact Option.some_inj
  | cons name rest ih =>
    cases place with
    | nil =>
      constructor
      · intro h
        cases h
      · intro h
        cases h
    | cons name' rest' =>
      have hstep : (name :: rest).isPrefixOf? (name' :: rest') =
          if name == name' then rest.isPrefixOf? rest' else none := rfl
      rw [hstep]
      by_cases h : name = name'
      · simp [h, ih]
      · simp [h, Ne.symm h]

theorem mem_below {t : FileTree} {root names : Location} {n : Node} :
    (names, n) ∈ t.below root ↔ names ≠ [] ∧ t.get? (root ++ names) = some n := by
  unfold below
  rw [List.mem_filterMap]
  constructor
  · rintro ⟨⟨place, n'⟩, hmem, hsome⟩
    dsimp only at hsome
    split at hsome
    next name rest hlead =>
      obtain ⟨rfl, rfl⟩ : name :: rest = names ∧ n' = n := by simpa using hsome
      rw [isPrefixOf?_eq_some_iff] at hlead
      subst hlead
      refine ⟨by simp, ?_⟩
      rw [get?_of_ne (by simp)]
      exact SortedMap.mem_entries.mp hmem
    next => exact nomatch hsome
  · rintro ⟨hne, hget⟩
    rw [get?_of_ne (by simp [hne])] at hget
    refine ⟨(root ++ names, n), SortedMap.mem_entries.mpr hget, ?_⟩
    obtain ⟨name, rest, rfl⟩ := List.exists_cons_of_ne_nil hne
    have hlead := isPrefixOf?_eq_some_iff.mpr (rfl : root ++ (name :: rest) = root ++ (name :: rest))
    simp only [hlead]

theorem lt_of_append_lt_append {root a b : Location} (h : root ++ a < root ++ b) : a < b := by
  induction root with
  | nil => exact h
  | cons name rest ih => exact ih (List.cons_lt_cons_self.mp h)

/-- What is below a directory is listed in the order of the names. -/
theorem sorted_below (t : FileTree) (root : Location) :
    (t.below root).Pairwise fun a b ↦ a.1 < b.1 := by
  refine List.Pairwise.filterMap _ ?_ t.nodes.sorted
  rintro ⟨place, n⟩ ⟨place', n'⟩ hlt b hb b' hb'
  dsimp only at hb hb'
  split at hb
  next hlead =>
    split at hb'
    next hlead' =>
      cases hb
      cases hb'
      rw [isPrefixOf?_eq_some_iff] at hlead hlead'
      subst hlead hlead'
      exact lt_of_append_lt_append hlt
    next => exact nomatch hb'
  next => exact nomatch hb

/-- A directory in which there is nothing. -/
structure IsEmptyDirectory (t : FileTree) (root : Location) : Prop where
  isDirectory : t.isDirectory root = true
  below_eq_nil : t.below root = []

theorem IsEmptyDirectory.get?_eq_none {t : FileTree} {root names : Location}
    (h : t.IsEmptyDirectory root) (hne : names ≠ []) : t.get? (root ++ names) = none := by
  cases hget : t.get? (root ++ names) with
  | none => rfl
  | some n =>
    have hmem : (names, n) ∈ t.below root := mem_below.mpr ⟨hne, hget⟩
    rw [h.below_eq_nil] at hmem
    exact nomatch hmem

/-- The regular files below a directory, in the order of the names. -/
def files (t : FileTree) (root : Location) : List (Location × ByteArray) :=
  (t.below root).filterMap fun (names, n) ↦ n.content?.map fun content ↦ (names, content)

theorem mem_files {t : FileTree} {root names : Location} {content : ByteArray} :
    (names, content) ∈ t.files root ↔
      names ≠ [] ∧ t.get? (root ++ names) = some (.file content) := by
  rw [files, List.mem_filterMap]
  constructor
  · rintro ⟨⟨names', n⟩, hmem, hsome⟩
    obtain ⟨content', hn, heq⟩ := Option.map_eq_some_iff.mp hsome
    obtain ⟨rfl, rfl⟩ := Prod.mk.injEq .. ▸ heq
    rw [Node.content?_eq_some] at hn
    exact hn ▸ mem_below.mp hmem
  · intro h
    exact ⟨(names, .file content), mem_below.mpr h, rfl⟩

theorem sorted_files (t : FileTree) (root : Location) :
    (t.files root).Pairwise fun a b ↦ a.1 < b.1 := by
  refine List.Pairwise.filterMap _ ?_ (t.sorted_below root)
  rintro ⟨names, n⟩ ⟨names', n'⟩ hlt b hb b' hb'
  obtain ⟨_, _, rfl⟩ := Option.map_eq_some_iff.mp hb
  obtain ⟨_, _, rfl⟩ := Option.map_eq_some_iff.mp hb'
  exact hlt

theorem IsEmptyDirectory.files_eq_nil {t : FileTree} {root : Location} (h : t.IsEmptyDirectory root) :
    t.files root = [] := by
  rw [files, h.below_eq_nil]
  rfl

theorem nodup_files (t : FileTree) (root : Location) : (t.files root).Nodup := by
  refine (t.sorted_files root).imp fun {a b} hlt heq ↦ ?_
  rw [heq] at hlt
  exact List.lt_irrefl b.1 hlt

end FileTree

end CodeSurvey
