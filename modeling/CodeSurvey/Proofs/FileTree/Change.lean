import CodeSurvey.FileTree.Change
import CodeSurvey.Proofs.FileTree.Content

/-!
# What changes do to a tree

A change is made at one place: what it does there depends on the node at this
place alone, and it does nothing anywhere else.
-/

namespace CodeSurvey

namespace Change

/-- Where a change is made. -/
def location : Change → Location
  | makeDirectory loc | create loc | append loc _ | remove loc => loc

/-- What a change makes of the node at its place. -/
def effect : Change → Option Node → Option Node
  | makeDirectory _, _ => some .directory
  | create _, _ => some (.file .empty)
  | append _ chunk, old => some (FileTree.appended chunk old)
  | remove _, _ => none

end Change

namespace FileTree

theorem get?_apply {loc : Location} (h : loc ≠ []) (t : FileTree) (c : Change) :
    (t.apply c).get? loc = if loc = c.location then c.effect (t.get? loc) else t.get? loc := by
  cases c with
  | makeDirectory place => exact get?_insert h ..
  | create place => exact get?_insert h ..
  | append place chunk =>
    simp only [apply, get?_of_ne h, SortedMap.get?_alter, Change.location, Change.effect]
    by_cases hloc : loc = place
    · subst hloc
      rfl
    · rw [if_neg hloc, if_neg hloc]
  | remove place =>
    simp only [apply, get?_of_ne h, SortedMap.get?_erase, Change.location, Change.effect]

/-- A place is as it was if all changes are made elsewhere. -/
theorem get?_applyAll_of_ne {loc : Location} {cs : List Change} (h : ∀ c ∈ cs, c.location ≠ loc)
    (t : FileTree) : (t.applyAll cs).get? loc = t.get? loc := by
  by_cases hroot : loc = []
  · subst hroot
    rfl
  · induction cs generalizing t with
    | nil => rfl
    | cons c rest ih =>
      have hne : loc ≠ c.location := (h c List.mem_cons_self).symm
      rw [applyAll, List.foldl_cons, ← applyAll, ih fun c' hc' ↦ h c' (List.mem_cons_of_mem _ hc'),
        get?_apply hroot, if_neg hne]

/-- After places have been cleared, there is nothing at any of them, and everything else is
as it was. -/
theorem get?_applyAll_remove {loc : Location} (h : loc ≠ []) (t : FileTree) (places : List Location) :
    (t.applyAll (places.map .remove)).get? loc = if loc ∈ places then none else t.get? loc := by
  induction places generalizing t with
  | nil => rfl
  | cons place rest ih =>
    rw [List.map_cons, applyAll, List.foldl_cons, ← applyAll, ih, get?_apply h]
    by_cases hrest : loc ∈ rest
    · rw [if_pos hrest, if_pos (List.mem_cons_of_mem _ hrest)]
    · by_cases hloc : loc = place
      · subst hloc
        rw [if_neg hrest, if_pos List.mem_cons_self]
        exact if_pos rfl
      · have hnot : loc ∉ place :: rest := List.not_mem_cons_of_ne_of_not_mem hloc hrest
        rw [if_neg hrest, if_neg hnot]
        exact if_neg hloc

/-! ## Making directories -/

/-- After directories have been made, there is a directory at each of their places,
and everything else is as it was. -/
theorem get?_applyAll_makeDirectory {cs : List Change}
    (h : ∀ c ∈ cs, c = .makeDirectory c.location) (t : FileTree) (loc : Location) :
    (t.applyAll cs).get? loc =
      if .makeDirectory loc ∈ cs then some .directory else t.get? loc := by
  by_cases hroot : loc = []
  · subst hroot
    split <;> rfl
  · induction cs generalizing t with
    | nil => rfl
    | cons c rest ih =>
      have hc : c = .makeDirectory c.location := h c List.mem_cons_self
      rw [applyAll, List.foldl_cons, ← applyAll, ih fun c' hc' ↦ h c' (List.mem_cons_of_mem _ hc'),
        get?_apply hroot]
      by_cases hmem : Change.makeDirectory loc ∈ rest
      · rw [if_pos hmem, if_pos (List.mem_cons_of_mem _ hmem)]
      · rw [if_neg hmem]
        by_cases hloc : loc = c.location
        · have heq : Change.makeDirectory loc = c := by rw [hloc, ← hc]
          rw [if_pos hloc, if_pos (heq ▸ List.mem_cons_self), hc]
          rfl
        · have hnot : Change.makeDirectory loc ∉ c :: rest := by
            intro hin
            rcases List.mem_cons.mp hin with heq | hin
            · exact hloc (by rw [← heq]; rfl)
            · exact hmem hin
          rw [if_neg hloc, if_neg hnot]

/-- The directories on the way down are only those that are not there yet. -/
theorem mem_missingDirectories {t : FileTree} {base : Location} {names : List String} {c : Change}
    (h : c ∈ (t.missingDirectories base names).1) :
    ∃ way, way ≠ [] ∧ way <+: names ∧ c = .makeDirectory (base ++ way) ∧
      t.get? (base ++ way) = none := by
  induction names generalizing base with
  | nil => exact nomatch h
  | cons name rest ih =>
    have below : c ∈ (t.missingDirectories (base ++ [name]) rest).1 →
        ∃ way, way ≠ [] ∧ way <+: name :: rest ∧ c = .makeDirectory (base ++ way) ∧
          t.get? (base ++ way) = none := by
      intro hc
      obtain ⟨way, _, hpre, hmake, hnone⟩ := ih hc
      refine ⟨name :: way, by simp, List.cons_prefix_cons.mpr ⟨rfl, hpre⟩, ?_, ?_⟩
      · rw [hmake, List.append_assoc, List.singleton_append]
      · rw [← hnone, List.append_assoc, List.singleton_append]
    simp only [missingDirectories] at h
    split at h
    next => exact below h
    next => exact nomatch h
    next hnone =>
      split at h
      · exact nomatch h
      · rcases List.mem_cons.mp h with rfl | h
        · exact ⟨[name], by simp, by simp, rfl, hnone⟩
        · exact below h

theorem mem_makeDirectories {t : FileTree} {base : Location} {names : List String} {c : Change}
    (h : c ∈ (t.makeDirectories base names).1) :
    ∃ way, way ≠ [] ∧ way <+: names ∧ c = .makeDirectory (base ++ way) ∧
      t.get? (base ++ way) = none := by
  unfold makeDirectories at h
  split at h
  · exact nomatch h
  · exact mem_missingDirectories h

/-- Directories can be made where nothing but directories is in the way. -/
theorem missingDirectories_ok {t : FileTree} {base : Location} {names : List String}
    (hnames : ∀ name ∈ names, name.utf8ByteSize ≤ Location.maxName)
    (hfree : ∀ way, way ≠ [] → way <+: names →
      t.get? (base ++ way) = none ∨ t.get? (base ++ way) = some .directory) :
    (t.missingDirectories base names).2 = none := by
  induction names generalizing base with
  | nil => rfl
  | cons name rest ih =>
    have hrest : (t.missingDirectories (base ++ [name]) rest).2 = none := by
      refine ih (fun n hn ↦ hnames n (List.mem_cons_of_mem _ hn)) fun way _ hlead ↦ ?_
      rw [List.append_assoc, List.singleton_append]
      exact hfree (name :: way) (by simp) (List.cons_prefix_cons.mpr ⟨rfl, hlead⟩)
    simp only [missingDirectories]
    rcases hfree [name] (by simp) (by simp) with hnone | hdir
    · rw [hnone]
      dsimp only
      rw [if_neg (Nat.not_lt.mpr (hnames name List.mem_cons_self))]
      exact hrest
    · rw [hdir]
      exact hrest

theorem makeDirectories_ok {t : FileTree} {base : Location} {names : List String}
    (hshort : Location.isTooLong (base ++ names) = false)
    (hnames : ∀ name ∈ names, name.utf8ByteSize ≤ Location.maxName)
    (hfree : ∀ way, way ≠ [] → way <+: names →
      t.get? (base ++ way) = none ∨ t.get? (base ++ way) = some .directory) :
    (t.makeDirectories base names).2 = none := by
  rw [makeDirectories, hshort, if_neg (by simp)]
  exact missingDirectories_ok hnames hfree

end FileTree

namespace Location

theorem utf8ByteSize_path_append {loc names : Location} (hloc : loc ≠ []) (hnames : names ≠ []) :
    (path (loc ++ names)).utf8ByteSize =
      (path loc).utf8ByteSize + 1 + ("/".intercalate names).utf8ByteSize := by
  have hslash : "/".utf8ByteSize = 1 := rfl
  rw [path, path, String.intercalate_append_of_ne_nil hloc hnames]
  simp only [String.utf8ByteSize_append]
  omega

theorem utf8ByteSize_path_le (loc : Location) (name : String) :
    (path loc).utf8ByteSize ≤ (path (loc ++ [name])).utf8ByteSize := by
  by_cases h : loc = []
  · subst h
    simp [path]
  · rw [utf8ByteSize_path_append h (by simp), Nat.add_assoc]
    exact Nat.le_add_right ..

/-- A directory has a shorter path than what is in it. -/
theorem isTooLong_dropLast {loc : Location} (h : isTooLong loc = false) :
    isTooLong loc.dropLast = false := by
  by_cases hne : loc = []
  · subst hne
    exact h
  · have hle := utf8ByteSize_path_le loc.dropLast (loc.getLast hne)
    rw [List.dropLast_concat_getLast] at hle
    simp only [isTooLong, decide_eq_false_iff_not] at h ⊢
    omega

end Location

end CodeSurvey
