import CodeSurvey.Proofs.Survey.Sources

/-!
# What a walk comes upon

A walk reports the source files that it can reach and the directories that it reaches
but cannot list, and nothing else.  Each file is reported once, whether it can be read
or not.
-/

namespace CodeSurvey.FileTree

/-! ## The root of a walk -/

/-- Steps that lead somewhere if a link at the end is followed lead to the same place or
to that link if it is not. -/
theorem follow_false_of_follow_true {t : FileTree} {links : Nat} {here : Location}
    {names : List String} {loc : Location} (h : t.follow true links here names = .ok loc) :
    t.follow false links here names = .ok loc ∨
      ∃ place target, t.follow false links here names = .ok place ∧ t.get? place = some (.link target) := by
  fun_induction follow t true links here names with
  | case1 links here =>
    left
    rw [follow]
    exact h
  | case2 | case5 | case6 | case8 => exact nomatch h
  | case3 links here rest hdir ih =>
    have hstep : t.follow false links here ("." :: rest) = t.follow false links here rest := by
      rw [follow, if_neg hdir, if_pos rfl]
    rw [hstep]
    exact ih h
  | case4 links here rest hdir hdot ih =>
    have hstep : t.follow false links here (".." :: rest) =
        t.follow false links here.dropLast rest := by
      rw [follow, if_neg hdir, if_neg hdot, if_pos rfl]
    rw [hstep]
    exact ih h
  | case7 _ _ _ _ _ _ _ _ _ _ hlast => simp at hlast
  | case9 here name rest hdir hdot hdots hshort target hget _ links ih =>
    by_cases hlast : rest = []
    · subst hlast
      refine .inr ⟨here ++ [name], target, ?_, hget⟩
      rw [follow, if_neg hdir, if_neg hdot, if_neg hdots, if_neg hshort, hget]
      rfl
    · have hstep : t.follow false (links + 1) here (name :: rest) =
          t.follow false links (if Path.isAbsolute target then [] else here) (steps target ++ rest) := by
        rw [follow, if_neg hdir, if_neg hdot, if_neg hdots, if_neg hshort, hget]
        simp [hlast]
      rw [hstep]
      exact ih h
  | case10 links here name rest hdir hdot hdots hshort n hlink hget ih =>
    have hstep : t.follow false links here (name :: rest) =
        t.follow false links (here ++ [name]) rest := by
      rw [follow, if_neg hdir, if_neg hdot, if_neg hdots, if_neg hshort, hget]
      cases n with
      | link target => exact absurd rfl (hlink target)
      | _ => rfl
    rw [hstep]
    exact ih h

theorem locate_false_of_locate_true {t : FileTree} {cwd loc : Location} {raw : String}
    (h : t.locate cwd raw true = .ok loc) :
    t.locate cwd raw false = .ok loc ∨
      ∃ place target, t.locate cwd raw false = .ok place ∧ t.get? place = some (.link target) := by
  unfold locate at h ⊢
  split at h
  · exact nomatch h
  · split at h
    · exact nomatch h
    · split at h
      · exact nomatch h
      · next hnul hempty hsize =>
        rw [if_neg hnul, if_neg hempty, if_neg hsize]
        exact follow_false_of_follow_true h

theorem locate_get?_of_find {t : FileTree} {cwd loc : Location} {raw : String} {n : Node}
    (h : t.find cwd raw = .ok (loc, n)) : t.locate cwd raw true = .ok loc ∧ t.get? loc = some n := by
  unfold find at h
  split at h
  next => exact nomatch h
  next place hplace =>
    split at h
    next n' hget =>
      obtain ⟨rfl, rfl⟩ := Prod.mk.inj (Except.ok.inj h)
      exact ⟨hplace, hget⟩
    next => exact nomatch h

/-- A path that leads to a directory, perhaps by a link, is walked from there. -/
theorem walk_of_find {t : FileTree} {cwd root : Location} {raw : String}
    (h : t.find cwd raw = .ok (root, .directory)) (locked : Location → Bool) :
    t.walk cwd raw locked = t.sightings root locked := by
  obtain ⟨hlocate, hget⟩ := locate_get?_of_find h
  unfold walk
  rcases locate_false_of_locate_true hlocate with hplace | ⟨place, target, hplace, hlink⟩
  · rw [hplace]
    dsimp only
    rw [hget]
  · rw [hplace]
    dsimp only
    rw [hlink]
    dsimp only
    rw [h]

/-! ## What is reached -/

variable {t : FileTree} {root : Location} {locked : Location → Bool}

/-- No directory that is gone through on the way down is locked. -/
def Reached (locked : Location → Bool) (base : Location) (names : List String) : Prop :=
  ∀ way, way <+: names → way ≠ names → locked (base ++ way) = false

theorem isHidden_eq_false_iff {base : Location} {names : List String} :
    isHidden locked base names = false ↔ Reached locked base names := by
  induction names generalizing base with
  | nil =>
    refine ⟨fun _ way hpre hne ↦ ?_, fun _ ↦ rfl⟩
    exact absurd (List.prefix_nil.mp hpre) hne
  | cons name rest ih =>
    rw [isHidden, Bool.or_eq_false_iff, ih]
    constructor
    · rintro ⟨hbase, hrest⟩ way hpre hne
      cases way with
      | nil =>
        rw [List.append_nil]
        exact hbase
      | cons name' way =>
        obtain ⟨rfl, hlead⟩ := List.cons_prefix_cons.mp hpre
        have hbelow := hrest way hlead fun heq ↦ hne (heq ▸ rfl)
        rwa [List.append_assoc, List.singleton_append] at hbelow
    · intro h
      constructor
      · rw [← List.append_nil base]
        exact h [] List.nil_prefix (List.cons_ne_nil name rest).symm
      · intro way hpre hne
        rw [List.append_assoc, List.singleton_append]
        exact h (name :: way) (List.cons_prefix_cons.mpr ⟨rfl, hpre⟩) fun heq ↦
          hne (List.cons.inj heq).2

/-- The language that names tell, by the last of them. -/
def languageOf (names : Location) : Language := Language.ofFileName (names.getLast?.getD "")

/-- The source files that a walk comes upon, in the order of the walk. -/
def found (t : FileTree) (root : Location) (locked : Location → Bool) : List (Location × ByteArray) :=
  (t.files root).filter fun f ↦ isSource f && !isHidden locked root f.1

theorem mem_found {names : Location} {content : ByteArray} :
    (names, content) ∈ t.found root locked ↔
      names ≠ [] ∧ t.get? (root ++ names) = some (.file content) ∧
        (languageOf names).isKnown = true ∧ Reached locked root names := by
  rw [found, List.mem_filter, mem_files, Bool.and_eq_true, Bool.not_eq_true', isHidden_eq_false_iff,
    and_assoc]
  rfl

theorem sorted_found (t : FileTree) (root : Location) (locked : Location → Bool) :
    (t.found root locked).Pairwise fun f g ↦ f.1 < g.1 :=
  (t.sorted_files root).filter _

/-- Everything that a walk may come upon, the root first, in the order of the walk. -/
def walked (t : FileTree) (root : Location) : List (Location × Node) := ([], .directory) :: t.below root

theorem sorted_walked (t : FileTree) (root : Location) :
    (t.walked root).Pairwise fun a b ↦ a.1 < b.1 := by
  refine List.pairwise_cons.mpr ⟨fun ⟨names, n⟩ hmem ↦ ?_, t.sorted_below root⟩
  obtain ⟨name, rest, rfl⟩ := List.exists_cons_of_ne_nil (mem_below.mp hmem).1
  exact List.nil_lt_cons name rest

theorem mem_walked (hroot : t.get? root = some .directory) {names : Location} {n : Node} :
    (names, n) ∈ t.walked root ↔ t.get? (root ++ names) = some n := by
  rw [walked, List.mem_cons, mem_below, Prod.mk.injEq]
  by_cases hne : names = []
  · subst hne
    simp [hroot, eq_comm]
  · simp [hne]

/-- The directories that a walk reaches but cannot list, by the names that lead there. -/
def unlistable (t : FileTree) (root : Location) (locked : Location → Bool) : List Location :=
  (t.walked root).filterMap fun (names, n) ↦
    if n = .directory ∧ locked (root ++ names) = true ∧ isHidden locked root names = false then some names
    else none

theorem mem_unlistable (hroot : t.get? root = some .directory) {names : Location} :
    names ∈ t.unlistable root locked ↔ t.get? (root ++ names) = some .directory ∧
      locked (root ++ names) = true ∧ Reached locked root names := by
  rw [unlistable, List.mem_filterMap]
  constructor
  · rintro ⟨⟨names', n⟩, hmem, hsome⟩
    dsimp only at hsome
    split at hsome
    next hwhich =>
      obtain ⟨rfl, hlocked, hreached⟩ := hwhich
      obtain rfl := Option.some.inj hsome
      exact ⟨(mem_walked hroot).mp hmem, hlocked, isHidden_eq_false_iff.mp hreached⟩
    next => exact nomatch hsome
  · rintro ⟨hget, hlocked, hreached⟩
    exact ⟨(names, .directory), (mem_walked hroot).mpr hget,
      if_pos ⟨rfl, hlocked, isHidden_eq_false_iff.mpr hreached⟩⟩

theorem nodup_unlistable (t : FileTree) (root : Location) (locked : Location → Bool) :
    (t.unlistable root locked).Nodup := by
  refine List.Pairwise.filterMap _ ?_ (t.sorted_walked root)
  rintro ⟨names, n⟩ ⟨names', n'⟩ hlt place hplace place' hplace' rfl
  dsimp only at hlt hplace hplace'
  split at hplace
  next =>
    split at hplace'
    next =>
      obtain rfl := (Option.some.inj hplace).trans (Option.some.inj hplace').symm
      exact List.lt_irrefl names hlt
    next => exact nomatch hplace'
  next => exact nomatch hplace

theorem found_eq_filterMap (t : FileTree) (root : Location) (locked : Location → Bool) :
    t.found root locked = (t.walked root).filterMap fun (names, n) ↦
      if isHidden locked root names then none
      else (n.content?.map fun content ↦ (names, content)).filter isSource := by
  rw [walked, List.filterMap_cons_none (by cases isHidden locked root [] <;> rfl), found, files,
    List.filter_filterMap]
  congr 1
  funext f
  obtain ⟨names, n⟩ := f
  dsimp only
  cases hhidden : isHidden locked root names <;> cases n <;>
    simp [Node.content?, Option.filter, hhidden]

theorem length_filterMap_cons {α β : Type} (f : α → Option β) (x : α) (xs : List α) :
    ((x :: xs).filterMap f).length = (f x).toList.length + (xs.filterMap f).length := by
  rw [List.filterMap_cons]
  cases f x with
  | none => exact (Nat.zero_add _).symm
  | some y => exact Nat.add_comm ..

/-- A list is as long as two others together if each element contributes to one of them what
it contributes to the list. -/
theorem length_filterMap_eq_add {α β γ δ : Type} {f : α → Option β} {g : α → Option γ}
    {h : α → Option δ}
    (hsplit : ∀ x, (f x).toList.length = (g x).toList.length + (h x).toList.length) (xs : List α) :
    (xs.filterMap f).length = (xs.filterMap g).length + (xs.filterMap h).length := by
  induction xs with
  | nil => rfl
  | cons x xs ih =>
    rw [length_filterMap_cons, length_filterMap_cons, length_filterMap_cons, ih, hsplit]
    exact Nat.add_add_add_comm ..

/-- A walk reports the files that it comes upon and the directories that it cannot list. -/
theorem length_sightings (t : FileTree) (root : Location) (locked : Location → Bool) :
    (t.sightings root locked).length =
      (t.found root locked).length + (t.unlistable root locked).length := by
  rw [found_eq_filterMap]
  refine length_filterMap_eq_add ?_ _
  rintro ⟨names, n⟩
  dsimp only
  cases isHidden locked root names with
  | true => simp
  | false =>
    cases n with
    | link target => rfl
    | directory => cases locked (root ++ names) <;> simp [sighting?, Node.content?]
    | file content =>
      cases hknown : (Language.ofFileName (names.getLast?.getD "")).isKnown <;>
        simp [sighting?, sourceFile?, Node.content?, Option.filter, isSource, hknown]

end CodeSurvey.FileTree
