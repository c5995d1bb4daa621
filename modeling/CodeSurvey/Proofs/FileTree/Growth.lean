import CodeSurvey.Proofs.Survey.Walk

/-!
# Trees that keep their directories

What a path leads to depends on the directories and links on the way.  In a tree that keeps
them it leads to the same place, if what is there is kept as well.  A path that led nowhere may
lead somewhere in a larger tree.
-/

namespace CodeSurvey.FileTree

variable {t t' : FileTree} {place here loc : Location}

/-- The directories and links of the one tree are in the other as well. -/
def Keeps (t t' : FileTree) : Prop :=
  ∀ loc n, t.get? loc = some n → n.content? = none → t'.get? loc = some n

namespace Keeps

/-- Steps are not taken through files, so they lead where they led before. -/
theorem follow_eq (h : Keeps t t') {last : Bool} {links : Nat} {names : List String}
    (hfollow : t.follow last links here names = .ok loc)
    (hloc : ∀ content, t.get? loc = some (.file content) → t'.get? loc = some (.file content)) :
    t'.follow last links here names = .ok loc := by
  have hdirectory : ∀ place, ¬(!t.isDirectory place) = true → ¬(!t'.isDirectory place) = true := by
    intro place hplace
    have hget : t.get? place = some .directory := by simpa [isDirectory] using hplace
    simp [isDirectory, h place _ hget rfl]
  fun_induction follow t last links here names with
  | case1 links here =>
    rw [follow]
    exact hfollow
  | case2 | case5 | case6 | case8 => cases hfollow
  | case3 links here rest hdir ih =>
    rw [follow, if_neg (hdirectory here hdir), if_pos rfl]
    exact ih hfollow
  | case4 links here rest hdir hdot ih =>
    rw [follow, if_neg (hdirectory here hdir), if_neg hdot, if_pos rfl]
    exact ih hfollow
  | case7 links here name rest hdir hdot hdots hshort target hget hlast =>
    rw [follow, if_neg (hdirectory here hdir), if_neg hdot, if_neg hdots, if_neg hshort,
      h _ _ hget rfl]
    dsimp only
    rw [if_pos hlast]
    exact hfollow
  | case9 here name rest hdir hdot hdots hshort target hget hlast links ih =>
    rw [follow, if_neg (hdirectory here hdir), if_neg hdot, if_neg hdots, if_neg hshort,
      h _ _ hget rfl]
    dsimp only
    rw [if_neg hlast]
    exact ih hfollow
  | case10 links here name rest hdir hdot hdots hshort n hlink hget ih =>
    rw [follow, if_neg (hdirectory here hdir), if_neg hdot, if_neg hdots, if_neg hshort]
    cases n with
    | link target => exact absurd rfl (hlink target)
    | directory =>
      rw [h _ _ hget rfl]
      exact ih hfollow
    | file content =>
      -- Nothing is below a file, so it has to be what is led to.
      cases rest with
      | nil =>
        rw [follow] at hfollow
        obtain rfl := Except.ok.inj hfollow
        rw [hloc content hget]
        dsimp only
        rw [follow]
      | cons next rest =>
        rw [follow, if_pos (by simp [isDirectory, hget])] at hfollow
        cases hfollow

/-- What was found is found again if it is still there. -/
theorem find_eq (h : Keeps t t') {cwd : Location} {raw : String} {n : Node}
    (hfind : t.find cwd raw = .ok (loc, n)) (hloc : t'.get? loc = some n) :
    t'.find cwd raw = .ok (loc, n) := by
  obtain ⟨hlocate, hget⟩ := locate_get?_of_find hfind
  have hlocate' : t'.locate cwd raw true = .ok loc := by
    unfold locate at hlocate ⊢
    split at hlocate
    · cases hlocate
    · split at hlocate
      · cases hlocate
      · split at hlocate
        · cases hlocate
        next hnul hempty hsize =>
          rw [if_neg hnul, if_neg hempty, if_neg hsize]
          exact h.follow_eq hlocate fun _ hfile ↦ hloc.trans (hget.symm.trans hfile)
  rw [find, hlocate']
  dsimp only
  rw [hloc]

end Keeps

/-- A tree that has grown by directories and by the file at one place.  There may have been another
file in this place before. -/
structure Enlarged (place : Location) (t t' : FileTree) : Prop where
  kept : ∀ loc n, t.get? loc = some n → n.content? = none ∨ loc ≠ place → t'.get? loc = some n
  new : ∀ loc, t'.get? loc = t.get? loc ∨ t.get? loc = none ∧ t'.get? loc = some .directory ∨
    loc = place ∧ ∃ content, t'.get? loc = some (.file content)

namespace Enlarged

theorem keeps (h : Enlarged place t t') : Keeps t t' := fun loc n hget hn ↦ h.kept loc n hget (.inl hn)

theorem find_eq (h : Enlarged place t t') {cwd : Location} {raw : String} {n : Node}
    (hfind : t.find cwd raw = .ok (loc, n)) (hsame : n.content? = none ∨ loc ≠ place) :
    t'.find cwd raw = .ok (loc, n) :=
  h.keeps.find_eq hfind (h.kept loc n (locate_get?_of_find hfind).2 hsame)

/-- The files are the same, but for the one at the place. -/
theorem get?_eq_file_iff (h : Enlarged place t t') (hne : loc ≠ place) {content : ByteArray} :
    t'.get? loc = some (.file content) ↔ t.get? loc = some (.file content) := by
  constructor
  · intro hfile
    rcases h.new loc with hsame | ⟨-, hdir⟩ | ⟨heq, -⟩
    · exact hsame ▸ hfile
    · exact nomatch hdir.symm.trans hfile
    · exact absurd heq hne
  · exact fun hfile ↦ h.kept loc _ hfile (.inr hne)

end Enlarged

end CodeSurvey.FileTree
