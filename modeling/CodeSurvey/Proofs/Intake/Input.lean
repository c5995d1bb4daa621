import CodeSurvey.Intake.Input

/-!
# Which inputs are accepted

A path is accepted as a directory if it leads to one, and as an archive if it leads to a file that
has the name and the size of an archive.  Nothing else of the tree matters.
-/

namespace CodeSurvey

theorem bind_eq_ok_iff {ε α β : Type} {x : Except ε α} {f : α → Except ε β} {b : β} :
    x >>= f = .ok b ↔ ∃ a, x = .ok a ∧ f a = .ok b := by
  cases x <;> simp [bind, Except.bind]

@[simp] theorem mapError_ok {ε ε' α : Type} (f : ε → ε') (a : α) :
    (Except.ok a : Except ε α).mapError f = .ok a := rfl

@[simp] theorem mapError_error {ε ε' α : Type} (f : ε → ε') (e : ε) :
    (Except.error e : Except ε α).mapError f = .error (f e) := rfl

theorem mapError_eq_ok_iff {ε ε' α : Type} {x : Except ε α} {f : ε → ε'} {a : α} :
    x.mapError f = .ok a ↔ x = .ok a := by
  cases x <;> simp

/-- All results can be had exactly if each of them can. -/
theorem exists_mapM_eq_ok_iff {ε α β : Type} {f : α → Except ε β} {xs : List α} :
    (∃ ys, xs.mapM f = .ok ys) ↔ ∀ x ∈ xs, ∃ y, f x = .ok y := by
  induction xs with
  | nil => simp [pure, Except.pure]
  | cons x xs ih =>
    rw [List.forall_mem_cons, ← ih, List.mapM_cons]
    simp only [bind_eq_ok_iff, pure, Except.pure, Except.ok.injEq]
    constructor
    · rintro ⟨_, y, hy, ys, hys, -⟩
      exact ⟨⟨y, hy⟩, ys, hys⟩
    · rintro ⟨⟨y, hy⟩, ys, hys⟩
      exact ⟨_, y, hy, ys, hys, rfl⟩

namespace Input

variable {t t' : FileTree} {cwd loc : Location} {limits : Limits} {raw : String}

theorem accept_congr (h : t'.find cwd raw = t.find cwd raw) (limits : Limits) :
    accept t' cwd limits raw = accept t cwd limits raw := by
  simp only [accept, acceptDirectory, acceptArchive, found, h]

theorem accept_eq_ok_iff {input : Input} : accept t cwd limits raw = .ok input ↔
    (∃ loc, t.find cwd raw = .ok (loc, .directory) ∧ input = .directory loc) ∨
      ∃ loc content, t.find cwd raw = .ok (loc, .file content) ∧
        archiveRefusal? limits ((Path.fileName? raw).getD "") content.size = none ∧
        input = .archive loc := by
  rw [accept, bind_eq_ok_iff]
  simp only [found, mapError_eq_ok_iff]
  constructor
  · rintro ⟨⟨loc, n⟩, hfind, h⟩
    cases n with
    | directory =>
      simp only [acceptDirectory, found, hfind, mapError_ok] at h
      exact .inl ⟨loc, hfind, (Except.ok.inj h).symm⟩
    | link target =>
      simp only [acceptArchive, found, hfind, mapError_ok] at h
      cases h
    | file content =>
      simp only [acceptArchive, found, hfind, mapError_ok, bind, Except.bind] at h
      cases hrefusal : archiveRefusal? limits ((Path.fileName? raw).getD "") content.size with
      | some refusal =>
        rw [hrefusal] at h
        cases h
      | none =>
        rw [hrefusal] at h
        exact .inr ⟨loc, content, hfind, hrefusal, (Except.ok.inj h).symm⟩
  · rintro (⟨loc, hfind, rfl⟩ | ⟨loc, content, hfind, hrefusal, rfl⟩)
    · refine ⟨_, hfind, ?_⟩
      simp only [acceptDirectory, found, hfind, mapError_ok]
      rfl
    · refine ⟨_, hfind, ?_⟩
      simp only [acceptArchive, found, hfind, mapError_ok, bind, Except.bind, hrefusal]
      rfl

theorem size_le_of_archiveRefusal? {name : String} {size : Nat}
    (h : archiveRefusal? limits name size = none) : size ≤ limits.maxArchiveSize.toNat := by
  refine Nat.le_of_not_lt fun hmore ↦ ?_
  rw [archiveRefusal?, if_pos hmore] at h
  split at h
  next => cases h
  next => split at h <;> cases h

theorem accept_directory_iff : accept t cwd limits raw = .ok (.directory loc) ↔
    t.find cwd raw = .ok (loc, .directory) := by
  simp [accept_eq_ok_iff]

theorem accept_archive_iff : accept t cwd limits raw = .ok (.archive loc) ↔
    ∃ content, t.find cwd raw = .ok (loc, .file content) ∧
      archiveRefusal? limits ((Path.fileName? raw).getD "") content.size = none := by
  rw [accept_eq_ok_iff]
  constructor
  · rintro (⟨_, _, heq⟩ | ⟨_, content, hfind, hrefusal, heq⟩)
    · cases heq
    · obtain rfl := Input.archive.inj heq
      exact ⟨content, hfind, hrefusal⟩
  · rintro ⟨content, hfind, hrefusal⟩
    exact .inr ⟨loc, content, hfind, hrefusal, rfl⟩

end Input

end CodeSurvey
