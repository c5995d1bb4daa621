import CodeSurvey.FileTree.Write
import CodeSurvey.Proofs.FileTree.Commuting
import CodeSurvey.Proofs.Intake.Placement

/-!
# Writing where there are no links

If no name on the way down is that of a link, a directory is made right where its path says, and
so is a file.  What making a directory does is then known from the tree alone: the directories on
the way that are missing are made, and nothing else is touched.
-/

namespace CodeSurvey.FileTree

variable {t : FileTree} {base here loc directory : Location} {names : List String}

/-- No name on the way down is that of a link. -/
def Unlinked (t : FileTree) (base : Location) (names : List String) : Prop :=
  ∀ way, way <+: names → ∀ target, t.get? (base ++ way) ≠ some (.link target)

namespace Unlinked

theorem mono {names' : List String} (h : t.Unlinked base names) (hpre : names' <+: names) :
    t.Unlinked base names' := fun way hway ↦ h way (hway.trans hpre)

theorem head {name : String} {rest : List String} (h : t.Unlinked base (name :: rest)) (target : String) :
    t.get? (base ++ [name]) ≠ some (.link target) := h [name] (by simp) target

theorem tail {name : String} {rest : List String} (h : t.Unlinked base (name :: rest)) :
    t.Unlinked (base ++ [name]) rest := by
  intro way hway
  rw [List.append_assoc, List.singleton_append]
  exact h (name :: way) (List.cons_prefix_cons.mpr ⟨rfl, hway⟩)

end Unlinked

/-! ## Directories -/

/-- Going down stops at the first name that is missing, or at a file. -/
theorem descend_cases (h : t.Unlinked here names) :
    (∃ loc missing, t.descend here names = .ok (loc, missing) ∧ loc ++ missing = here ++ names ∧
      t.missingDirectories loc missing = t.missingDirectories here names) ∨
    ∃ e, t.descend here names = .error e ∧ t.missingDirectories here names = ([], some e) := by
  induction names generalizing here with
  | nil => exact .inl ⟨here, [], rfl, rfl, rfl⟩
  | cons name rest ih =>
    cases hget : t.get? (here ++ [name]) with
    | none =>
      refine .inl ⟨here, name :: rest, ?_, rfl, rfl⟩
      rw [descend, hget]
    | some n =>
      cases n with
      | link target => exact absurd hget (h.head target)
      | file content =>
        refine .inr ⟨if rest = [] then .alreadyExists else .notDirectory, ?_, ?_⟩
        · rw [descend, hget]
        · rw [missingDirectories, hget]
      | directory =>
        have hdown : t.descend here (name :: rest) = t.descend (here ++ [name]) rest := by
          rw [descend, hget]
        have hmissing : t.missingDirectories here (name :: rest) =
            t.missingDirectories (here ++ [name]) rest := by
          rw [missingDirectories, hget]
        have hnames : here ++ name :: rest = here ++ [name] ++ rest := by simp
        rw [hdown, hmissing, hnames]
        exact ih h.tail

/-- A directory is made where its path says. -/
theorem ensureDirectory_eq {p : Path} (h : t.Unlinked [] p.names) :
    t.ensureDirectory p =
      match t.makeDirectories [] p.names with
      | (changes, none) => (changes, .ok p.names)
      | (changes, some e) => (changes, .error e) := by
  rw [ensureDirectory, makeDirectories, List.nil_append]
  split
  next => rfl
  next hshort =>
    rcases descend_cases h with ⟨loc, missing, hdown, hnames, hmissing⟩ | ⟨e, hdown, hmissing⟩
    · rw [List.nil_append] at hnames
      rcases hmade : t.missingDirectories [] p.names with ⟨changes, _ | e⟩ <;>
        simp only [hdown, makeDirectories, hnames, if_neg hshort, hmissing, hmade]
    · rw [hdown, hmissing]

/-- If directories can be made, then there is one in each place on the way or it is made there. -/
theorem directory_or_missing {cs : List Change} (h : t.missingDirectories base names = (cs, none))
    {way : List String} (hne : way ≠ []) (hway : way <+: names) :
    t.get? (base ++ way) = some .directory ∨
      t.get? (base ++ way) = none ∧ .makeDirectory (base ++ way) ∈ cs := by
  induction names generalizing base cs way with
  | nil => exact absurd (List.prefix_nil.mp hway) hne
  | cons name rest ih =>
    obtain ⟨first, way, rfl⟩ := List.exists_cons_of_ne_nil hne
    obtain ⟨rfl, hlead⟩ := List.cons_prefix_cons.mp hway
    -- What is there below the first directory, whether it has to be made or not.
    have below {ds : List Change} (hds : t.missingDirectories (base ++ [first]) rest = (ds, none))
        (hway : way ≠ []) : t.get? (base ++ first :: way) = some .directory ∨
          t.get? (base ++ first :: way) = none ∧ .makeDirectory (base ++ first :: way) ∈ ds := by
      have hbelow := ih hds hway hlead
      rwa [List.append_assoc, List.singleton_append] at hbelow
    rw [missingDirectories] at h
    cases hget : t.get? (base ++ [first]) with
    | none =>
      rw [hget] at h
      dsimp only at h
      split at h
      · cases h
      · obtain ⟨rfl, hfailure⟩ := Prod.mk.inj h
        by_cases hend : way = []
        · subst hend
          exact .inr ⟨hget, List.mem_cons_self⟩
        · rcases below (Prod.ext rfl hfailure) hend with hdir | ⟨hnone, hmem⟩
          · exact .inl hdir
          · exact .inr ⟨hnone, List.mem_cons_of_mem _ hmem⟩
    | some n =>
      rw [hget] at h
      cases n with
      | directory =>
        by_cases hend : way = []
        · subst hend
          exact .inl hget
        · exact below h hend
      | file content => cases h
      | link target => cases h

theorem makeDirectories_eq_none_iff {cs : List Change} :
    t.makeDirectories base names = (cs, none) ↔
      Location.isTooLong (base ++ names) = false ∧ t.missingDirectories base names = (cs, none) := by
  rw [makeDirectories]
  cases Location.isTooLong (base ++ names) <;> simp

theorem makeDirectory_of_mem_makeDirectories {c : Change} (h : c ∈ (t.makeDirectories base names).1) :
    c = .makeDirectory c.location := by
  obtain ⟨way, -, -, rfl, -⟩ := mem_makeDirectories h
  rfl

/-- Once directories have been made, none of them is missing, and if making them failed it fails
again. -/
theorem makeDirectories_again {t' : FileTree} (h : ∀ way, way ≠ [] → way <+: names →
      t'.get? (base ++ way) = (t.applyAll (t.makeDirectories base names).1).get? (base ++ way)) :
    t'.makeDirectories base names = ([], (t.makeDirectories base names).2) := by
  have hmade (way : List String) (hne : way ≠ []) (hway : way <+: names) : t'.get? (base ++ way) =
      if .makeDirectory (base ++ way) ∈ (t.makeDirectories base names).1 then some .directory
      else t.get? (base ++ way) := by
    rw [h way hne hway]
    exact get?_applyAll_makeDirectory (fun c hc ↦ makeDirectory_of_mem_makeDirectories hc) t _
  have hwidens : Widens base names t t' := by
    intro way hne hway
    have hget := hmade way hne hway
    split at hget
    next hmem =>
      obtain ⟨way', -, -, heq, hnone⟩ := mem_makeDirectories hmem
      obtain rfl : way = way' := List.append_cancel_left (Change.makeDirectory.inj heq)
      exact .inr ⟨hnone, hget, utf8ByteSize_of_mem_makeDirectories hmem⟩
    next => exact .inl hget
  have hpending : t'.pending (t.makeDirectories base names).1 = [] := by
    refine List.filter_eq_nil_iff.mpr fun c hc ↦ ?_
    obtain ⟨way, hne, hway, rfl, -⟩ := mem_makeDirectories hc
    have hget := hmade way hne hway
    rw [if_pos hc] at hget
    simpa using isDone_makeDirectory.mpr hget
  rw [makeDirectories_of_widens hwidens, hpending]

/-! ## Files -/

theorem openFailure?_eq_none_iff : t.openFailure? loc = none ↔
    Location.isTooLong loc = false ∧ (loc.getLast?.getD "").utf8ByteSize ≤ Location.maxName ∧
      t.get? loc ≠ some .directory := by
  rw [openFailure?]
  cases Location.isTooLong loc with
  | true => simp
  | false =>
    by_cases hlong : Location.maxName < (loc.getLast?.getD "").utf8ByteSize
    · simp [hlong, Nat.not_le.mpr hlong]
    · simp [hlong, isDirectory, Nat.not_lt.mp hlong]

/-- A file is written where its name says. -/
theorem writeFile_eq_ok_iff {name : String} {content : ByteArray} {cs : List Change}
    (h : ∀ target, t.get? (directory ++ [name]) ≠ some (.link target)) :
    t.writeFile directory name content = .ok cs ↔
      t.openFailure? (directory ++ [name]) = none ∧ cs = writing (directory ++ [name]) [content] := by
  rw [writeFile, target]
  cases hget : t.get? (directory ++ [name]) with
  | none =>
    cases t.openFailure? (directory ++ [name]) <;> simp [Except.map, writing, eq_comm]
  | some n =>
    cases n with
    | link target => exact absurd hget (h target)
    | directory => simp [Except.map, openFailure?_eq_none_iff, hget]
    | file content' =>
      cases t.openFailure? (directory ++ [name]) <;> simp [Except.map, writing, eq_comm]

end CodeSurvey.FileTree
