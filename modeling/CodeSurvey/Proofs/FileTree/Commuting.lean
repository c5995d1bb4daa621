import CodeSurvey.Proofs.FileTree.Change

/-!
# Changes that commute

Changes at different places may be made in either order, and making a directory where
there is one already does nothing.  So two operations that share nothing but
directories leave the same tree, whichever comes first: the second one finds some of
its directories made and does the rest.
-/

namespace CodeSurvey

namespace FileTree

theorem ext_nodes {t t' : FileTree} (h : ∀ loc, t.nodes.get? loc = t'.nodes.get? loc) : t = t' := by
  obtain ⟨nodes⟩ := t
  exact congrArg mk (SortedMap.ext_get? h)

/-- What is recorded for the root changes as it does anywhere else. -/
theorem nodes_get?_apply (t : FileTree) (c : Change) (loc : Location) :
    (t.apply c).nodes.get? loc =
      if loc = c.location then c.effect (t.nodes.get? loc) else t.nodes.get? loc := by
  cases c with
  | makeDirectory place => exact SortedMap.get?_insert ..
  | create place => exact SortedMap.get?_insert ..
  | append place chunk =>
    refine (SortedMap.get?_alter ..).trans ?_
    by_cases hloc : loc = place
    · rw [hloc]
      rfl
    · exact (if_neg hloc).trans (if_neg hloc).symm
  | remove place => exact SortedMap.get?_erase ..

/-! ## Either order -/

theorem apply_comm {c d : Change} (h : c.location = d.location → c = d) (t : FileTree) :
    (t.apply c).apply d = (t.apply d).apply c := by
  by_cases heq : c = d
  · rw [heq]
  refine ext_nodes fun loc ↦ ?_
  simp only [nodes_get?_apply]
  by_cases hc : loc = c.location
  · have hd : loc ≠ d.location := fun hd ↦ heq (h (hc.symm.trans hd))
    rw [if_neg hd, if_neg hd]
  · rw [if_neg hc, if_neg hc]

theorem applyAll_apply_comm {c : Change} {cs : List Change}
    (h : ∀ d ∈ cs, c.location = d.location → c = d) (t : FileTree) :
    (t.apply c).applyAll cs = (t.applyAll cs).apply c := by
  induction cs generalizing t with
  | nil => rfl
  | cons d rest ih =>
    calc ((t.apply c).apply d).applyAll rest
      _ = ((t.apply d).apply c).applyAll rest := by rw [apply_comm (h d List.mem_cons_self)]
      _ = ((t.apply d).applyAll rest).apply c := ih (fun d' hd' ↦ h d' (List.mem_cons_of_mem _ hd')) _

/-- Two lists of changes commute if they make the same change wherever both make one. -/
theorem applyAll_comm {cs ds : List Change} (h : ∀ c ∈ cs, ∀ d ∈ ds, c.location = d.location → c = d)
    (t : FileTree) : (t.applyAll cs).applyAll ds = (t.applyAll ds).applyAll cs := by
  induction cs generalizing t with
  | nil => rfl
  | cons c rest ih =>
    calc ((t.apply c).applyAll rest).applyAll ds
      _ = ((t.apply c).applyAll ds).applyAll rest :=
        ih (fun c' hc' ↦ h c' (List.mem_cons_of_mem _ hc')) _
      _ = ((t.applyAll ds).apply c).applyAll rest := by
        rw [applyAll_apply_comm (h c List.mem_cons_self)]

/-! ## What is done already -/

/-- Is a change one that has nothing to do, because it makes a directory that is there? -/
def isDone (t : FileTree) : Change → Bool
  | .makeDirectory loc => t.isDirectory loc
  | _ => false

theorem isDone_makeDirectory {t : FileTree} {loc : Location} :
    t.isDone (.makeDirectory loc) = true ↔ t.get? loc = some .directory := decide_eq_true_iff

theorem apply_of_isDone {t : FileTree} {c : Change} (hne : c.location ≠ []) (h : t.isDone c = true) :
    t.apply c = t := by
  cases c with
  | makeDirectory loc =>
    have hdir : t.nodes.get? loc = some .directory :=
      (get?_of_ne hne t).symm.trans (isDone_makeDirectory.mp h)
    refine ext_nodes fun place ↦ ?_
    rw [nodes_get?_apply]
    by_cases hplace : place = loc
    · rw [hplace, hdir]
      exact if_pos rfl
    · exact if_neg hplace
  | _ => exact nomatch h

/-- What is done stays done, unless something else is done at the same place. -/
theorem isDone_apply {t : FileTree} {c d : Change} (hne : d.location ≠ [])
    (h : c.location = d.location → c = d) (hdone : t.isDone d = true) :
    (t.apply c).isDone d = true := by
  cases d with
  | makeDirectory loc =>
    refine isDone_makeDirectory.mpr ((get?_apply hne t c).trans ?_)
    by_cases hloc : c.location = loc
    · rw [h hloc]
      exact if_pos rfl
    · exact (if_neg (Ne.symm hloc)).trans (isDone_makeDirectory.mp hdone)
  | _ => exact nomatch hdone

/-- The changes that have something to do. -/
def pending (t : FileTree) (cs : List Change) : List Change := cs.filter fun c ↦ !t.isDone c

theorem pending_append (t : FileTree) (cs ds : List Change) :
    t.pending (cs ++ ds) = t.pending cs ++ t.pending ds := List.filter_append ..

theorem pending_cons_of_done {t : FileTree} {c : Change} (h : t.isDone c = true) (cs : List Change) :
    t.pending (c :: cs) = t.pending cs := by
  rw [pending, List.filter_cons_of_neg (by simp [h]), pending]

theorem pending_cons_of_not_done {t : FileTree} {c : Change} (h : t.isDone c = false)
    (cs : List Change) : t.pending (c :: cs) = c :: t.pending cs := by
  rw [pending, List.filter_cons_of_pos (by simp [h]), pending]

/-- Nothing but making directories is ever done already. -/
theorem pending_eq_self {cs : List Change} (h : ∀ c ∈ cs, ∀ loc, c ≠ .makeDirectory loc)
    (t : FileTree) : t.pending cs = cs := by
  refine List.filter_eq_self.mpr fun c hc ↦ ?_
  cases c with
  | makeDirectory loc => exact absurd rfl (h _ hc loc)
  | _ => rfl

/-- It makes no difference to leave out what is done already, provided that no other change
is made at the same place. -/
theorem applyAll_pending {t : FileTree} {cs : List Change} (hne : ∀ c ∈ cs, c.location ≠ [])
    (hclash : ∀ d ∈ cs, t.isDone d = true → ∀ c ∈ cs, c.location = d.location → c = d) :
    t.applyAll (t.pending cs) = t.applyAll cs := by
  -- While the changes are made, what was done at first stays done.
  suffices h : ∀ s : FileTree, (∀ d ∈ cs, t.isDone d = true → s.isDone d = true) →
      s.applyAll (t.pending cs) = s.applyAll cs from h t fun _ _ hdone ↦ hdone
  induction cs with
  | nil => exact fun _ _ ↦ rfl
  | cons c rest ih =>
    intro s hs
    have hlater : ∀ d ∈ rest, t.isDone d = true → s.isDone d = true :=
      fun d hd ↦ hs d (List.mem_cons_of_mem _ hd)
    have hrest := ih (fun d hd ↦ hne d (List.mem_cons_of_mem _ hd)) fun d hd hdone c' hc' ↦
      hclash d (List.mem_cons_of_mem _ hd) hdone c' (List.mem_cons_of_mem _ hc')
    have hhead : s.applyAll (c :: rest) = (s.apply c).applyAll rest := rfl
    cases hdone : t.isDone c with
    | true =>
      rw [pending_cons_of_done hdone, hhead,
        apply_of_isDone (hne c List.mem_cons_self) (hs c List.mem_cons_self hdone)]
      exact hrest s hlater
    | false =>
      rw [pending_cons_of_not_done hdone, hhead]
      refine hrest (s.apply c) fun d hd hdone' ↦ ?_
      have hmem := List.mem_cons_of_mem c hd
      exact isDone_apply (hne d hmem) (hclash d hmem hdone' c List.mem_cons_self) (hlater d hd hdone')

/-! ## Making directories after other changes -/

theorem get?_applyAll_of_directory {loc : Location} {cs : List Change}
    (h : ∀ c ∈ cs, c.location = loc → c = .makeDirectory loc) (hmem : .makeDirectory loc ∈ cs)
    (t : FileTree) : (t.applyAll cs).get? loc = some .directory := by
  by_cases hroot : loc = []
  · rw [hroot]
    rfl
  induction cs generalizing t with
  | nil => exact nomatch hmem
  | cons c rest ih =>
    have hrest : ∀ c ∈ rest, c.location = loc → c = .makeDirectory loc :=
      fun c' hc' ↦ h c' (List.mem_cons_of_mem _ hc')
    by_cases hlater : .makeDirectory loc ∈ rest
    · exact ih hrest hlater (t.apply c)
    · obtain rfl : .makeDirectory loc = c := (List.mem_cons.mp hmem).resolve_right hlater
      have hnot : ∀ c ∈ rest, c.location ≠ loc := fun c hc hloc ↦ hlater (hrest c hc hloc ▸ hc)
      refine (get?_applyAll_of_ne hnot (t.apply (.makeDirectory loc))).trans ?_
      rw [get?_apply hroot]
      exact if_pos rfl

/-- No directory is made that has too long a name. -/
theorem utf8ByteSize_of_mem_missingDirectories {t : FileTree} {base : Location} {names : List String}
    {c : Change} (h : c ∈ (t.missingDirectories base names).1) :
    (c.location.getLast?.getD "").utf8ByteSize ≤ Location.maxName := by
  induction names generalizing base with
  | nil => exact nomatch h
  | cons name rest ih =>
    simp only [missingDirectories] at h
    split at h
    next => exact ih h
    next => cases h
    next =>
      split at h
      next => cases h
      next hshort =>
        rcases List.mem_cons.mp h with rfl | h
        · simpa [Change.location] using hshort
        · exact ih h

theorem utf8ByteSize_of_mem_makeDirectories {t : FileTree} {base : Location} {names : List String}
    {c : Change} (h : c ∈ (t.makeDirectories base names).1) :
    (c.location.getLast?.getD "").utf8ByteSize ≤ Location.maxName := by
  unfold makeDirectories at h
  split at h
  · exact nomatch h
  · exact utf8ByteSize_of_mem_missingDirectories h

/-- Two trees agree on the way down by some names, but for directories that only the second
one has. -/
def Widens (base : Location) (names : List String) (t t' : FileTree) : Prop :=
  ∀ way, way ≠ [] → way <+: names → t'.get? (base ++ way) = t.get? (base ++ way) ∨
    (t.get? (base ++ way) = none ∧ t'.get? (base ++ way) = some .directory ∧
      ((base ++ way).getLast?.getD "").utf8ByteSize ≤ Location.maxName)

variable {base : Location} {names : List String} {t t' : FileTree}

theorem Widens.mono {names' : List String} (h : Widens base names t t') (hpre : names' <+: names) :
    Widens base names' t t' := fun way hne hway ↦ h way hne (hway.trans hpre)

theorem Widens.tail {name : String} (h : Widens base (name :: names) t t') :
    Widens (base ++ [name]) names t t' := by
  intro way hne hway
  rw [List.append_assoc, List.singleton_append]
  exact h (name :: way) (by simp) (List.cons_prefix_cons.mpr ⟨rfl, hway⟩)

/-- In a tree with more directories fewer are missing, and nothing else is different. -/
theorem missingDirectories_of_widens (h : Widens base names t t') :
    t'.missingDirectories base names =
      (t'.pending (t.missingDirectories base names).1, (t.missingDirectories base names).2) := by
  induction names generalizing base with
  | nil => rfl
  | cons name rest ih =>
    have hrest := ih h.tail
    simp only [missingDirectories]
    rcases h [name] (by simp) (by simp) with heq | ⟨hnone, hdir, hshort⟩
    · rw [heq]
      cases hnode : t.get? (base ++ [name]) with
      | none =>
        dsimp only
        split
        next => rfl
        next =>
          have hmissing : t'.isDone (.makeDirectory (base ++ [name])) = false := by
            rw [isDone, isDirectory, heq, hnode]
            rfl
          rw [pending_cons_of_not_done hmissing, hrest]
      | some n =>
        cases n with
        | directory => exact hrest
        | _ => rfl
    · rw [List.getLast?_concat, Option.getD_some] at hshort
      rw [hnone, hdir]
      dsimp only
      rw [if_neg (Nat.not_lt.mpr hshort), pending_cons_of_done (isDone_makeDirectory.mpr hdir)]
      exact hrest

theorem makeDirectories_of_widens (h : Widens base names t t') :
    t'.makeDirectories base names =
      (t'.pending (t.makeDirectories base names).1, (t.makeDirectories base names).2) := by
  unfold makeDirectories
  split
  · rfl
  · exact missingDirectories_of_widens h

end FileTree

end CodeSurvey
