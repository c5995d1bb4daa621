import CodeSurvey.Proofs.Intake.Placement

/-!
# The disk while an entry is placed

The changes that place an entry are made one by one, and a chunk may be on the
disk in part.  At every such moment each place holds what it held before the
entry, a directory or a file that was begun for the entry, or nothing any more.
A file that was begun is within the allowance from its first byte to its last.
-/

namespace CodeSurvey

/-- The changes that have been made at some moment while a list of changes is
carried out: the first ones, and of a chunk perhaps no more than a part. -/
inductive Underway : List Change → List Change → Prop
  | start (cs : List Change) : Underway cs []
  | cut {loc : Location} {chunk part : ByteArray} {cs : List Change} : part.size ≤ chunk.size →
      Underway (.append loc chunk :: cs) [.append loc part]
  | next {c : Change} {cs made : List Change} : Underway cs made → Underway (c :: cs) (c :: made)

namespace Underway

theorem whole (cs : List Change) : Underway cs cs := by
  induction cs with
  | nil => exact .start []
  | cons c rest ih => exact .next ih

theorem nil {made : List Change} (h : Underway [] made) : made = [] := by
  cases h
  rfl

/-- Directories are made one by one. -/
theorem prefix_of_makeDirectory {cs made : List Change} (h : Underway cs made)
    (hdirs : ∀ c ∈ cs, c = .makeDirectory c.location) : made <+: cs := by
  induction h with
  | start cs => exact List.nil_prefix
  | cut _ => exact nomatch hdirs _ List.mem_cons_self
  | next _ ih =>
    exact List.cons_prefix_cons.mpr ⟨rfl, ih fun c hc ↦ hdirs c (List.mem_cons_of_mem _ hc)⟩

/-- Either the first of two lists is under way, or it is done and the second is
under way. -/
theorem append {as bs made : List Change} (h : Underway (as ++ bs) made) :
    Underway as made ∨ ∃ later, made = as ++ later ∧ Underway bs later := by
  induction as generalizing made with
  | nil => exact .inr ⟨made, rfl, h⟩
  | cons a rest ih =>
    cases h with
    | start => exact .inl (.start _)
    | cut hpart => exact .inl (.cut hpart)
    | next h =>
      rcases ih h with hfirst | ⟨later, rfl, hlater⟩
      · exact .inl (.next hfirst)
      · exact .inr ⟨later, rfl, hlater⟩

theorem of_map_append {dest : Location} {chunks : List ByteArray} {made : List Change}
    (h : Underway (chunks.map (.append dest)) made) :
    ∃ kept, made = kept.map (.append dest) ∧ totalSize kept ≤ totalSize chunks := by
  induction chunks generalizing made with
  | nil => exact ⟨[], h.nil, Nat.le_refl _⟩
  | cons chunk rest ih =>
    rw [List.map_cons] at h
    rw [totalSize_cons]
    cases h with
    | start => exact ⟨[], rfl, Nat.zero_le _⟩
    | @cut _ _ part _ hpart =>
      refine ⟨[part], rfl, ?_⟩
      rw [totalSize_cons, totalSize_nil]
      exact Nat.add_le_add hpart (Nat.zero_le _)
    | next h =>
      obtain ⟨kept, rfl, hle⟩ := ih h
      exact ⟨chunk :: kept, rfl, Nat.add_le_add_left hle _⟩

/-- While a file is written it has no more bytes than it will have. -/
theorem of_writing {dest : Location} {chunks : List ByteArray} {made : List Change}
    (h : Underway (writing dest chunks) made) :
    made = [] ∨ ∃ kept, made = writing dest kept ∧ totalSize kept ≤ totalSize chunks := by
  cases h with
  | start => exact .inl rfl
  | next h =>
    obtain ⟨kept, rfl, hle⟩ := of_map_append h
    exact .inr ⟨kept, rfl, hle⟩

end Underway

namespace Placement

theorem NewDirectories.mono {t : FileTree} {root : Location} {names : List String}
    {cs ds : List Change} (h : NewDirectories t root names cs) (hsub : ds ⊆ cs) :
    NewDirectories t root names ds := fun c hc ↦ h c (hsub hc)

/-- The changes made at some moment while an entry is placed. -/
inductive Stage (t : FileTree) (root : Location) (b : Budget) (e : Entry) : List Change → Prop
  /-- Only directories have been made. -/
  | directories {names : List String} {dirs : List Change} :
      NewDirectories t root names dirs → Stage t root b e dirs
  /-- The file has been begun. -/
  | writing {names : List String} {dirs : List Change} {kept : List ByteArray} : Opened b e names →
      NewDirectories t root names.dropLast dirs → totalSize kept ≤ b.allowance.bytes →
      Stage t root b e (dirs ++ writing (root ++ names) kept)
  /-- The file has been removed again. -/
  | removed {names : List String} {dirs : List Change} {kept : List ByteArray} : Opened b e names →
      NewDirectories t root names.dropLast dirs →
      Stage t root b e (dirs ++ (CodeSurvey.writing (root ++ names) kept ++ [.remove (root ++ names)]))

variable {t : FileTree} {root : Location} {b : Budget} {e : Entry}

theorem Stage.of_dirs {names : List String} {dirs made : List Change}
    (h : NewDirectories t root names dirs) (hmade : Underway dirs made) : Stage t root b e made :=
  .directories (h.mono (hmade.prefix_of_makeDirectory h.makeDirectory).subset)

theorem Stage.of_writing {names : List String} {dirs made : List Change} {chunks : List ByteArray}
    (hopened : Opened b e names) (h : NewDirectories t root names.dropLast dirs)
    (hcap : totalSize chunks ≤ b.allowance.bytes)
    (hmade : Underway (CodeSurvey.writing (root ++ names) chunks) made) :
    Stage t root b e (dirs ++ made) := by
  rcases hmade.of_writing with rfl | ⟨kept, rfl, hle⟩
  · rw [List.append_nil]
    exact .directories h
  · exact .writing hopened h (Nat.le_trans hle hcap)

/-- Whatever course the placing takes, it goes through the listed stages. -/
theorem Course.stage {p : Placement} (h : Course t root b e p) {made : List Change}
    (hmade : Underway p.changes made) : Stage t root b e made := by
  cases h with
  | refused reason =>
    have hnone : NewDirectories t root [] [] := fun c hc ↦ nomatch hc
    exact hmade.nil ▸ .directories hnone
  | directories _ _ hdirs _ => exact .of_dirs hdirs hmade
  | blocked _ hdirs => exact .of_dirs hdirs hmade
  | written hopened hdirs _ _ hcap =>
    rcases hmade.append with hfirst | ⟨later, rfl, hlater⟩
    · exact .of_dirs hdirs hfirst
    · exact .of_writing hopened hdirs (Read.size_stream _ ▸ hcap) hlater
  | abandoned hopened hdirs _ _ hcap =>
    rcases hmade.append with hfirst | ⟨later, rfl, hlater⟩
    · exact .of_dirs hdirs hfirst
    rcases hlater.append with hwriting | ⟨last, rfl, hlast⟩
    · exact .of_writing hopened hdirs hcap hwriting
    cases hlast with
    | start =>
      rw [List.append_nil]
      exact .writing hopened hdirs hcap
    | next hend =>
      rw [hend.nil]
      exact .removed hopened hdirs

/-- What is at a place at some moment while an entry is placed. -/
inductive Held (t : FileTree) (root : Location) (b : Budget) (e : Entry) (made : List Change)
    (loc : Location) : Option Node → Prop
  | kept : (∀ c ∈ made, c.location ≠ loc) → Held t root b e made loc (t.get? loc)
  | directory : Change.makeDirectory loc ∈ made → t.get? loc = none →
      Held t root b e made loc (some .directory)
  | file {names : List String} {content : ByteArray} : loc = root ++ names → Opened b e names →
      content.size ≤ b.allowance.bytes → Held t root b e made loc (some (.file content))
  | gone : Held t root b e made loc none

theorem Held.of_dirs {names : List String} {dirs made : List Change} {loc : Location}
    (h : NewDirectories t root names dirs) (hsub : dirs ⊆ made)
    (hrest : ∀ c ∈ made, c ∈ dirs ∨ c.location ≠ loc) :
    Held t root b e made loc ((t.applyAll dirs).get? loc) := by
  rw [FileTree.get?_applyAll_makeDirectory h.makeDirectory]
  by_cases hmem : Change.makeDirectory loc ∈ dirs
  · rw [if_pos hmem]
    obtain ⟨way, -, -, heq, hnone⟩ := h _ hmem
    obtain rfl : loc = root ++ way := Change.makeDirectory.inj heq
    exact .directory (hsub hmem) hnone
  · rw [if_neg hmem]
    refine .kept fun c hc ↦ ?_
    rcases hrest c hc with hdir | hne
    · rintro rfl
      exact hmem (h.makeDirectory c hdir ▸ hdir)
    · exact hne

/-- At every stage each place holds what `Held` lists. -/
theorem Stage.held {made : List Change} (h : Stage t root b e made) (loc : Location) :
    Held t root b e made loc ((t.applyAll made).get? loc) := by
  cases h with
  | directories hdirs => exact .of_dirs hdirs (List.Subset.refl _) fun c hc ↦ .inl hc
  | @writing names dirs kept hopened hdirs hcap =>
    rw [FileTree.applyAll_append, FileTree.get?_applyAll_writing (hopened.dest_ne_nil root)]
    by_cases hloc : loc = root ++ names
    · rw [if_pos hloc]
      exact .file hloc hopened (size_joined kept ▸ hcap)
    · rw [if_neg hloc]
      refine .of_dirs hdirs (List.subset_append_left ..) fun c hc ↦ ?_
      rcases List.mem_append.mp hc with hc | hc
      · exact .inl hc
      · exact .inr fun heq ↦ hloc (by rw [← heq, location_of_mem_writing hc])
  | @removed names dirs kept hopened hdirs =>
    rw [FileTree.applyAll_append, FileTree.get?_applyAll_removed (hopened.dest_ne_nil root)]
    by_cases hloc : loc = root ++ names
    · rw [if_pos hloc]
      exact .gone
    · rw [if_neg hloc]
      refine .of_dirs hdirs (List.subset_append_left ..) fun c hc ↦ ?_
      rcases List.mem_append.mp hc with hc | hc
      · exact .inl hc
      rcases List.mem_append.mp hc with hc | hc
      · exact .inr fun heq ↦ hloc (by rw [← heq, location_of_mem_writing hc])
      · rw [List.mem_singleton.mp hc]
        exact .inr (Ne.symm hloc)

end Placement

end CodeSurvey
