import CodeSurvey.Proofs.FileTree.Commuting
import CodeSurvey.Proofs.Intake.Placement

/-!
# Entries that are apart

An entry makes directories on the way to its place, and at its place a directory or a
file.  Two entries meet in directories only, unless the file of one of them belongs
where the other one has to pass.  If they do not clash in this way, an entry that comes
after the other finds some of its directories made, and nothing else is different for it.
-/

namespace CodeSurvey

open Placement

/-! ## What an entry can change -/

namespace Placement

variable {t t' : FileTree} {root : Location} {b : Budget} {e : Entry} {names : List String}

/-- What placing an entry can change once its name is accepted: directories that are missing
on its way, and its file. -/
inductive Reaches (t : FileTree) (root : Location) (e : Entry) (names : List String) : Change → Prop
  | directory {way : List String} : way <+: names → (e.isDirectory = false → way ≠ names) →
      t.get? (root ++ way) = none →
      ((root ++ way).getLast?.getD "").utf8ByteSize ≤ Location.maxName →
      Reaches t root e names (.makeDirectory (root ++ way))
  | file {c : Change} : e.isDirectory = false → c.location = root ++ names →
      (∀ loc, c ≠ .makeDirectory loc) → Reaches t root e names c

theorem mem_changes_ofContent {dest : Location} {cap : Allowance} {reads : List Read} {c : Change}
    (h : c ∈ (ofContent dest cap reads).changes) :
    c.location = dest ∧ ∀ loc, c ≠ .makeDirectory loc := by
  have hwriting {chunks : List ByteArray} (hc : c ∈ writing dest chunks) :
      c.location = dest ∧ ∀ loc, c ≠ .makeDirectory loc := by
    refine ⟨location_of_mem_writing hc, ?_⟩
    rcases List.mem_cons.mp hc with rfl | hc
    · exact nofun
    · obtain ⟨_, _, rfl⟩ := List.mem_map.mp hc
      exact nofun
  rcases ofContent_cases dest cap reads with ⟨-, -, heq⟩ | ⟨_, _, -, -, -, heq⟩
  · rw [heq] at h
    exact hwriting h
  · rw [heq] at h
    rcases List.mem_append.mp h with h | h
    · exact hwriting h
    · rw [List.mem_singleton.mp h]
      exact ⟨rfl, nofun⟩

theorem reaches_of_mem_makeDirectories {way : List String} {c : Change} (hway : way <+: names)
    (hfile : e.isDirectory = false → way ≠ names) (h : c ∈ (t.makeDirectories root way).1) :
    Reaches t root e names c := by
  have hshort := FileTree.utf8ByteSize_of_mem_makeDirectories h
  obtain ⟨way', -, hpre, rfl, hnone⟩ := FileTree.mem_makeDirectories h
  refine .directory (hpre.trans hway) (fun hregular heq ↦ hfile hregular ?_) hnone hshort
  exact hway.eq_of_length_le (heq ▸ hpre.length_le)

theorem reaches_of_mem_ofFile {cap : Allowance} {reads : Thunk (List Read)} {c : Change}
    (hregular : e.isDirectory = false) (hne : names ≠ [])
    (h : c ∈ (ofFile t root names cap reads).changes) : Reaches t root e names c := by
  have hdirs (hc : c ∈ (t.makeDirectories root names.dropLast).1) : Reaches t root e names c := by
    refine reaches_of_mem_makeDirectories (List.dropLast_prefix names) (fun _ heq ↦ hne ?_) hc
    have hlength := congrArg List.length heq
    rw [List.length_dropLast] at hlength
    exact List.length_eq_zero_iff.mp (by omega)
  rw [ofFile] at h
  rcases hmake : t.makeDirectories root names.dropLast with ⟨dirs, failure⟩
  rw [hmake] at h hdirs
  cases failure with
  | some error => exact hdirs h
  | none =>
    dsimp only at h
    cases hopen : t.openFailure? (root ++ names) with
    | some error =>
      rw [hopen] at h
      exact hdirs h
    | none =>
      rw [hopen] at h
      rcases List.mem_append.mp h with h | h
      · exact hdirs h
      · obtain ⟨hloc, hother⟩ := mem_changes_ofContent h
        exact .file hregular hloc hother

theorem reaches_of_mem_ofEntry {c : Change} (h : c ∈ (ofEntry t root b e).changes) :
    ∃ names, EntryName.components e.name = .ok names ∧ Reaches t root e names c := by
  rw [ofEntry] at h
  cases hname : EntryName.components e.name with
  | error why =>
    rw [hname] at h
    cases h
  | ok names =>
    refine ⟨names, rfl, ?_⟩
    rw [hname] at h
    dsimp only at h
    cases hdir : e.isDirectory with
    | true =>
      rw [hdir, if_pos rfl, ofDirectory] at h
      have hmem : c ∈ (t.makeDirectories root names).1 := by
        rcases hmake : t.makeDirectories root names with ⟨dirs, failure⟩
        rw [hmake] at h
        cases failure <;> exact h
      exact reaches_of_mem_makeDirectories List.prefix_rfl
        (fun hregular ↦ absurd (hregular.symm.trans hdir) Bool.false_ne_true) hmem
    | false =>
      rw [hdir, if_neg Bool.false_ne_true] at h
      split at h
      · cases h
      split at h
      · cases h
      · exact reaches_of_mem_ofFile hdir (EntryName.ne_nil_of_components hname) h

/-! ## An entry after another one -/

theorem Reaches.missing {c : Change} (h : Reaches t root e names c) {loc : Location}
    (hc : c = .makeDirectory loc) :
    t.get? loc = none ∧ (loc.getLast?.getD "").utf8ByteSize ≤ Location.maxName := by
  cases h with
  | directory _ _ hnone hshort => exact Change.makeDirectory.inj hc ▸ ⟨hnone, hshort⟩
  | file _ _ hother => exact absurd hc (hother loc)

/-- An entry makes its changes at different places. -/
theorem Reaches.eq_of_location {c d : Change} (hc : Reaches t root e names c)
    (hd : Reaches t root e names d) (hdone : t'.isDone d = true) (hloc : c.location = d.location) :
    c = d := by
  cases hd with
  | file _ _ hother =>
    cases d with
    | makeDirectory loc => exact absurd rfl (hother loc)
    | _ => exact nomatch hdone
  | @directory way _ hne _ _ =>
    cases hc with
    | directory _ _ _ _ => exact congrArg Change.makeDirectory hloc
    | file hregular hplace _ =>
      exact absurd (List.append_cancel_left (hplace.symm.trans hloc)).symm (hne hregular)

/-- In a tree that has more directories on the way of an entry, the same becomes of the entry;
only these directories are not made again. -/
theorem ofEntry_of_widens
    (hway : ∀ names, EntryName.components e.name = .ok names → FileTree.Widens root names t t')
    (hplace : ∀ names, EntryName.components e.name = .ok names → e.isDirectory = false →
      t'.get? (root ++ names) = t.get? (root ++ names)) :
    ofEntry t' root b e =
      { ofEntry t root b e with changes := t'.pending (ofEntry t root b e).changes } := by
  rw [ofEntry, ofEntry]
  cases hname : EntryName.components e.name with
  | error why => rfl
  | ok names =>
    have hwidens := hway names hname
    dsimp only
    cases hdir : e.isDirectory with
    | true =>
      rw [if_pos rfl, if_pos rfl, ofDirectory, ofDirectory, FileTree.makeDirectories_of_widens hwidens]
      rcases t.makeDirectories root names with ⟨dirs, failure⟩
      cases failure <;> rfl
    | false =>
      have hopen : t'.openFailure? (root ++ names) = t.openFailure? (root ++ names) := by
        rw [FileTree.openFailure?, FileTree.openFailure?, FileTree.isDirectory, FileTree.isDirectory,
          hplace names hname hdir]
      rw [if_neg Bool.false_ne_true, if_neg Bool.false_ne_true]
      split
      · rfl
      cases b.screen (some e.declaredSize) (some e.packedSize) with
      | error reason => rfl
      | ok _ =>
        dsimp only
        rw [ofFile, ofFile,
          FileTree.makeDirectories_of_widens (hwidens.mono (List.dropLast_prefix names)), hopen]
        rcases t.makeDirectories root names.dropLast with ⟨dirs, failure⟩
        cases failure with
        | some error => rfl
        | none =>
          dsimp only
          cases t.openFailure? (root ++ names) with
          | some error => rfl
          | none =>
            dsimp only
            rw [FileTree.pending_append,
              FileTree.pending_eq_self fun c hc ↦ (mem_changes_ofContent hc).2]

end Placement

namespace Entry

/-- Does the file of one entry belong where another entry belongs, or above it? -/
def covers (e e' : Entry) : Bool :=
  match EntryName.components e.name, EntryName.components e'.name with
  | .ok names, .ok names' => !e.isDirectory && names.isPrefixOf names'
  | _, _ => false

theorem not_prefix_of_covers {e e' : Entry} {names names' : List String}
    (h : e.covers e' = false) (hnamed : EntryName.components e.name = .ok names)
    (hnamed' : EntryName.components e'.name = .ok names') (hregular : e.isDirectory = false) :
    ¬ names <+: names' := by
  intro hpre
  rw [covers, hnamed, hnamed', hregular] at h
  dsimp only at h
  rw [List.isPrefixOf_iff_prefix.mpr hpre] at h
  exact nomatch h

/-- Two entries of which neither has its file in the way of the other. -/
def Apart : Option Entry → Option Entry → Prop
  | some e, some e' => e.covers e' = false ∧ e'.covers e = false
  | _, _ => True

instance : DecidableRel Apart
  | some e, some e' => inferInstanceAs (Decidable (e.covers e' = false ∧ e'.covers e = false))
  | some _, none | none, some _ | none, none => isTrue trivial

instance : Std.Symm Apart where
  symm
    | some _, some _, h => h.symm
    | some _, none, h | none, some _, h | none, none, h => h

end Entry

/-! ## Two entries that are apart -/

namespace Placement

variable {t : FileTree} {root : Location} {b : Budget} {e e' : Entry}

theorem Reaches.eq_of_apart {names names' : List String} {c d : Change}
    (hc : Reaches t root e names c) (hd : Reaches t root e' names' d)
    (h : e.isDirectory = false → ¬ names <+: names') (h' : e'.isDirectory = false → ¬ names' <+: names)
    (hloc : c.location = d.location) : c = d := by
  cases hc with
  | directory hway _ _ _ =>
    cases hd with
    | directory _ _ _ _ => exact congrArg Change.makeDirectory hloc
    | file hregular hplace _ =>
      exact absurd (List.append_cancel_left (hloc.trans hplace) ▸ hway) (h' hregular)
  | file hregular hplace _ =>
    cases hd with
    | directory hway _ _ _ =>
      exact absurd (List.append_cancel_left (hplace.symm.trans hloc) ▸ hway) (h hregular)
    | file _ hplace' _ =>
      have heq := List.append_cancel_left (hplace.symm.trans (hloc.trans hplace'))
      exact absurd (heq ▸ List.prefix_rfl) (h hregular)

/-- On the way of an entry another one only makes directories. -/
theorem widens_applyAll (h : e.covers e' = false) {names' : List String}
    (hnamed' : EntryName.components e'.name = .ok names') :
    FileTree.Widens root names' t (t.applyAll (ofEntry t root b e).changes) := by
  intro way _ hway
  have hshared : ∀ c ∈ (ofEntry t root b e).changes,
      c.location = root ++ way → c = .makeDirectory (root ++ way) := by
    intro c hc hloc
    obtain ⟨names, hnamed, hreaches⟩ := reaches_of_mem_ofEntry hc
    cases hreaches with
    | directory _ _ _ _ => exact congrArg Change.makeDirectory hloc
    | file hregular hplace _ =>
      have heq := List.append_cancel_left (hplace.symm.trans hloc)
      exact absurd (heq ▸ hway) (Entry.not_prefix_of_covers h hnamed hnamed' hregular)
  by_cases hmem : .makeDirectory (root ++ way) ∈ (ofEntry t root b e).changes
  · obtain ⟨names, -, hreaches⟩ := reaches_of_mem_ofEntry hmem
    obtain ⟨hnone, hshort⟩ := hreaches.missing rfl
    exact .inr ⟨hnone, FileTree.get?_applyAll_of_directory hshared hmem t, hshort⟩
  · exact .inl (FileTree.get?_applyAll_of_ne (fun c hc hloc ↦ hmem (hshared c hc hloc ▸ hc)) t)

/-- The place of a file is not touched by another entry. -/
theorem get?_place_applyAll (h : e.covers e' = false) (h' : e'.covers e = false)
    {names' : List String} (hnamed' : EntryName.components e'.name = .ok names')
    (hregular' : e'.isDirectory = false) :
    (t.applyAll (ofEntry t root b e).changes).get? (root ++ names') = t.get? (root ++ names') := by
  refine FileTree.get?_applyAll_of_ne (fun c hc hloc ↦ ?_) t
  obtain ⟨names, hnamed, hreaches⟩ := reaches_of_mem_ofEntry hc
  cases hreaches with
  | directory hway _ _ _ =>
    have heq := List.append_cancel_left hloc
    exact Entry.not_prefix_of_covers h' hnamed' hnamed hregular' (heq ▸ hway)
  | file hregular hplace _ =>
    have heq := List.append_cancel_left (hplace.symm.trans hloc)
    exact Entry.not_prefix_of_covers h hnamed hnamed' hregular (heq ▸ List.prefix_rfl)

/-- After an entry, the same becomes of one that is apart from it. -/
theorem ofEntry_of_apart (t : FileTree) (root : Location) (b : Budget) (h : e.covers e' = false)
    (h' : e'.covers e = false) :
    let s := t.applyAll (ofEntry t root b e).changes
    (ofEntry s root b e').outcome = (ofEntry t root b e').outcome ∧
      s.applyAll (ofEntry s root b e').changes = s.applyAll (ofEntry t root b e').changes := by
  intro s
  have heq : ofEntry s root b e' =
      { ofEntry t root b e' with changes := s.pending (ofEntry t root b e').changes } :=
    ofEntry_of_widens (fun _ hnamed' ↦ widens_applyAll h hnamed')
      fun _ hnamed' hregular' ↦ get?_place_applyAll h h' hnamed' hregular'
  rw [heq]
  refine ⟨rfl, FileTree.applyAll_pending (fun c hc ↦ ?_) fun d hd hdone c hc hloc ↦ ?_⟩
  · obtain ⟨way, hne, -, hbelow⟩ := (course_ofEntry t root b e').isBelow c hc
    simp [hbelow, hne]
  · obtain ⟨names, hnamed, hreaches⟩ := reaches_of_mem_ofEntry hc
    obtain ⟨names', hnamed', hreaches'⟩ := reaches_of_mem_ofEntry hd
    obtain rfl := Except.ok.inj (hnamed.symm.trans hnamed')
    exact hreaches.eq_of_location hreaches' hdone hloc

/-- Two entries that are apart make their changes in either order. -/
theorem applyAll_comm_of_apart (h : e.covers e' = false) (h' : e'.covers e = false) :
    (t.applyAll (ofEntry t root b e).changes).applyAll (ofEntry t root b e').changes =
      (t.applyAll (ofEntry t root b e').changes).applyAll (ofEntry t root b e).changes := by
  refine FileTree.applyAll_comm (fun c hc d hd hloc ↦ ?_) t
  obtain ⟨names, hnamed, hreaches⟩ := reaches_of_mem_ofEntry hc
  obtain ⟨names', hnamed', hreaches'⟩ := reaches_of_mem_ofEntry hd
  exact hreaches.eq_of_apart hreaches' (Entry.not_prefix_of_covers h hnamed hnamed')
    (Entry.not_prefix_of_covers h' hnamed' hnamed) hloc

end Placement

end CodeSurvey
