import CodeSurvey.Intake.Workspace
import CodeSurvey.Proofs.FileTree.Change
import Mathlib.Data.List.Nodup
import Mathlib.Data.List.Perm.Subperm

/-!
# Workspaces are fresh

Each node of a tree stands in the way of at most one of the names that a workspace
may have, and there is one name more than there are nodes.  So a workspace is always
made where nothing is, and it is empty when it has been made.
-/

namespace CodeSurvey

namespace Workspace

/-- Different workspaces have different names. -/
theorem name_injective : Function.Injective name := by
  intro m n h
  have value (k : Nat) : Nat.ofDigitChars 10 ((name k).toList.drop "archlens-".length) 0 = k := by
    rw [name, String.toList_append, ← String.length_toList, List.drop_left, String.toList_ofList,
      Nat.ofDigitChars_append, Nat.ofDigitChars_replicate_zero, Nat.mul_zero,
      Nat.ofDigitChars_ten_toDigits]
  rw [← value m, h, value n]

/-- What stands in the way of a workspace is something at its place or below. -/
theorem exists_entry_of_blocked {t : FileTree} {loc : Location} (hne : loc ≠ [])
    (h : ¬ (t.get? loc = none ∧ t.below loc = [])) :
    ∃ entry ∈ t.nodes.entries, loc <+: entry.1 := by
  have entry_of_get? (names : Location) (n : Node) (hget : t.get? (loc ++ names) = some n) :
      ∃ entry ∈ t.nodes.entries, loc <+: entry.1 := by
    rw [FileTree.get?_of_ne (by simp [hne])] at hget
    exact ⟨_, SortedMap.mem_entries.mpr hget, List.prefix_append ..⟩
  cases hget : t.get? loc with
  | some n => exact entry_of_get? [] n (by rwa [List.append_nil])
  | none =>
    have hbelow : t.below loc ≠ [] := fun hnil ↦ h ⟨hget, hnil⟩
    obtain ⟨⟨names, n⟩, hmem⟩ := List.exists_mem_of_ne_nil _ hbelow
    exact entry_of_get? names n (FileTree.mem_below.mp hmem).2

/-- A workspace is made where nothing is, and nothing below. -/
theorem fresh (t : FileTree) : t.get? (location t) = none ∧ t.below (location t) = [] := by
  unfold location
  dsimp only
  cases hfind : ((List.range (t.nodes.size + 1)).map fun n ↦ parent ++ [name n]).find? fun loc ↦
      t.get? loc = none && (t.below loc).isEmpty with
  | some loc => simpa using List.find?_some hfind
  | none =>
    exfalso
    have hblocked : ((List.range (t.nodes.size + 1)).map fun n ↦ parent ++ [name n]) ⊆
        t.nodes.entries.map fun entry ↦ entry.1.take 2 := by
      intro loc hloc
      have hno := List.find?_eq_none.mp hfind loc hloc
      obtain ⟨n, -, rfl⟩ := List.mem_map.mp hloc
      have hne : parent ++ [name n] ≠ [] := by simp
      obtain ⟨entry, hentry, hlead⟩ := exists_entry_of_blocked hne (by simpa using hno)
      exact List.mem_map.mpr ⟨entry, hentry, (List.prefix_iff_eq_take.mp hlead).symm⟩
    have hnodup : ((List.range (t.nodes.size + 1)).map fun n ↦ parent ++ [name n]).Nodup := by
      refine List.Nodup.map (fun m n heq ↦ name_injective ?_) List.nodup_range
      simpa using heq
    have hlength := (hnodup.subperm hblocked).length_le
    rw [List.length_map, List.length_map, List.length_range, SortedMap.size] at hlength
    omega

theorem exists_location_eq (t : FileTree) : ∃ n, location t = parent ++ [name n] := by
  unfold location
  dsimp only
  cases hfind : ((List.range (t.nodes.size + 1)).map fun n ↦ parent ++ [name n]).find? fun loc ↦
      t.get? loc = none && (t.below loc).isEmpty with
  | none => exact ⟨0, rfl⟩
  | some loc =>
    obtain ⟨n, -, rfl⟩ := List.mem_map.mp (List.mem_of_find?_eq_some hfind)
    exact ⟨n, rfl⟩

theorem location_ne_nil (t : FileTree) : location t ≠ [] := by
  obtain ⟨n, hn⟩ := exists_location_eq t
  rw [hn]
  simp

/-- Nothing is in the place of a workspace before it is made. -/
theorem get?_location_append (t : FileTree) (names : List String) :
    t.get? (location t ++ names) = none := by
  by_cases hne : names = []
  · rw [hne, List.append_nil, (fresh t).1]
  · cases hget : t.get? (location t ++ names) with
    | none => rfl
    | some n =>
      have hmem : (names, n) ∈ t.below (location t) := FileTree.mem_below.mpr ⟨hne, hget⟩
      rw [(fresh t).2] at hmem
      exact nomatch hmem

/-- Is nothing where a workspace with the `n`th name would be? -/
def IsFree (t : FileTree) (n : Nat) : Prop := ∀ names, t.get? (parent ++ [name n] ++ names) = none

theorem IsFree.get?_below {t : FileTree} {n : Nat} (h : IsFree t n) :
    t.get? (parent ++ [name n]) = none ∧ t.below (parent ++ [name n]) = [] := by
  refine ⟨by simpa using h [], List.eq_nil_iff_forall_not_mem.mpr fun ⟨names, below⟩ hmem ↦ ?_⟩
  exact nomatch (h names).symm.trans (FileTree.mem_below.mp hmem).2

/-- Every name is free where there are no temporary files. -/
theorem isFree_of_below_eq_nil {t : FileTree} (h : t.below parent = []) (n : Nat) : IsFree t n := by
  intro names
  cases hget : t.get? (parent ++ [name n] ++ names) with
  | none => rfl
  | some below =>
    rw [List.append_assoc] at hget
    have hmem : ([name n] ++ names, below) ∈ t.below parent := FileTree.mem_below.mpr ⟨nofun, hget⟩
    rw [h] at hmem
    cases hmem

/-- The first name that is free is taken. -/
theorem exists_location_le {t : FileTree} {n : Nat} (h : IsFree t n) :
    ∃ k ≤ n, location t = parent ++ [name k] := by
  unfold location
  dsimp only
  rw [List.find?_map]
  cases hfind : (List.range (t.nodes.size + 1)).find? ((fun loc ↦
      t.get? loc = none && (t.below loc).isEmpty) ∘ fun n ↦ parent ++ [name n]) with
  | none => exact ⟨0, Nat.zero_le n, rfl⟩
  | some k =>
    obtain ⟨-, -, hfirst⟩ := List.find?_range_eq_some.mp hfind
    refine ⟨k, Nat.le_of_not_lt fun hlt ↦ ?_, rfl⟩
    obtain ⟨hget, hbelow⟩ := h.get?_below
    simpa [hget, hbelow] using hfirst n hlt

/-- Digits take one byte each. -/
theorem utf8ByteSize_of_digits {cs : List Char} (h : ∀ c ∈ cs, c.isDigit = true) :
    (String.ofList cs).utf8ByteSize = cs.length := by
  induction cs with
  | nil => rfl
  | cons c cs ih =>
    obtain ⟨hc, hrest⟩ := List.forall_mem_cons.mp h
    have hone : c.utf8Size = 1 := by
      rw [Char.isDigit, Bool.and_eq_true, decide_eq_true_eq, decide_eq_true_eq] at hc
      exact Char.utf8Size_eq_one_iff.mpr (UInt32.le_trans hc.2 (by decide))
    rw [← List.singleton_append, String.ofList_append, String.utf8ByteSize_append, ih hrest,
      List.length_append, ← String.singleton_eq_ofList, String.utf8ByteSize_singleton,
      hone]
    rfl

/-- The names below a million have six digits. -/
theorem utf8ByteSize_name {n : Nat} (h : n < 10 ^ 6) : (name n).utf8ByteSize = 15 := by
  have hlength : (Nat.toDigits 10 n).length ≤ 6 :=
    (Nat.length_toDigits_le_iff (by decide) (by decide)).mpr h
  have hdigits : ∀ c ∈ List.replicate (6 - (Nat.toDigits 10 n).length) '0' ++ Nat.toDigits 10 n,
      c.isDigit = true := by
    intro c hc
    rcases List.mem_append.mp hc with hzero | hdigit
    · rw [List.eq_of_mem_replicate hzero]
      decide
    · exact Nat.isDigit_of_mem_toDigits (by decide) (by decide) hdigit
  have hlead : "archlens-".utf8ByteSize = 9 := rfl
  rw [name, String.utf8ByteSize_append, utf8ByteSize_of_digits hdigits, List.length_append,
    List.length_replicate, hlead]
  omega

/-- A workspace has a path of the usual length as long as one of the names of six digits is free. -/
theorem utf8ByteSize_path_location {t : FileTree} {n : Nat} (h : IsFree t n) (hn : n < 10 ^ 6) :
    (Location.path (location t)).utf8ByteSize = 20 := by
  obtain ⟨k, hk, hlocation⟩ := exists_location_le h
  have hparent : (Location.path parent).utf8ByteSize = 4 := rfl
  have hone : "/".intercalate [name k] = name k := String.intercalate_singleton
  rw [hlocation, Location.utf8ByteSize_path_append (by simp [parent]) (by simp), hparent, hone,
    utf8ByteSize_name (Nat.lt_of_le_of_lt hk hn)]

/-- There are two names of six digits left for workspaces. -/
def HasRoom (t : FileTree) : Prop := ∃ m n, m < n ∧ n < 10 ^ 6 ∧ IsFree t m ∧ IsFree t n

theorem hasRoom_of_below_eq_nil {t : FileTree} (h : t.below parent = []) : HasRoom t :=
  ⟨0, 1, by decide, by decide, isFree_of_below_eq_nil h 0, isFree_of_below_eq_nil h 1⟩

/-- What comes to stand on the way to one place leaves one of these names free. -/
theorem HasRoom.exists_isFree {t t' : FileTree} {place : Location} (h : HasRoom t)
    (hkept : ∀ loc, ¬loc <+: place → t'.get? loc = t.get? loc) :
    ∃ n < 10 ^ 6, IsFree t n ∧ IsFree t' n := by
  obtain ⟨m, n, hlt, hn, hm, hfree⟩ := h
  by_cases hplace : parent ++ [name m] <+: place
  · refine ⟨n, hn, hfree, fun names ↦ ?_⟩
    rw [hkept _ fun hway ↦ ?_, hfree]
    have hboth := List.prefix_of_prefix_length_le hplace ((List.prefix_append ..).trans hway) (Nat.le_refl _)
    have hname : name m = name n := by simpa using hboth
    exact Nat.ne_of_lt hlt (name_injective hname)
  · refine ⟨m, Nat.lt_trans hlt hn, hm, fun names ↦ ?_⟩
    rw [hkept _ fun hway ↦ hplace ((List.prefix_append ..).trans hway), hm]

/-- A workspace that has just been made is empty. -/
theorem isEmptyDirectory (t : FileTree) :
    (t.insert (location t) .directory).IsEmptyDirectory (location t) where
  isDirectory := by
    rw [FileTree.isDirectory, FileTree.get?_insert (location_ne_nil t), if_pos rfl]
    exact decide_eq_true rfl
  below_eq_nil := by
    refine List.eq_nil_iff_forall_not_mem.mpr fun ⟨names, n⟩ hmem ↦ ?_
    obtain ⟨hne, hget⟩ := FileTree.mem_below.mp hmem
    rw [FileTree.get?_insert (by simp [hne]), if_neg (by simp [hne]), get?_location_append] at hget
    cases hget

end Workspace

end CodeSurvey
