import CodeSurvey.Proofs.Model.Contribution

/-!
# What models count

A model counts frameworks, files of each language and classes, in machine words.  Its
counters move on by what facts tell, and start again from zero where a word ends: what
is known of them is known modulo `2 ^ 64`.
-/

namespace CodeSurvey

open Model

section CountUp

variable {κ : Type} [LT κ] [DecidableEq κ] [DecidableLT κ] [Trans (α := κ) (· < ·) (· < ·) (· < ·)]
  [Std.Irrefl (α := κ) (· < ·)] [Std.Trichotomous (α := κ) (· < ·)]

/-- Keys that are counted one after the other: one that never comes up stays as it is, and
another one moves on by the number of times that it does. -/
theorem SortedMap.get?_foldl_countUp (ks : List κ) (m : SortedMap κ UInt64) (k : κ) :
    (ks.foldl (fun m k ↦ m.alter k countUp) m).get? k =
      if k ∈ ks then some ((m.get? k).getD 0 + .ofNat (ks.count k)) else m.get? k := by
  induction ks generalizing m with
  | nil => exact (if_neg List.not_mem_nil).symm
  | cons first rest ih =>
    rw [List.foldl_cons, ih, get?_alter]
    by_cases hfirst : k = first
    · subst hfirst
      have hone : ∀ old : UInt64, old + .ofNat (rest.count k + 1) = old + 1 + .ofNat (rest.count k) := by
        intro old
        rw [Nat.add_comm, UInt64.ofNat_add, ← UInt64.add_assoc]
        rfl
      rw [if_pos rfl, if_pos List.mem_cons_self, List.count_cons_self, hone]
      split
      next => rfl
      next hmem =>
        rw [List.count_eq_zero.mpr hmem]
        exact congrArg some (UInt64.add_zero _).symm
    · have hmem : k ∈ first :: rest ↔ k ∈ rest := by
        rw [List.mem_cons]
        exact or_iff_right hfirst
      simp only [if_neg hfirst, hmem, List.count_cons_of_ne (Ne.symm hfirst)]

theorem SortedMap.get?_foldl_countUp_empty (ks : List κ) (k : κ) :
    (ks.foldl (fun m k ↦ m.alter k countUp) (∅ : SortedMap κ UInt64)).get? k =
      if k ∈ ks then some (.ofNat (ks.count k)) else none := by
  have hnone : (∅ : SortedMap κ UInt64).get? k = none := rfl
  rw [get?_foldl_countUp, hnone, Option.getD_none, UInt64.zero_add]

theorem SortedMap.getD_foldl_countUp (ks : List κ) (m : SortedMap κ UInt64) (k : κ) :
    (((ks.foldl (fun m k ↦ m.alter k countUp) m).get? k).getD 0).toNat =
      (((m.get? k).getD 0).toNat + ks.count k) % 2 ^ 64 := by
  rw [get?_foldl_countUp]
  split
  next =>
    rw [Option.getD_some, UInt64.toNat_add, UInt64.toNat_ofNat']
    exact Nat.add_mod_mod ..
  next hmem =>
    rw [List.count_eq_zero.mpr hmem, Nat.add_zero]
    exact (Nat.mod_eq_of_lt (UInt64.toNat_lt _)).symm

omit [DecidableEq κ] [Std.Irrefl (α := κ) (· < ·)] [Std.Trichotomous (α := κ) (· < ·)] in
/-- Whatever key is counted, all counts together move on by one. -/
theorem SortedMap.total_foldl_countUp (ks : List κ) (m : SortedMap κ UInt64) :
    (total (ks.foldl (fun m k ↦ m.alter k countUp) m).values).toNat =
      ((total m.values).toNat + ks.length) % 2 ^ 64 := by
  induction ks generalizing m with
  | nil => exact (Nat.mod_eq_of_lt (UInt64.toNat_lt _)).symm
  | cons k rest ih =>
    have hone : total (m.alter k countUp).values = total m.values + 1 := m.sum_values_alter k 1
    rw [List.foldl_cons, ih, hone, UInt64.toNat_add, Nat.mod_add_mod, List.length_cons, Nat.add_assoc,
      Nat.add_comm rest.length]
    rfl

end CountUp

section

variable (facts : List Fact)

theorem Fact.count_framework? (name : String) :
    (facts.filterMap Fact.framework?).count name = facts.count (.framework name) := by
  rw [List.count_filterMap, List.count]
  refine List.countP_congr fun f _ ↦ ?_
  cases f <;> simp [Fact.framework?]

theorem Fact.count_language? (l : Language) :
    (facts.filterMap Fact.language?).count l = facts.count (.file l) := by
  rw [List.count_filterMap, List.count]
  refine List.countP_congr fun f _ ↦ ?_
  cases f <;> simp [Fact.language?]

namespace Model

variable (m : Model)

theorem frameworkCount_addAll (name : String) : (m.addAll facts).frameworkCount name =
    (m.frameworkCount name + facts.count (.framework name)) % 2 ^ 64 := by
  rw [← Fact.count_framework?]
  exact SortedMap.getD_foldl_countUp ..

theorem fileCount_addAll (l : Language) :
    (m.addAll facts).fileCount l = (m.fileCount l + facts.count (.file l)) % 2 ^ 64 := by
  rw [← Fact.count_language?]
  exact SortedMap.getD_foldl_countUp ..

/-- A framework has a count in the model of some facts exactly if they tell of it. -/
theorem get?_frameworks_ofFacts (name : String) : (ofFacts facts).frameworks.get? name =
    if .framework name ∈ facts then some (.ofNat (facts.count (.framework name))) else none := by
  have hmem : name ∈ facts.filterMap Fact.framework? ↔ .framework name ∈ facts := by
    rw [← List.count_pos_iff, Fact.count_framework?, List.count_pos_iff]
  have hcounted := SortedMap.get?_foldl_countUp_empty (facts.filterMap Fact.framework?) name
  simp only [Fact.count_framework?, hmem] at hcounted
  exact hcounted

theorem get?_languageFiles_ofFacts (l : Language) : (ofFacts facts).languageFiles.get? l =
    if .file l ∈ facts then some (.ofNat (facts.count (.file l))) else none := by
  have hmem : l ∈ facts.filterMap Fact.language? ↔ .file l ∈ facts := by
    rw [← List.count_pos_iff, Fact.count_language?, List.count_pos_iff]
  have hcounted := SortedMap.get?_foldl_countUp_empty (facts.filterMap Fact.language?) l
  simp only [Fact.count_language?, hmem] at hcounted
  exact hcounted

theorem classCount_addAll : (m.addAll facts).classCount.toNat =
    (m.classCount.toNat + (facts.map (·.classCount.toNat)).sum) % 2 ^ 64 := by
  induction facts generalizing m with
  | nil =>
    rw [addAll_nil]
    exact (Nat.mod_eq_of_lt m.classCount.toNat_lt).symm
  | cons f rest ih =>
    have hone : (m.add f).classCount = m.classCount + f.classCount := by
      rw [add, addAll, List.map_singleton, total_cons, total_nil, UInt64.add_zero]
    rw [addAll_cons, ih, hone, UInt64.toNat_add, List.map_cons, List.sum_cons, Nat.mod_add_mod,
      Nat.add_assoc]

omit m in
variable {facts} in
theorem total_classCount_eq_zero (h : ∀ f ∈ facts, f.classCount = 0) :
    total (facts.map Fact.classCount) = 0 := by
  induction facts with
  | nil => rfl
  | cons f rest ih =>
    obtain ⟨hf, hrest⟩ := List.forall_mem_cons.mp h
    rw [List.map_cons, total_cons, hf, ih hrest]
    rfl

theorem totalFiles_addAll : (m.addAll facts).totalFiles =
    (m.totalFiles + (facts.filterMap Fact.language?).length) % 2 ^ 64 :=
  SortedMap.total_foldl_countUp ..

end Model

end

end CodeSurvey
