import CodeSurvey.SortedMap

/-!
# What sorted maps hold

A map is read through `get?`.  Every operation is described by what it does to
that view, and two maps that agree under `get?` are equal, so a law of maps is a
law of options, key by key.

`Option.merge` is the view of `mergeWith`: a key that only one of the maps has
keeps its value, and a key that both have gets the two values joined.
-/

namespace CodeSurvey.SortedMap

variable {κ ν : Type} [LT κ]

section Lookup

variable [DecidableEq κ]

omit [LT κ] in
theorem lookup_cons_eq_ite (k : κ) (e : κ × ν) (es : List (κ × ν)) :
    (e :: es).lookup k = if k = e.1 then some e.2 else es.lookup k := by
  rw [List.lookup_cons]
  by_cases h : k = e.1
  · simp [h]
  · rw [if_neg h, beq_false_of_ne h]

variable [Std.Irrefl (α := κ) (· < ·)]

omit [DecidableEq κ] in
theorem not_lt_self (k : κ) : ¬ k < k := Std.Irrefl.irrefl (r := (· < ·)) k

/-- A key below all others is not found. -/
theorem lookup_eq_none_of_lt {es : List (κ × ν)} {k : κ} (h : ∀ e ∈ es, k < e.1) :
    es.lookup k = none := by
  rw [List.lookup_eq_none_iff]
  intro e he
  have hne : k ≠ e.1 := fun heq ↦ not_lt_self k (heq ▸ h e he)
  simpa using hne

/-- With strictly increasing keys, an entry is there exactly if it is found under
its key. -/
theorem mem_iff_lookup {es : List (κ × ν)} (h : es.Pairwise fun a b ↦ a.1 < b.1) {k : κ} {v : ν} :
    (k, v) ∈ es ↔ es.lookup k = some v := by
  induction es with
  | nil => simp
  | cons e rest ih =>
    obtain ⟨hhead, htail⟩ := List.pairwise_cons.mp h
    rw [List.mem_cons, ih htail, lookup_cons_eq_ite]
    by_cases hk : k = e.1
    · subst hk
      rw [lookup_eq_none_of_lt hhead]
      simp [Prod.ext_iff, eq_comm]
    · rw [if_neg hk]
      constructor
      · rintro (rfl | hmem)
        · exact absurd rfl hk
        · exact hmem
      · exact Or.inr

theorem mem_entries {m : SortedMap κ ν} {k : κ} {v : ν} : (k, v) ∈ m.entries ↔ m.get? k = some v :=
  mem_iff_lookup m.sorted

theorem mem_keys {m : SortedMap κ ν} {k : κ} : k ∈ m.keys ↔ (m.get? k).isSome = true := by
  rw [keys, List.mem_map, Option.isSome_iff_exists]
  exact ⟨fun ⟨⟨_, v⟩, he, hk⟩ ↦ ⟨v, hk ▸ mem_entries.mp he⟩, fun ⟨v, hv⟩ ↦ ⟨(k, v), mem_entries.mpr hv, rfl⟩⟩

theorem mem_values {m : SortedMap κ ν} {v : ν} : v ∈ m.values ↔ ∃ k, m.get? k = some v := by
  rw [values, List.mem_map]
  exact ⟨fun ⟨⟨k, _⟩, he, hv⟩ ↦ ⟨k, hv ▸ mem_entries.mp he⟩, fun ⟨k, hk⟩ ↦ ⟨(k, v), mem_entries.mpr hk, rfl⟩⟩

omit [DecidableEq κ] in
theorem nodup_entries (m : SortedMap κ ν) : m.entries.Nodup := by
  refine List.Pairwise.imp (fun {a b} hlt heq ↦ ?_) m.sorted
  rw [heq] at hlt
  exact not_lt_self b.1 hlt

/-- Leaving out keys leaves the others as they are. -/
theorem get?_filterKeys (m : SortedMap κ ν) (keep : κ → Bool) (k : κ) :
    (m.filterKeys keep).get? k = if keep k then m.get? k else none := by
  ext v
  rw [← mem_entries, filterKeys, List.mem_filter, mem_entries]
  by_cases h : keep k <;> simp [h]

theorem get?_erase (m : SortedMap κ ν) (k k' : κ) :
    (m.erase k).get? k' = if k' = k then none else m.get? k' := by
  rw [erase, get?_filterKeys]
  by_cases h : k' = k <;> simp [h]

/-- Maps that agree on every key are equal. -/
theorem ext_get? [Trans (α := κ) (· < ·) (· < ·) (· < ·)] {m n : SortedMap κ ν}
    (h : ∀ k, m.get? k = n.get? k) : m = n := by
  have hperm : m.entries.Perm n.entries := by
    rw [List.perm_ext_iff_of_nodup m.nodup_entries n.nodup_entries]
    rintro ⟨k, v⟩
    rw [mem_entries, mem_entries, h k]
  refine ext (hperm.eq_of_pairwise (fun a b _ _ hab hba ↦ ?_) m.sorted n.sorted)
  exact absurd (Trans.trans hab hba) (not_lt_self a.1)

end Lookup

section Alter

variable [DecidableLT κ] [Trans (α := κ) (· < ·) (· < ·) (· < ·)]

@[simp] theorem mergeWith_empty (join : ν → ν → ν) (m : SortedMap κ ν) :
    m.mergeWith join ∅ = m := rfl

section Weight

-- Weights are natural numbers, or machine words, of which sums wrap around.
variable {N : Type} [Add N] [Zero N] [Std.Associative (α := N) (· + ·)] [Std.Commutative (α := N) (· + ·)]
  (weight : ν → N) {f : Option ν → ν} {n : N}

omit [Trans (α := κ) (· < ·) (· < ·) (· < ·)] in
theorem sum_alterList (hnew : weight (f none) = n) (hold : ∀ v, weight (f (some v)) = weight v + n)
    (k : κ) (es : List (κ × ν)) :
    (((alterList k f es).map Prod.snd).map weight).sum = ((es.map Prod.snd).map weight).sum + n := by
  induction es with
  | nil =>
    rw [alterList, List.map_singleton, List.map_singleton, hnew, List.sum_cons]
    ac_rfl
  | cons e rest ih =>
    unfold alterList
    split
    next =>
      rw [List.map_cons, List.map_cons, List.sum_cons, hnew]
      ac_rfl
    next =>
      split
      next =>
        simp only [List.map_cons, List.sum_cons, ih]
        ac_rfl
      next =>
        simp only [List.map_cons, List.sum_cons, hold]
        ac_rfl

/-- A change that makes one value weigh more makes all values together weigh so much more. -/
theorem sum_weights_alter (hnew : weight (f none) = n) (hold : ∀ v, weight (f (some v)) = weight v + n)
    (m : SortedMap κ ν) (k : κ) :
    ((m.alter k f).values.map weight).sum = (m.values.map weight).sum + n :=
  sum_alterList weight hnew hold k m.entries

/-- To count so many more under some key makes all counts together so much more. -/
theorem sum_values_alter [Std.LawfulLeftIdentity (α := N) (· + ·) 0] (m : SortedMap κ N) (k : κ) (n : N) :
    (m.alter k fun old ↦ old.getD 0 + n).values.sum = m.values.sum + n := by
  have hnew : id ((none : Option N).getD 0 + n) = n := @Std.LawfulLeftIdentity.left_id N N (· + ·) 0 _ n
  have hweights := sum_weights_alter id (f := fun old ↦ old.getD 0 + n) hnew (fun _ ↦ rfl) m k
  rwa [List.map_id, List.map_id] at hweights

end Weight

variable [DecidableEq κ] [Std.Irrefl (α := κ) (· < ·)] [Std.Trichotomous (α := κ) (· < ·)]

theorem lookup_alterList {es : List (κ × ν)} (h : es.Pairwise fun a b ↦ a.1 < b.1) (k k' : κ)
    (f : Option ν → ν) :
    (alterList k f es).lookup k' = if k' = k then some (f (es.lookup k)) else es.lookup k' := by
  induction es with
  | nil => rw [alterList, lookup_cons_eq_ite]; rfl
  | cons e rest ih =>
    obtain ⟨hhead, htail⟩ := List.pairwise_cons.mp h
    unfold alterList
    split
    next hlt =>
      have habsent : (e :: rest).lookup k = none := by
        refine lookup_eq_none_of_lt fun e' he' ↦ ?_
        rcases List.mem_cons.mp he' with rfl | he'
        · exact hlt
        · exact Trans.trans hlt (hhead e' he')
      rw [lookup_cons_eq_ite, habsent]
    next hnlt =>
      split
      next hgt =>
        have hne : k ≠ e.1 := fun heq ↦ not_lt_self k (by rw [← heq] at hgt; exact hgt)
        simp only [lookup_cons_eq_ite, ih htail, if_neg hne]
        by_cases hk : k' = k
        · rw [if_pos hk, if_pos hk, if_neg (hk ▸ hne)]
        · rw [if_neg hk, if_neg hk]
      next hngt =>
        have heq : k = e.1 := Std.Trichotomous.trichotomous (r := (· < ·)) k e.1 hnlt hngt
        simp only [lookup_cons_eq_ite, ← heq, if_true]
        by_cases hk : k' = k
        · rw [if_pos hk, if_pos hk]
        · rw [if_neg hk, if_neg hk, if_neg hk]

theorem get?_alter (m : SortedMap κ ν) (k k' : κ) (f : Option ν → ν) :
    (m.alter k f).get? k' = if k' = k then some (f (m.get? k)) else m.get? k' :=
  lookup_alterList m.sorted k k' f

theorem get?_insert (m : SortedMap κ ν) (k k' : κ) (v : ν) :
    (m.insert k v).get? k' = if k' = k then some v else m.get? k' :=
  get?_alter m k k' fun _ ↦ v

/-! ## Merging -/

/-- What bringing in entries, one after the other, makes of a key. -/
theorem get?_foldl_alter (join : ν → ν → ν) {es : List (κ × ν)}
    (h : es.Pairwise fun a b ↦ a.1 < b.1) (m : SortedMap κ ν) (k : κ) :
    (es.foldl (fun m e ↦ m.alter e.1 fun old ↦ (old.map (join · e.2)).getD e.2) m).get? k =
      (m.get? k).merge join (es.lookup k) := by
  induction es generalizing m with
  | nil => simp
  | cons e rest ih =>
    obtain ⟨hhead, htail⟩ := List.pairwise_cons.mp h
    rw [List.foldl_cons, ih htail, get?_alter, lookup_cons_eq_ite]
    by_cases hk : k = e.1
    · subst hk
      rw [lookup_eq_none_of_lt hhead]
      cases m.get? e.1 <;> simp
    · rw [if_neg hk, if_neg hk]

/-- A merged map has the joined values, key by key. -/
theorem get?_mergeWith (join : ν → ν → ν) (m n : SortedMap κ ν) (k : κ) :
    (m.mergeWith join n).get? k = (m.get? k).merge join (n.get? k) :=
  get?_foldl_alter join n.sorted m k

/-- A merged map has the keys of both maps. -/
theorem mem_keys_mergeWith {join : ν → ν → ν} {m n : SortedMap κ ν} {k : κ} :
    k ∈ (m.mergeWith join n).keys ↔ k ∈ m.keys ∨ k ∈ n.keys := by
  rw [mem_keys, mem_keys, mem_keys, get?_mergeWith, Option.isSome_merge, Bool.or_eq_true]

/-- What holds of the values of both maps holds of those of the merged map if joining keeps it. -/
theorem forall_mem_values_mergeWith {p : ν → Prop} {join : ν → ν → ν}
    (hjoin : ∀ v w, p v → p w → p (join v w)) {m n : SortedMap κ ν} (hm : ∀ v ∈ m.values, p v)
    (hn : ∀ v ∈ n.values, p v) : ∀ v ∈ (m.mergeWith join n).values, p v := by
  simp only [mem_values, forall_exists_index] at hm hn ⊢
  intro v k hv
  rw [get?_mergeWith, Option.merge_eq_some_iff] at hv
  rcases hv with ⟨hleft, -⟩ | ⟨-, hright⟩ | ⟨a, b, hleft, hright, rfl⟩
  · exact hm v k hleft
  · exact hn v k hright
  · exact hjoin a b (hm a k hleft) (hn b k hright)

@[simp] theorem empty_mergeWith (join : ν → ν → ν) (n : SortedMap κ ν) :
    (∅ : SortedMap κ ν).mergeWith join n = n := by
  refine ext_get? fun k ↦ ?_
  have hnone : (∅ : SortedMap κ ν).get? k = none := rfl
  rw [get?_mergeWith, hnone, Option.merge_none_left]

theorem mergeWith_assoc (join : ν → ν → ν) [Std.Associative join] (l m n : SortedMap κ ν) :
    (l.mergeWith join m).mergeWith join n = l.mergeWith join (m.mergeWith join n) := by
  refine ext_get? fun k ↦ ?_
  have hassoc : Std.Associative (Option.merge join) := inferInstance
  simp only [get?_mergeWith]
  exact hassoc.assoc ..

theorem mergeWith_comm (join : ν → ν → ν) [Std.Commutative join] (m n : SortedMap κ ν) :
    m.mergeWith join n = n.mergeWith join m := by
  refine ext_get? fun k ↦ ?_
  have hcomm : Std.Commutative (Option.merge join) := inferInstance
  rw [get?_mergeWith, get?_mergeWith]
  exact hcomm.comm ..

/-- Two maps may be brought into a third in either order. -/
theorem mergeWith_right_comm (join : ν → ν → ν) [Std.Associative join] [Std.Commutative join]
    (l m n : SortedMap κ ν) :
    (l.mergeWith join m).mergeWith join n = (l.mergeWith join n).mergeWith join m := by
  rw [mergeWith_assoc, mergeWith_comm join m n, mergeWith_assoc]

/-- Altering a merged map is altering the map that was merged into the other, if
the change goes past the value that is joined in front. -/
theorem alter_mergeWith {join : ν → ν → ν} {f : Option ν → ν}
    (hf : ∀ a b : Option ν, some (f (a.merge join b)) = a.merge join (some (f b)))
    (m n : SortedMap κ ν) (k : κ) :
    (m.mergeWith join n).alter k f = m.mergeWith join (n.alter k f) := by
  refine ext_get? fun k' ↦ ?_
  simp only [get?_alter, get?_mergeWith]
  by_cases hk : k' = k
  · rw [if_pos hk, if_pos hk, hk, hf]
  · rw [if_neg hk, if_neg hk]

/-- The same for changes made one after the other. -/
theorem foldl_alter_mergeWith {α : Type} {join : ν → ν → ν} (key : α → κ) {f : α → Option ν → ν}
    (hf : ∀ x, ∀ a b : Option ν, some (f x (a.merge join b)) = a.merge join (some (f x b)))
    (m n : SortedMap κ ν) (xs : List α) :
    xs.foldl (fun n x ↦ n.alter (key x) (f x)) (m.mergeWith join n) =
      m.mergeWith join (xs.foldl (fun n x ↦ n.alter (key x) (f x)) n) := by
  induction xs generalizing n with
  | nil => rfl
  | cons x rest ih => rw [List.foldl_cons, List.foldl_cons, alter_mergeWith (hf x), ih]

end Alter

end CodeSurvey.SortedMap
