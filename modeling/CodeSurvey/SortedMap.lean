import CodeSurvey.Instances

/-!
# Maps in key order

A finite map held as a list of entries with strictly increasing keys. Two maps with the same entries
are equal, and listing a map shows its keys in order. A set is a map to the unit type.
-/

namespace CodeSurvey

/-- A finite map whose entries are kept in strictly increasing order of their keys. -/
structure SortedMap (κ ν : Type) [LT κ] where
  entries : List (κ × ν)
  sorted : entries.Pairwise fun a b => a.1 < b.1

namespace SortedMap

variable {κ ν : Type} [LT κ]

/-- A map is determined by its entries. -/
@[ext] theorem ext {m n : SortedMap κ ν} (h : m.entries = n.entries) : m = n := by
  cases m; cases n; cases h; rfl

instance [DecidableEq κ] [DecidableEq ν] : DecidableEq (SortedMap κ ν) := fun m n =>
  if h : m.entries = n.entries then isTrue (ext h) else isFalse fun e => h (e ▸ rfl)

def empty : SortedMap κ ν := ⟨[], .nil⟩

instance : EmptyCollection (SortedMap κ ν) := ⟨empty⟩
instance : Inhabited (SortedMap κ ν) := ⟨empty⟩

@[simp] theorem entries_empty : (∅ : SortedMap κ ν).entries = [] := rfl

def keys (m : SortedMap κ ν) : List κ := m.entries.map Prod.fst

def values (m : SortedMap κ ν) : List ν := m.entries.map Prod.snd

def size (m : SortedMap κ ν) : Nat := m.entries.length

def get? [DecidableEq κ] (m : SortedMap κ ν) (k : κ) : Option ν := m.entries.lookup k

section Alter

variable [DecidableLT κ]

/-- Replaces the value at `k` by what `f` makes of it, at the place where `k` belongs. -/
def alterList (k : κ) (f : Option ν → ν) : List (κ × ν) → List (κ × ν)
  | [] => [(k, f none)]
  | (k', v) :: rest =>
    if k < k' then (k, f none) :: (k', v) :: rest
    else if k' < k then (k', v) :: alterList k f rest
    else (k', f (some v)) :: rest

theorem mem_alterList {k : κ} {f : Option ν → ν} {es : List (κ × ν)} {e : κ × ν}
    (h : e ∈ alterList k f es) : e.1 = k ∨ ∃ e' ∈ es, e'.1 = e.1 := by
  induction es with
  | nil => simp_all [alterList]
  | cons a rest ih =>
    obtain ⟨k', v⟩ := a
    unfold alterList at h
    split at h
    · rcases List.mem_cons.1 h with rfl | h
      · exact .inl rfl
      · exact .inr ⟨e, h, rfl⟩
    · split at h
      · rcases List.mem_cons.1 h with rfl | h
        · exact .inr ⟨_, List.mem_cons_self .., rfl⟩
        · rcases ih h with h | ⟨e', he', heq⟩
          · exact .inl h
          · exact .inr ⟨e', List.mem_cons_of_mem _ he', heq⟩
      · rcases List.mem_cons.1 h with rfl | h
        · exact .inr ⟨_, List.mem_cons_self .., rfl⟩
        · exact .inr ⟨e, List.mem_cons_of_mem _ h, rfl⟩

theorem sorted_alterList [Trans (α := κ) (· < ·) (· < ·) (· < ·)] {k : κ} {f : Option ν → ν}
    {es : List (κ × ν)} (h : es.Pairwise fun a b => a.1 < b.1) :
    (alterList k f es).Pairwise fun a b => a.1 < b.1 := by
  induction es with
  | nil => simp [alterList]
  | cons a rest ih =>
    obtain ⟨k', v⟩ := a
    obtain ⟨hhead, htail⟩ := List.pairwise_cons.1 h
    unfold alterList
    split
    next hlt =>
      refine List.pairwise_cons.2 ⟨fun e he => ?_, h⟩
      rcases List.mem_cons.1 he with rfl | he
      · exact hlt
      · exact Trans.trans hlt (hhead e he)
    next =>
      split
      next hgt =>
        refine List.pairwise_cons.2 ⟨fun e he => ?_, ih htail⟩
        rcases mem_alterList he with heq | ⟨e', he', heq⟩
        · exact heq ▸ hgt
        · exact heq ▸ hhead e' he'
      next => exact List.pairwise_cons.2 ⟨hhead, htail⟩

variable [Trans (α := κ) (· < ·) (· < ·) (· < ·)]

/-- Replaces the value at `k` by what `f` makes of it; `f` sees `none` where `k` is new. -/
def alter (m : SortedMap κ ν) (k : κ) (f : Option ν → ν) : SortedMap κ ν :=
  ⟨alterList k f m.entries, sorted_alterList m.sorted⟩

def insert (m : SortedMap κ ν) (k : κ) (v : ν) : SortedMap κ ν := m.alter k fun _ => v

/-- Brings the entries of `n` into `m`, joining the values of a key that both have. -/
def mergeWith (join : ν → ν → ν) (m n : SortedMap κ ν) : SortedMap κ ν :=
  n.entries.foldl (fun m e => m.alter e.1 fun old => (old.map (join · e.2)).getD e.2) m

end Alter

/-- The map without the keys that fail the test. -/
def filterKeys (m : SortedMap κ ν) (keep : κ → Bool) : SortedMap κ ν :=
  ⟨m.entries.filter fun e => keep e.1, m.sorted.filter _⟩

def erase [DecidableEq κ] (m : SortedMap κ ν) (k : κ) : SortedMap κ ν := m.filterKeys (· ≠ k)

end SortedMap

/-- A finite set, listed in order. -/
abbrev SortedSet (κ : Type) [LT κ] := SortedMap κ Unit

end CodeSurvey
