import CodeSurvey.Analyzer.Basic
import CodeSurvey.Proofs.Pattern.Search

/-!
# Groups that are taken for granted

Most groups of a match are read without asking whether they took part in it; one that did
not would stop the program.  Reading is `none` here where that happens.  It never does
where no way through the pattern goes around the group.
-/

namespace CodeSurvey

variable {α β : Type}

theorem mapM_eq_filterMap {f : α → Option β} {xs : List α} (h : ∀ x ∈ xs, (f x).isSome) :
    xs.mapM f = some (xs.filterMap f) := by
  induction xs with
  | nil => rfl
  | cons x xs ih =>
    obtain ⟨hx, hxs⟩ := List.forall_mem_cons.mp h
    obtain ⟨y, hy⟩ := Option.isSome_iff_exists.mp hx
    rw [List.mapM_cons, hy, ih hxs, List.filterMap_cons_some hy]
    rfl

theorem mapM_eq_map {f : α → Option β} {g : α → β} (h : ∀ x, f x = some (g x)) (xs : List α) :
    xs.mapM f = some (xs.map g) := by
  rw [funext h]
  exact List.mapM_pure

theorem findM?_eq_find? {f : α → Option Bool} {test : α → Bool} {xs : List α}
    (h : ∀ x ∈ xs, f x = some (test x)) : xs.findM? f = some (xs.find? test) := by
  induction xs with
  | nil => rfl
  | cons x xs ih =>
    obtain ⟨hx, hxs⟩ := List.forall_mem_cons.mp h
    rw [List.findM?, hx, ih hxs, List.find?]
    cases test x <;> rfl

theorem anyM_eq_any {f : α → Option Bool} {test : α → Bool} {xs : List α}
    (h : ∀ x ∈ xs, f x = some (test x)) : xs.anyM f = some (xs.any test) := by
  induction xs with
  | nil => rfl
  | cons x xs ih =>
    obtain ⟨hx, hxs⟩ := List.forall_mem_cons.mp h
    rw [List.anyM_cons, hx, ih hxs, List.any_cons]
    cases test x <;> rfl

namespace Pattern

/-- What a group took in each match. -/
def checkedGroupIn (p : Pattern) (number : Nat) (text : List Char) : Option (List (List Char)) :=
  (p.occurrences text).mapM (·.group? number)

/-- What a group took in the first match, if there is one. -/
def checkedFirstGroup (p : Pattern) (number : Nat) (text : List Char) : Option (Option (List Char)) :=
  match p.find? text with
  | some m => (m.group? number).map some
  | none => some none

/-- Something made of what two groups took in each match. -/
def checkedPairsIn (p : Pattern) (f : List Char → List Char → β) (text : List Char) : Option (List β) :=
  (p.occurrences text).mapM fun m ↦ do
    let first ← m.group? 1
    let second ← m.group? 2
    return f first second

variable {p : Pattern} {text : List Char}

theorem checkedGroupIn_eq {number : Nat} (h : p.hasGroup number = true) :
    p.checkedGroupIn number text = some (p.groupIn number text) :=
  mapM_eq_filterMap fun _ hm ↦ isSome_group?_of_mem_occurrences h hm

theorem checkedFirstGroup_eq {number : Nat} (h : p.hasGroup number = true) :
    p.checkedFirstGroup number text = some (firstGroup? p number text) := by
  rw [checkedFirstGroup, firstGroup?]
  split
  next m hm =>
    have hsome := isSome_group?_of_mem_occurrences h (mem_occurrences_of_find? hm)
    obtain ⟨taken, htaken⟩ := Option.isSome_iff_exists.mp hsome
    rw [hm, Option.bind_some, htaken]
    rfl
  next hm =>
    rw [hm]
    rfl

theorem exists_groups {m : Match} (h₁ : p.hasGroup 1 = true) (h₂ : p.hasGroup 2 = true)
    (hm : m ∈ p.occurrences text) :
    ∃ first second, m.group? 1 = some first ∧ m.group? 2 = some second := by
  obtain ⟨first, hfirst⟩ := Option.isSome_iff_exists.mp (isSome_group?_of_mem_occurrences h₁ hm)
  obtain ⟨second, hsecond⟩ := Option.isSome_iff_exists.mp (isSome_group?_of_mem_occurrences h₂ hm)
  exact ⟨first, second, hfirst, hsecond⟩

theorem checkedPairsIn_eq {f : List Char → List Char → β} (h₁ : p.hasGroup 1 = true)
    (h₂ : p.hasGroup 2 = true) :
    p.checkedPairsIn f text = some ((p.occurrences text).filterMap fun m ↦ do
      let first ← m.group? 1
      let second ← m.group? 2
      return f first second) := by
  refine mapM_eq_filterMap fun m hm ↦ ?_
  obtain ⟨first, second, hfirst, hsecond⟩ := exists_groups h₁ h₂ hm
  rw [hfirst, hsecond]
  rfl

end Pattern

/-- A route for each match of a pattern, with a method and then a path taken for granted. -/
def checkedMethodRoutesIn (p : Pattern) (text : List Char) (framework : String) : Option (List Fact) :=
  p.checkedPairsIn (fun method path ↦ .route (upper method) path framework) text

theorem checkedMethodRoutesIn_eq {p : Pattern} {text : List Char} {framework : String}
    (h₁ : p.hasGroup 1 = true) (h₂ : p.hasGroup 2 = true) :
    checkedMethodRoutesIn p text framework = some (methodRoutesIn p text framework) :=
  Pattern.checkedPairsIn_eq h₁ h₂

end CodeSurvey
