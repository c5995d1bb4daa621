import CodeSurvey.Analyzer.Basic
import CodeSurvey.Proofs.Pattern.Leftmost

/-!
# What a group takes

The last marks of a group tell what it took.  Where a pattern holds the group in one place
only, whatever way it takes a text, these are the marks of that place, so what the group
took is a stretch that its body takes.
-/

namespace CodeSurvey.Pattern

/-- Does a pattern set no mark of this group? -/
def lacks (number : Nat) : Pattern → Bool
  | cat p q | either p q => lacks number p && lacks number q
  | many p => lacks number p
  | mark e => e ≠ .opens number && e ≠ .closes number
  | _ => true

section Lacks

variable {number : Nat} {p q : Pattern} {before taken rest : List Char} {marks : Marks}

theorem Takes.ne_of_lacks (h : p.Takes before taken rest marks) (hlacks : p.lacks number = true) :
    ∀ e ∈ marks, e.1 ≠ .opens number ∧ e.1 ≠ .closes number := by
  induction h with
  | cat _ _ ihp ihq =>
    obtain ⟨hp, hq⟩ := Bool.and_eq_true_iff.mp hlacks
    exact List.forall_mem_append.mpr ⟨ihq hq, ihp hp⟩
  | left _ ih => exact ih (Bool.and_eq_true_iff.mp hlacks).1
  | right _ ih => exact ih (Bool.and_eq_true_iff.mp hlacks).2
  | again _ _ _ ihp ihmany => exact List.forall_mem_append.mpr ⟨ihmany hlacks, ihp hlacks⟩
  | mark =>
    obtain ⟨hopens, hcloses⟩ := Bool.and_eq_true_iff.mp hlacks
    exact List.forall_mem_singleton.mpr ⟨of_decide_eq_true hopens, of_decide_eq_true hcloses⟩
  | _ => exact List.forall_mem_nil _

theorem Takes.lookup_eq_none (h : p.Takes before taken rest marks) (hlacks : p.lacks number = true)
    {e : GroupEnd} (he : e = .opens number ∨ e = .closes number) : marks.lookup e = none := by
  refine List.lookup_eq_none_iff.mpr fun entry hentry ↦ ?_
  obtain ⟨hopens, hcloses⟩ := h.ne_of_lacks hlacks entry hentry
  rcases he with rfl | rfl
  · exact bne_iff_ne.mpr hopens.symm
  · exact bne_iff_ne.mpr hcloses.symm

end Lacks

/-- Whatever a pattern takes, the last marks of a group are those around a stretch that `body` takes. -/
def Captures (p : Pattern) (number : Nat) (body : Pattern) : Prop :=
  ∀ before taken rest marks, p.Takes before taken rest marks →
    ∃ before' taken' rest' inner, body.Takes before' taken' rest' inner ∧
      marks.lookup (.opens number) = some (.between before' (taken' ++ rest')) ∧
      marks.lookup (.closes number) = some (.between (before' ++ taken') rest')

namespace Captures

variable {p q body : Pattern} {number : Nat} {text taken : List Char} {m : Match}

protected theorem group (hbody : body.lacks number = true) : (group number body).Captures number body := by
  intro before taken rest _ h
  obtain ⟨inner, hinner, rfl⟩ := takes_group_iff.mp h
  refine ⟨before, taken, rest, inner, hinner, ?_, List.lookup_cons_self⟩
  have hends : (GroupEnd.opens number == .closes number) = false := beq_false_of_ne nofun
  rw [List.cons_append, List.lookup_cons, hends, List.lookup_append,
    hinner.lookup_eq_none hbody (.inl rfl), Option.none_or, List.lookup_cons_self]

/-- What comes before the group does not matter, -/
theorem after (hq : q.Captures number body) : (p ++ q).Captures number body := by
  intro _ _ _ _ h
  obtain ⟨_, _, first, second, -, rfl, -, htakes⟩ := takes_append_iff.mp h
  obtain ⟨before', taken', rest', inner, hbody, hopens, hcloses⟩ := hq _ _ _ _ htakes
  refine ⟨before', taken', rest', inner, hbody, ?_, ?_⟩
  · rw [List.lookup_append, hopens, Option.some_or]
  · rw [List.lookup_append, hcloses, Option.some_or]

/-- and what comes after it does not either, if it is not the group again. -/
theorem before (hp : p.Captures number body) (hq : q.lacks number = true) :
    (p ++ q).Captures number body := by
  intro _ _ _ _ h
  obtain ⟨_, _, first, second, -, rfl, hfirst, hsecond⟩ := takes_append_iff.mp h
  obtain ⟨before', taken', rest', inner, hbody, hopens, hcloses⟩ := hp _ _ _ _ hfirst
  refine ⟨before', taken', rest', inner, hbody, ?_, ?_⟩
  · rw [List.lookup_append, hsecond.lookup_eq_none hq (.inl rfl), Option.none_or, hopens]
  · rw [List.lookup_append, hsecond.lookup_eq_none hq (.inr rfl), Option.none_or, hcloses]

/-- What the group took in a match is taken by its body. -/
theorem group?_eq_some (h : p.Captures number body) (hm : m ∈ p.occurrences text) :
    ∃ before taken rest inner, m.group? number = some taken ∧ body.Takes before taken rest inner := by
  obtain ⟨_, _, _, -, -, -, htakes⟩ := Match.isTaken_of_mem_occurrences hm
  obtain ⟨before, taken, rest, inner, hbody, hopens, hcloses⟩ := h _ _ _ _ htakes
  refine ⟨before, taken, rest, inner, ?_, hbody⟩
  simp [Match.group?, hopens, hcloses, Cursor.textTo_between]

theorem takes_of_mem_groupIn (h : p.Captures number body) (htaken : taken ∈ p.groupIn number text) :
    ∃ before rest inner, body.Takes before taken rest inner := by
  obtain ⟨m, hm, hgroup⟩ := List.mem_filterMap.mp htaken
  obtain ⟨before, _, rest, inner, heq, hbody⟩ := h.group?_eq_some hm
  obtain rfl := Option.some.inj (heq.symm.trans hgroup)
  exact ⟨before, rest, inner, hbody⟩

theorem mem_groupIn_of_firstGroup? (htaken : firstGroup? p number text = some taken) :
    taken ∈ p.groupIn number text := by
  obtain ⟨m, hfind, hgroup⟩ := Option.bind_eq_some_iff.mp htaken
  exact List.mem_filterMap.mpr ⟨m, mem_occurrences_of_find? hfind, hgroup⟩

/-- What a group around a run of characters took is such a run. -/
theorem run_of_mem_groupIn {cls : CharClass} {least : Nat} {greedy : Bool}
    (h : p.Captures number (run cls least greedy)) (htaken : taken ∈ p.groupIn number text) :
    (∀ c ∈ taken, cls.mem c = true) ∧ least ≤ taken.length := by
  obtain ⟨_, _, _, hrun⟩ := h.takes_of_mem_groupIn htaken
  obtain ⟨hall, hleast, -⟩ := takes_run_iff.mp hrun
  exact ⟨hall, hleast⟩

end Captures

/-! ## The group of the first match -/

section FirstGroup

variable {p : Pattern} {number : Nat} {text taken : List Char}

theorem exists_find?_of_mem_occurrences {m : Match} (h : m ∈ p.occurrences text) :
    ∃ first, p.find? text = some first := by
  rw [occurrences] at h
  rw [find?]
  split at h
  next => exact absurd h List.not_mem_nil
  next hhope =>
    rw [if_neg hhope]
    rw [matchesFrom] at h
    split at h
    next => exact absurd h List.not_mem_nil
    next first hfirst => exact ⟨first, hfirst⟩

/-- Where all ways to take a part of a text agree on what a group takes, and there is such a way, this
is what the group takes in the first match. -/
theorem firstGroup?_eq_some_iff {reads : List Char → Prop}
    (hmarks : ∀ {before inner rest marks}, text = before ++ (inner ++ rest) →
      p.Takes before inner rest marks → ∃ g lead tail, reads g ∧
        marks = [(.closes number, .between (lead ++ g) tail), (.opens number, .between lead (g ++ tail))])
    (htakes : ∀ {g}, reads g → ∃ before inner rest, text = before ++ (inner ++ rest) ∧
      p.CanTake before inner rest)
    (hunique : ∀ {g g'}, reads g → reads g' → g = g') :
    firstGroup? p number text = some taken ↔ reads taken := by
  have hgroup {m : Match} (hm : m ∈ p.occurrences text) : ∃ g, reads g ∧ m.group? number = some g := by
    obtain ⟨before, inner, rest, htext, -, -, hp⟩ := Match.isTaken_of_mem_occurrences hm
    obtain ⟨g, lead, tail, hg, hmarks⟩ := hmarks htext hp
    refine ⟨g, hg, ?_⟩
    obtain ⟨start, stop, marks⟩ := m
    obtain rfl : marks = _ := hmarks
    exact group?_of_marks ..
  rw [firstGroup?]
  constructor
  · intro h
    obtain ⟨m, hm, htaken⟩ := Option.bind_eq_some_iff.mp h
    obtain ⟨g, hg, heq⟩ := hgroup (mem_occurrences_of_find? hm)
    exact Option.some.inj (heq.symm.trans htaken) ▸ hg
  · intro h
    obtain ⟨before, inner, rest, htext, marks, hp⟩ := htakes h
    obtain ⟨m, hm, -⟩ := exists_mem_occurrences htext hp
    obtain ⟨first, hfirst⟩ := exists_find?_of_mem_occurrences hm
    obtain ⟨g, hg, heq⟩ := hgroup (mem_occurrences_of_find? hfirst)
    rw [hfirst, Option.bind_some, heq, hunique hg h]

end FirstGroup

end CodeSurvey.Pattern
