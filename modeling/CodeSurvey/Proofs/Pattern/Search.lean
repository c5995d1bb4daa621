import CodeSurvey.Pattern.Match

/-!
# What a search keeps

A search starts threads, takes them over one character after the other and stops at
matches.  Whatever these steps keep, of the places that are come to and of the threads
that are followed, therefore holds of every match.  Three such things are shown here: a
match lies in the text that is searched, it lies behind the matches before it, and it has
passed the ends of groups that no way through the pattern goes around.
-/

namespace CodeSurvey

/-- What a search for a pattern keeps of the places it comes to and of the threads it
follows from there, and what it finds. -/
structure Kept (p : Pattern) (place : Cursor → Prop) (thread : Cursor → Thread → Prop)
    (found : Match → Prop) : Prop where
  starts : ∀ {here}, place here → thread here ⟨here, p, []⟩
  takes : ∀ {here c cs t rest marks}, place here → here.rest = c :: cs → thread here t →
    .takes rest marks ∈ t.rest.ways here t.marks → thread (here.step c cs) ⟨t.start, rest, marks⟩
  passes : ∀ {here t marks}, place here → thread here t → .passes marks ∈ t.rest.ways here t.marks →
    found ⟨t.start, here, marks⟩
  steps : ∀ {here c cs}, place here → here.rest = c :: cs → place (here.step c cs)
  stops : ∀ {m}, found m → place m.stop

namespace Kept

/-- What holds of a thread once it is over the next character, if there is one. -/
def Next (thread : Cursor → Thread → Prop) (here : Cursor) (t : Thread) : Prop :=
  ∀ ⦃c cs⦄, here.rest = c :: cs → thread (here.step c cs) t

variable {p : Pattern} {place : Cursor → Prop} {thread : Cursor → Thread → Prop} {found : Match → Prop}
  {here : Cursor}

/-- What one thread can do next. -/
theorem branch (h : Kept p place thread found) (hhere : place here) {t : Thread} (ht : thread here t)
    {ways : List Way} (hways : ∀ w ∈ ways, w ∈ t.rest.ways here t.marks) {threads : List Thread}
    (hthreads : ∀ t ∈ threads, Next thread here t) :
    (∀ t' ∈ (Thread.branch here t.start ways threads).1, Next thread here t') ∧
      ∀ m ∈ (Thread.branch here t.start ways threads).2, found m := by
  induction ways generalizing threads with
  | nil => exact ⟨hthreads, by simp [Thread.branch]⟩
  | cons w ways ih =>
    obtain ⟨hw, hrest⟩ := List.forall_mem_cons.mp hways
    cases w with
    | passes marks =>
      refine ⟨hthreads, fun m hm ↦ ?_⟩
      obtain rfl := Option.mem_some.mp hm
      exact h.passes hhere ht hw
    | takes rest marks =>
      refine ih hrest ?_
      split
      · exact hthreads
      · exact List.forall_mem_cons.mpr ⟨fun _ _ hnext ↦ h.takes hhere hnext ht hw, hthreads⟩

/-- What all threads can do next. -/
theorem advance (h : Kept p place thread found) (hhere : place here) {threads next : List Thread}
    (hthreads : ∀ t ∈ threads, thread here t) (hnext : ∀ t ∈ next, Next thread here t) :
    (∀ t ∈ (Thread.advance here threads next).1, Next thread here t) ∧
      ∀ m ∈ (Thread.advance here threads next).2, found m := by
  induction threads generalizing next with
  | nil => exact ⟨hnext, by simp [Thread.advance]⟩
  | cons t ts ih =>
    obtain ⟨ht, hts⟩ := List.forall_mem_cons.mp hthreads
    obtain ⟨hmore, hfound⟩ := h.branch hhere ht (fun _ hw ↦ hw) hnext
    rw [Thread.advance]
    split
    next heq =>
      rw [heq] at hmore
      exact ih hts hmore
    next heq =>
      rw [heq] at hmore hfound
      exact ⟨hmore, hfound⟩

/-- One more thread may start, and what is found next goes before what was found so far. -/
theorem round (h : Kept p place thread found) (hhere : place here) {threads : List Thread}
    (hthreads : ∀ t ∈ threads, thread here t) {sofar : Option Match} (hsofar : ∀ m ∈ sofar, found m) :
    let started := if sofar.isSome then threads else threads ++ [⟨here, p, []⟩]
    (∀ t ∈ (Thread.advance here started []).1, Next thread here t) ∧
      ∀ m ∈ (Thread.advance here started []).2.or sofar, found m := by
  intro started
  have hstarted : ∀ t ∈ started, thread here t := by
    by_cases hsome : sofar.isSome = true
    · rw [show started = threads from if_pos hsome]
      exact hthreads
    · rw [show started = threads ++ [⟨here, p, []⟩] from if_neg hsome]
      exact List.forall_mem_append.mpr ⟨hthreads, List.forall_mem_singleton.mpr (h.starts hhere)⟩
  obtain ⟨hnext, hbetter⟩ := h.advance hhere hstarted (List.forall_mem_nil _)
  refine ⟨hnext, fun m hm ↦ ?_⟩
  rcases Option.or_eq_some_iff.mp hm with hm | ⟨-, hm⟩
  · exact hbetter m hm
  · exact hsofar m hm

theorem follow (h : Kept p place thread found) {rest : List Char} (hrest : here.rest = rest)
    (hhere : place here) {threads : List Thread} (hthreads : ∀ t ∈ threads, thread here t)
    {sofar : Option Match} (hsofar : ∀ m ∈ sofar, found m) :
    ∀ m ∈ p.follow rest here threads sofar, found m := by
  induction rest generalizing here threads sofar with
  | nil => exact (h.round hhere hthreads hsofar).2
  | cons c cs ih =>
    obtain ⟨hnext, hfound⟩ := h.round hhere hthreads hsofar
    rw [Pattern.follow]
    dsimp only
    generalize (if sofar.isSome then threads else threads ++ [⟨here, p, []⟩]) = started at *
    split
    · exact hfound
    · exact ih rfl (h.steps hhere hrest) (fun t ht ↦ hnext t (List.mem_reverse.mp ht) hrest) hfound

theorem findFrom? (h : Kept p place thread found) (hhere : place here) :
    ∀ m ∈ p.findFrom? here, found m :=
  h.follow rfl hhere (List.forall_mem_nil _) (by simp)

theorem matchesFrom (h : Kept p place thread found) (hhere : place here) (bound : Nat) :
    ∀ m ∈ p.matchesFrom bound here, found m := by
  induction bound generalizing here with
  | zero => exact List.forall_mem_nil _
  | succ bound ih =>
    have hfirst := h.findFrom? hhere
    rw [Pattern.matchesFrom]
    split
    next => exact List.forall_mem_nil _
    next m hfind =>
      have hm : found m := hfirst m hfind
      refine List.forall_mem_cons.mpr ⟨hm, ?_⟩
      split
      · exact ih (h.stops hm)
      · split
        next => exact List.forall_mem_nil _
        next c cs hrest => exact ih (h.steps (h.stops hm) hrest)

theorem occurrences {s : List Char} (h : Kept p place thread found) (hstart : place (.start s)) :
    ∀ m ∈ p.occurrences s, found m := by
  rw [Pattern.occurrences]
  split
  · exact List.forall_mem_nil _
  · exact h.matchesFrom hstart _

end Kept

/-! ## Places in a text -/

/-- A place that is in a text. -/
structure Cursor.IsIn (here : Cursor) (text : List Char) : Prop where
  rest_eq : here.rest = text.drop here.offset
  offset_le : here.offset ≤ text.length

theorem Cursor.isIn_start (text : List Char) : (Cursor.start text).IsIn text := ⟨rfl, Nat.zero_le _⟩

theorem Cursor.IsIn.step {here : Cursor} {text cs : List Char} {c : Char} (h : here.IsIn text)
    (hrest : here.rest = c :: cs) : (here.step c cs).IsIn text := by
  have hdrop : text.drop here.offset = c :: cs := h.rest_eq.symm.trans hrest
  constructor
  · rw [Cursor.step, ← List.drop_drop, hdrop]
    rfl
  · have hlt : here.offset < text.length := by
      refine Nat.lt_of_not_le fun hle ↦ ?_
      rw [List.drop_of_length_le hle] at hdrop
      exact nomatch hdrop
    exact hlt

/-- A search stays in the text that is searched. -/
theorem kept_isIn (p : Pattern) (text : List Char) :
    Kept p (·.IsIn text) (fun _ t ↦ t.start.IsIn text) fun m ↦ m.start.IsIn text ∧ m.stop.IsIn text where
  starts hhere := hhere
  takes _ _ ht _ := ht
  passes hhere ht _ := ⟨ht, hhere⟩
  steps := .step
  stops hm := hm.2

theorem Match.isIn_of_mem_occurrences {p : Pattern} {text : List Char} {m : Match}
    (h : m ∈ p.occurrences text) : m.start.IsIn text ∧ m.stop.IsIn text :=
  (kept_isIn p text).occurrences (Cursor.isIn_start text) m h

/-! ## The order of matches -/

/-- A search goes forward. -/
theorem kept_from (p : Pattern) (offset : Nat) :
    Kept p (offset ≤ ·.offset) (fun here t ↦ offset ≤ t.start.offset ∧ t.start.offset ≤ here.offset)
      fun m ↦ offset ≤ m.start.offset ∧ m.start.offset ≤ m.stop.offset where
  starts hhere := ⟨hhere, Nat.le_refl _⟩
  takes _ _ ht _ := ⟨ht.1, Nat.le_succ_of_le ht.2⟩
  passes _ ht _ := ht
  steps hhere _ := Nat.le_succ_of_le hhere
  stops hm := Nat.le_trans hm.1 hm.2

namespace Pattern

variable {p : Pattern} {here : Cursor} {m : Match}

theorem le_of_findFrom? (h : p.findFrom? here = some m) :
    here.offset ≤ m.start.offset ∧ m.start.offset ≤ m.stop.offset :=
  (kept_from p here.offset).findFrom? (Nat.le_refl _) m h

theorem pairwise_matchesFrom (p : Pattern) (bound : Nat) (here : Cursor) :
    (p.matchesFrom bound here).Pairwise (·.stop.offset ≤ ·.start.offset) := by
  induction bound generalizing here with
  | zero => exact .nil
  | succ bound ih =>
    rw [matchesFrom]
    split
    next => exact .nil
    next m hfind =>
      have hforward := (le_of_findFrom? hfind).2
      refine .cons (fun m' hm' ↦ ?_) ?_
      -- The search goes on where the match stops, or one character later.
      · split at hm'
        · exact ((kept_from p m.stop.offset).matchesFrom (Nat.le_refl _) bound m' hm').1
        · split at hm'
          next => exact nomatch hm'
          next c cs hrest =>
            exact ((kept_from p m.stop.offset).matchesFrom (Nat.le_succ _) bound m' hm').1
      · split
        · exact ih _
        · split
          · exact .nil
          · exact ih _

/-- Matches are listed from left to right, and none overlap. -/
theorem pairwise_occurrences (p : Pattern) (text : List Char) :
    (p.occurrences text).Pairwise (·.stop.offset ≤ ·.start.offset) := by
  rw [occurrences]
  split
  · exact .nil
  · exact pairwise_matchesFrom ..

end Pattern

/-! ## Ends of groups -/

namespace Pattern

/-- Does every way through a pattern pass the end of a group? -/
def passes (e : GroupEnd) : Pattern → Bool
  | cat p q => passes e p || passes e q
  | either p q => passes e p && passes e q
  | mark e' => e' = e
  | _ => false

/-- Does a group take part in every match of a pattern? -/
def hasGroup (number : Nat) (p : Pattern) : Bool := p.passes (.opens number) && p.passes (.closes number)

theorem passes_append (e : GroupEnd) (p q : Pattern) : (p ++ q).passes e = (p.passes e || q.passes e) := by
  induction p with
  | cat a b _ ih =>
    change (cat a (b ++ q)).passes e = _
    rw [passes, ih, passes, Bool.or_assoc]
  | empty => exact (Bool.false_or _).symm
  | _ => rfl

end Pattern

/-- The end of a group has been passed, or will be on every way through what is left. -/
def Passed (e : GroupEnd) (rest : Pattern) (marks : Marks) : Prop :=
  e ∈ marks.map Prod.fst ∨ rest.passes e = true

/-- It will have been passed on the way. -/
def Way.Passed (e : GroupEnd) : Way → Prop
  | passes marks => e ∈ marks.map Prod.fst
  | takes rest marks => CodeSurvey.Passed e rest marks

variable {e : GroupEnd} {here : Cursor}

/-- More may be left. -/
theorem Passed.append {rest q : Pattern} {marks : Marks} (h : Passed e rest marks) :
    Passed e (rest ++ q) marks := by
  refine h.imp_right fun hrest ↦ ?_
  rw [Pattern.passes_append, hrest, Bool.true_or]

/-- No step of a thread goes around the end of a group. -/
theorem Pattern.passed_ways {p : Pattern} {marks : Marks} (h : Passed e p marks) :
    ∀ w ∈ p.ways here marks, w.Passed e := by
  induction p generalizing marks with
  | empty =>
    have hmarks : e ∈ marks.map Prod.fst := h.resolve_right Bool.false_ne_true
    exact List.forall_mem_singleton.mpr hmarks
  | one cls =>
    have hmarks : e ∈ marks.map Prod.fst := h.resolve_right Bool.false_ne_true
    rw [ways]
    split
    · exact List.forall_mem_singleton.mpr (.inl hmarks)
    · exact List.forall_mem_nil _
  | run cls least greedy =>
    have hmarks : e ∈ marks.map Prod.fst := h.resolve_right Bool.false_ne_true
    have hmore : ∀ w ∈ (if here.rest.head?.any cls.mem then [.takes (run cls (least - 1) greedy) marks]
        else [] : List Way), w.Passed e := by
      split
      · exact List.forall_mem_singleton.mpr (.inl hmarks)
      · exact List.forall_mem_nil _
    rw [ways]
    split
    · exact hmore
    · split
      · exact List.forall_mem_append.mpr ⟨hmore, List.forall_mem_singleton.mpr hmarks⟩
      · exact List.forall_mem_cons.mpr ⟨hmarks, hmore⟩
  | cat p q ihp ihq =>
    rw [ways]
    intro w hw
    obtain ⟨w', hw', hw⟩ := List.mem_flatMap.mp hw
    -- The end is behind, or in the first pattern, or it is left to the second one.
    have hfirst : w'.Passed e ∨ q.passes e = true := by
      rcases h with hmarks | hpasses
      · exact .inl (ihp (.inl hmarks) w' hw')
      · rcases Bool.or_eq_true_iff.mp hpasses with hp | hq
        · exact .inl (ihp (.inr hp) w' hw')
        · exact .inr hq
    cases w' with
    | passes marks' => exact ihq hfirst w hw
    | takes rest marks' =>
      obtain rfl := List.mem_singleton.mp hw
      rcases hfirst with hrest | hq
      · exact Passed.append hrest
      · exact .inr (by rw [passes_append, hq, Bool.or_true])
  | either p q ihp ihq =>
    rw [ways]
    refine List.forall_mem_append.mpr ⟨ihp ?_, ihq ?_⟩
    · exact h.imp_right fun hpasses ↦ (Bool.and_eq_true_iff.mp hpasses).1
    · exact h.imp_right fun hpasses ↦ (Bool.and_eq_true_iff.mp hpasses).2
  | many p ih =>
    have hmarks : e ∈ marks.map Prod.fst := h.resolve_right Bool.false_ne_true
    rw [ways]
    refine List.forall_mem_append.mpr ⟨fun w hw ↦ ?_, List.forall_mem_singleton.mpr hmarks⟩
    obtain ⟨w', hw', hsome⟩ := List.mem_filterMap.mp hw
    have hround : w'.Passed e := ih (.inl hmarks) w' hw'
    cases w' with
    | passes marks' => exact nomatch hsome
    | takes rest marks' =>
      obtain rfl := Option.some.inj hsome
      exact Passed.append hround
  | mark e' =>
    refine List.forall_mem_singleton.mpr ?_
    rcases h with hmarks | hpasses
    · exact List.mem_cons_of_mem _ hmarks
    · exact List.mem_cons.mpr (.inl (of_decide_eq_true hpasses).symm)
  | test a =>
    have hmarks : e ∈ marks.map Prod.fst := h.resolve_right Bool.false_ne_true
    rw [ways]
    split
    · exact List.forall_mem_singleton.mpr hmarks
    · exact List.forall_mem_nil _

/-- A search does not go around the end of a group where no way through the pattern does. -/
theorem kept_passed {p : Pattern} (h : p.passes e = true) :
    Kept p (fun _ ↦ True) (fun _ t ↦ Passed e t.rest t.marks) fun m ↦ e ∈ m.marks.map Prod.fst where
  starts _ := .inr h
  takes _ _ ht hw := Pattern.passed_ways ht _ hw
  passes _ ht hw := Pattern.passed_ways ht _ hw
  steps _ _ := trivial
  stops _ := trivial

namespace Pattern

variable {p : Pattern} {number : Nat} {text : List Char} {m : Match}

theorem isSome_lookup {marks : Marks} (h : e ∈ marks.map Prod.fst) : (marks.lookup e).isSome := by
  rw [Option.isSome_iff_ne_none, ne_eq, List.lookup_eq_none_iff]
  intro hnone
  obtain ⟨place, hplace, rfl⟩ := List.mem_map.mp h
  simpa using hnone place hplace

theorem isSome_group? (hopens : .opens number ∈ m.marks.map Prod.fst)
    (hcloses : .closes number ∈ m.marks.map Prod.fst) : (m.group? number).isSome := by
  obtain ⟨start, hstart⟩ := Option.isSome_iff_exists.mp (isSome_lookup hopens)
  obtain ⟨stop, hstop⟩ := Option.isSome_iff_exists.mp (isSome_lookup hcloses)
  rw [Match.group?, hstop, hstart]
  rfl

/-- A group that no way through a pattern goes around takes part in all matches of a text. -/
theorem isSome_group?_of_mem_occurrences (h : p.hasGroup number = true) (hm : m ∈ p.occurrences text) :
    (m.group? number).isSome := by
  obtain ⟨hopens, hcloses⟩ := Bool.and_eq_true_iff.mp h
  exact isSome_group? ((kept_passed hopens).occurrences trivial m hm)
    ((kept_passed hcloses).occurrences trivial m hm)

/-- The first match is one of them. -/
theorem mem_occurrences_of_find? (h : p.find? text = some m) : m ∈ p.occurrences text := by
  rw [find?] at h
  rw [occurrences]
  split at h
  next => exact nomatch h
  next hhope =>
    rw [if_neg hhope, matchesFrom, h]
    exact List.mem_cons_self

end Pattern

end CodeSurvey
