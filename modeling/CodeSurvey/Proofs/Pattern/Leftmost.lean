import CodeSurvey.Proofs.Pattern.Taking

/-!
# A search finds the leftmost match

Where a pattern takes a stretch of text, a search finds a match that starts there or
before.  Three states follow one another: up to that place, threads that started before
are on their way; from there on one of the threads can take the stretch to its end, and
it comes after none that started later; and once it is through, or one before it is, only
threads that started at that place or before are left.  Going on from match to match, a
search therefore does not leave the stretch out: a match covers the place where it begins.
-/

namespace CodeSurvey

namespace Pattern

section Progress

variable {p : Pattern} {before u rest : List Char} {c : Char} {taken : Marks}

/-- A pattern that takes nothing here passes. -/
theorem exists_passes (h : p.Takes before [] rest taken) (marks : Marks) :
    ∃ marks', .passes marks' ∈ p.ways (.between before rest) marks := by
  induction p generalizing taken marks with
  | empty => exact ⟨marks, List.mem_singleton_self _⟩
  | one cls =>
    obtain ⟨c, -, hnil, -⟩ := takes_one_iff.mp h
    exact nomatch hnil
  | run cls least greedy =>
    obtain ⟨-, hleast, -⟩ := takes_run_iff.mp h
    obtain rfl : least = 0 := Nat.le_zero.mp hleast
    refine ⟨marks, ?_⟩
    rw [ways, if_neg (fun hne ↦ hne rfl)]
    split
    · exact List.mem_append_right _ (List.mem_singleton_self _)
    · exact List.mem_cons_self
  | cat p q ihp ihq =>
    obtain ⟨u, v, first, second, hnil, -, hp, hq⟩ := takes_cat_iff.mp h
    obtain ⟨rfl, rfl⟩ := List.append_eq_nil_iff.mp hnil.symm
    rw [List.append_nil] at hq
    obtain ⟨between, hbetween⟩ := ihp hp marks
    obtain ⟨after, hafter⟩ := ihq hq between
    exact ⟨after, List.mem_flatMap.mpr ⟨_, hbetween, hafter⟩⟩
  | either p q ihp ihq =>
    rcases takes_either_iff.mp h with hp | hq
    · obtain ⟨marks', hmarks⟩ := ihp hp marks
      exact ⟨marks', List.mem_append_left _ hmarks⟩
    · obtain ⟨marks', hmarks⟩ := ihq hq marks
      exact ⟨marks', List.mem_append_right _ hmarks⟩
  | many p _ => exact ⟨marks, List.mem_append_right _ (List.mem_singleton_self _)⟩
  | mark e => exact ⟨_, List.mem_singleton_self _⟩
  | test a =>
    obtain ⟨-, hholds, -⟩ := takes_test_iff.mp h
    refine ⟨marks, ?_⟩
    rw [ways, if_pos hholds]
    exact List.mem_singleton_self _

/-- A pattern that takes something here takes its first character, and then the rest. -/
theorem exists_takes (h : p.Takes before (c :: u) rest taken) (marks : Marks) :
    ∃ left marks' more, .takes left marks' ∈ p.ways (.between before (c :: (u ++ rest))) marks ∧
      left.Takes (before ++ [c]) u rest more := by
  induction p generalizing u rest taken marks with
  | empty => exact nomatch (takes_empty_iff.mp h).1
  | one cls =>
    obtain ⟨d, hmem, hcons, -⟩ := takes_one_iff.mp h
    obtain ⟨rfl, rfl⟩ := List.cons.inj hcons
    have hnext : (Cursor.between before (c :: ([] ++ rest))).rest.head?.any cls.mem = true := hmem
    refine ⟨.empty, marks, [], ?_, .empty⟩
    rw [ways, if_pos hnext]
    exact List.mem_singleton_self _
  | run cls least greedy =>
    obtain ⟨hall, hleast, -⟩ := takes_run_iff.mp h
    obtain ⟨hmem, hall⟩ := List.forall_mem_cons.mp hall
    refine ⟨.run cls (least - 1) greedy, marks, [], ?_, .run hall (Nat.sub_le_iff_le_add.mpr hleast)⟩
    have hnext : (Cursor.between before (c :: (u ++ rest))).rest.head?.any cls.mem = true := hmem
    rw [ways, if_pos hnext]
    split
    · exact List.mem_singleton_self _
    · split
      · exact List.mem_cons_self
      · exact List.mem_cons_of_mem _ (List.mem_singleton_self _)
  | cat p q ihp ihq =>
    obtain ⟨first, second, _, others, hcons, -, hp, hq⟩ := takes_cat_iff.mp h
    rcases List.cons_eq_append_iff.mp hcons with ⟨rfl, rfl⟩ | ⟨v, rfl, rfl⟩
    · rw [List.append_nil] at hq
      obtain ⟨between, hbetween⟩ := exists_passes hp marks
      obtain ⟨left, marks', more, hleft, hmore⟩ := ihq hq between
      exact ⟨left, marks', more, List.mem_flatMap.mpr ⟨_, hbetween, hleft⟩, hmore⟩
    · obtain ⟨left, marks', more, hleft, hmore⟩ := ihp hp marks
      rw [← List.append_assoc] at hleft
      rw [List.append_cons] at hq
      exact ⟨left ++ q, marks', others ++ more,
        List.mem_flatMap.mpr ⟨_, hleft, List.mem_singleton_self _⟩,
        takes_append_iff.mpr ⟨v, second, more, others, rfl, rfl, hmore, hq⟩⟩
  | either p q ihp ihq =>
    rcases takes_either_iff.mp h with hp | hq
    · obtain ⟨left, marks', more, hleft, hmore⟩ := ihp hp marks
      exact ⟨left, marks', more, List.mem_append_left _ hleft, hmore⟩
    · obtain ⟨left, marks', more, hleft, hmore⟩ := ihq hq marks
      exact ⟨left, marks', more, List.mem_append_right _ hleft, hmore⟩
  | many p ih =>
    rcases takes_many_iff.mp h with ⟨hnil, -⟩ | ⟨first, second, _, others, hne, hcons, -, hp, hmany⟩
    · exact nomatch hnil
    · rcases List.cons_eq_append_iff.mp hcons with ⟨rfl, -⟩ | ⟨v, rfl, rfl⟩
      · exact absurd rfl hne
      · obtain ⟨left, marks', more, hleft, hmore⟩ := ih hp marks
        rw [← List.append_assoc] at hleft
        rw [List.append_cons] at hmany
        exact ⟨left ++ .many p, marks', others ++ more,
          List.mem_append_left _ (List.mem_filterMap.mpr ⟨_, hleft, rfl⟩),
          takes_append_iff.mpr ⟨v, second, more, others, rfl, rfl, hmore, hmany⟩⟩
  | mark e => exact nomatch (takes_mark_iff.mp h).1
  | test a => exact nomatch (takes_test_iff.mp h).1

/-- What a pattern takes has the characters that every match has. -/
theorem Takes.mem_of_mem_required (h : p.Takes before u rest taken) :
    ∀ c ∈ p.required, c ∈ u := by
  induction h with
  | @one cls c _ _ hmem =>
    cases cls with
    | exactly d =>
      obtain rfl : c = d := of_decide_eq_true hmem
      exact fun _ hc ↦ hc
    | _ => exact List.forall_mem_nil _
  | cat _ _ ihp ihq =>
    refine List.forall_mem_append.mpr ⟨fun c hc ↦ ?_, fun c hc ↦ ?_⟩
    · exact List.mem_append_left _ (ihp c hc)
    · exact List.mem_append_right _ (ihq c hc)
  | _ => exact List.forall_mem_nil _

theorem isHopeless_eq_false {text : List Char} (h : p.Takes before u rest taken)
    (htext : text = before ++ (u ++ rest)) : p.isHopeless text = false := by
  refine List.any_eq_false.mpr fun c hc ↦ ?_
  have hmem : c ∈ text := by
    rw [htext]
    exact List.mem_append_right _ (List.mem_append_left _ (h.mem_of_mem_required c hc))
  simpa using hmem

end Progress

end Pattern

/-! ## Threads -/

/-- A match that starts at a place or before. -/
def EarlyMatch (offset : Nat) (found : Option Match) : Prop := ∃ m, found = some m ∧ m.start.offset ≤ offset

theorem EarlyMatch.or {offset : Nat} {better found : Option Match} (hfound : EarlyMatch offset found)
    (hbetter : ∀ m ∈ better, m.start.offset ≤ offset) : EarlyMatch offset (better.or found) := by
  cases better with
  | none => exact hfound
  | some m => exact ⟨m, rfl, hbetter m rfl⟩

namespace Thread

variable {here : Cursor} {offset : Nat} {threads next : List Thread}

/-- The threads all started at a place or before. -/
def Early (offset : Nat) (threads : List Thread) : Prop := ∀ t ∈ threads, t.start.offset ≤ offset

theorem Early.mono {offset' : Nat} (h : Early offset threads) (hle : offset ≤ offset') :
    Early offset' threads := fun t ht ↦ Nat.le_trans (h t ht) hle

theorem suffix_branch (here start : Cursor) (ways : List Way) (threads : List Thread) :
    threads <:+ (branch here start ways threads).1 := by
  induction ways generalizing threads with
  | nil => exact List.suffix_rfl
  | cons w ways ih =>
    cases w with
    | passes marks => exact List.suffix_rfl
    | takes rest marks =>
      refine List.IsSuffix.trans ?_ (ih _)
      split
      · exact List.suffix_rfl
      · exact List.suffix_cons ..

theorem suffix_advance (here : Cursor) (threads next : List Thread) :
    next <:+ (advance here threads next).1 := by
  induction threads generalizing next with
  | nil => exact List.suffix_rfl
  | cons t ts ih =>
    have hbranch := suffix_branch here t.start (t.rest.ways here t.marks) next
    rw [advance]
    split
    next heq =>
      rw [heq] at hbranch
      exact hbranch.trans (ih _)
    next heq =>
      rw [heq] at hbranch
      exact hbranch

/-- What a thread goes on to started where the thread did. -/
theorem early_branch (here : Cursor) {start : Cursor} (hstart : start.offset ≤ offset)
    (ways : List Way) (hthreads : Early offset threads) :
    Early offset (branch here start ways threads).1 ∧
      ∀ m ∈ (branch here start ways threads).2, m.start.offset ≤ offset := by
  induction ways generalizing threads with
  | nil => exact ⟨hthreads, nofun⟩
  | cons w ways ih =>
    cases w with
    | passes marks => exact ⟨hthreads, fun m hm ↦ Option.mem_some.mp hm ▸ hstart⟩
    | takes rest marks =>
      refine ih ?_
      split
      · exact hthreads
      · exact List.forall_mem_cons.mpr ⟨hstart, hthreads⟩

theorem early_advance (here : Cursor) (hthreads : Early offset threads) (hnext : Early offset next) :
    Early offset (advance here threads next).1 ∧
      ∀ m ∈ (advance here threads next).2, m.start.offset ≤ offset := by
  induction threads generalizing next with
  | nil => exact ⟨hnext, nofun⟩
  | cons t ts ih =>
    obtain ⟨ht, hts⟩ := List.forall_mem_cons.mp hthreads
    have hbranch := early_branch here ht (t.rest.ways here t.marks) hnext
    rw [advance]
    split
    next heq =>
      rw [heq] at hbranch
      exact ih hts hbranch.1
    next heq =>
      rw [heq] at hbranch
      exact hbranch

/-- Where no way ends in a match, all of them are followed. -/
theorem exists_mem_branch (here start : Cursor) (ways : List Way) (threads : List Thread)
    (hnone : (branch here start ways threads).2 = none) :
    ∀ w ∈ ways, ∃ rest marks, w = .takes rest marks ∧
      ∃ t ∈ (branch here start ways threads).1, t.rest = rest := by
  induction ways generalizing threads with
  | nil => exact List.forall_mem_nil _
  | cons w ways ih =>
    cases w with
    | passes marks => exact nomatch hnone
    | takes rest marks =>
      refine List.forall_mem_cons.mpr ⟨⟨rest, marks, rfl, ?_⟩, ih _ hnone⟩
      -- The way is followed already, or it is from now on.
      have hmem : ∃ t ∈ (if threads.any (·.rest = rest) then threads else ⟨start, rest, marks⟩ :: threads),
          t.rest = rest := by
        split
        next hany =>
          obtain ⟨t, ht, hrest⟩ := List.any_eq_true.mp hany
          exact ⟨t, ht, of_decide_eq_true hrest⟩
        next => exact ⟨_, List.mem_cons_self, rfl⟩
      obtain ⟨t, ht, hrest⟩ := hmem
      exact ⟨t, (suffix_branch here start ways _).subset ht, hrest⟩

/-- One of the threads is as wanted, and neither it nor those preferred to it started behind a
place. -/
def Hopeful (offset : Nat) (wanted : Pattern → Prop) (threads : List Thread) : Prop :=
  ∃ earlier t later, threads = earlier ++ t :: later ∧ Early offset (earlier ++ [t]) ∧ wanted t.rest

theorem Hopeful.append {wanted : Pattern → Prop} (h : Hopeful offset wanted threads)
    (more : List Thread) : Hopeful offset wanted (threads ++ more) := by
  obtain ⟨earlier, t, later, rfl, hearly, hwanted⟩ := h
  exact ⟨earlier, t, later ++ more, by simp, hearly, hwanted⟩

/-- Of threads that all started early, each may be the wanted one. -/
theorem hopeful_of_mem {wanted : Pattern → Prop} (hearly : Early offset threads) {t : Thread}
    (ht : t ∈ threads) (hwanted : wanted t.rest) : Hopeful offset wanted threads := by
  obtain ⟨earlier, later, rfl⟩ := List.append_of_mem ht
  refine ⟨earlier, t, later, rfl, fun t' ht' ↦ hearly t' ?_, hwanted⟩
  rw [List.append_cons]
  exact List.mem_append_left _ ht'

theorem Hopeful.ne_nil {wanted : Pattern → Prop} (h : Hopeful offset wanted threads) : threads ≠ [] := by
  obtain ⟨earlier, t, later, rfl, -⟩ := h
  exact List.append_ne_nil_of_right_ne_nil _ (List.cons_ne_nil t later)

/-- The wanted thread goes on, unless a match is found that starts early; then only early
threads do. -/
theorem Hopeful.advance {wanted : Pattern → Prop} (h : Hopeful offset wanted threads) (here : Cursor)
    (wanted' : Pattern → Prop)
    (hgoes : ∀ {rest} (marks), wanted rest → (∃ marks', .passes marks' ∈ rest.ways here marks) ∨
      ∃ left marks', .takes left marks' ∈ rest.ways here marks ∧ wanted' left)
    (hnext : Early offset next) :
    (Early offset (advance here threads next).1 ∧ EarlyMatch offset (advance here threads next).2) ∨
      Hopeful offset wanted' (advance here threads next).1.reverse := by
  obtain ⟨earlier, t, later, rfl, hearly, hwanted⟩ := h
  induction earlier generalizing next with
  | nil =>
    have ht : t.start.offset ≤ offset := hearly t (List.mem_singleton_self t)
    have hbranch := early_branch here ht (t.rest.ways here t.marks) hnext
    have hcovered := exists_mem_branch here t.start (t.rest.ways here t.marks) next
    rw [List.nil_append, Thread.advance]
    split
    next more heq =>
      rw [heq] at hbranch hcovered
      rcases hgoes t.marks hwanted with ⟨marks', hpasses⟩ | ⟨left, marks', htakes, hleft⟩
      · obtain ⟨_, _, hne, -⟩ := hcovered rfl _ hpasses
        cases hne
      · obtain ⟨_, _, heq, t', ht', rfl⟩ := hcovered rfl _ htakes
        obtain ⟨rfl, -⟩ := Way.takes.inj heq
        -- The threads that come later are less preferred than what the wanted one goes on to.
        obtain ⟨added, hadded⟩ := suffix_advance here later more
        rw [← hadded, List.reverse_append]
        refine .inr (.append (hopeful_of_mem ?_ (List.mem_reverse.mpr ht') hleft) _)
        exact fun t'' ht'' ↦ hbranch.1 t'' (List.mem_reverse.mp ht'')
    next more m heq =>
      rw [heq] at hbranch
      exact .inl ⟨hbranch.1, m, rfl, hbranch.2 m rfl⟩
  | cons e es ih =>
    obtain ⟨he, hes⟩ := List.forall_mem_cons.mp hearly
    have hbranch := early_branch here he (e.rest.ways here e.marks) hnext
    rw [List.cons_append, Thread.advance]
    split
    next heq =>
      rw [heq] at hbranch
      exact ih hbranch.1 hes
    next more m heq =>
      rw [heq] at hbranch
      exact .inl ⟨hbranch.1, m, rfl, hbranch.2 m rfl⟩

section CanTake

variable {before u rest : List Char} {c : Char}

/-- A thread that is through with a stretch ends in a match, if none before it does. -/
theorem Hopeful.passes (h : Hopeful offset (Pattern.CanTake before [] rest) threads) :
    Early offset (Thread.advance (.between before rest) threads []).1 ∧
      EarlyMatch offset (Thread.advance (.between before rest) threads []).2 := by
  have hround := h.advance (.between before rest) (fun _ ↦ False)
    (fun marks ⟨_, htakes⟩ ↦ .inl (Pattern.exists_passes htakes marks)) (List.forall_mem_nil _)
  exact hround.resolve_right fun ⟨_, _, _, _, _, hfalse⟩ ↦ hfalse

/-- A thread that is not through with a stretch takes its next character. -/
theorem Hopeful.takes (h : Hopeful offset (Pattern.CanTake before (c :: u) rest) threads) :
    (Early offset (Thread.advance (.between before (c :: (u ++ rest))) threads []).1 ∧
        EarlyMatch offset (Thread.advance (.between before (c :: (u ++ rest))) threads []).2) ∨
      Hopeful offset (Pattern.CanTake (before ++ [c]) u rest)
        (Thread.advance (.between before (c :: (u ++ rest))) threads []).1.reverse := by
  refine h.advance _ _ (fun marks ⟨_, htakes⟩ ↦ ?_) (List.forall_mem_nil _)
  obtain ⟨left, marks', more, hleft, hmore⟩ := Pattern.exists_takes htakes marks
  exact .inr ⟨left, marks', hleft, more, hmore⟩

end CanTake

end Thread

/-! ## Searches -/

namespace Pattern

open Thread (Early Hopeful)

variable {p : Pattern} {here : Cursor} {offset : Nat} {threads : List Thread} {found : Option Match}

/-- The threads that are followed at a place: one more starts as long as there is no match. -/
def started (p : Pattern) (here : Cursor) (threads : List Thread) (found : Option Match) : List Thread :=
  if found.isSome then threads else threads ++ [⟨here, p, []⟩]

/-- The threads that go on from a place, and the match so far. -/
def round (p : Pattern) (here : Cursor) (threads : List Thread) (found : Option Match) :
    List Thread × Option Match :=
  let (next, better) := Thread.advance here (p.started here threads found) []
  (next, better.or found)

theorem follow_cons (p : Pattern) (c : Char) (cs : List Char) (here : Cursor) (threads : List Thread)
    (found : Option Match) :
    p.follow (c :: cs) here threads found =
      if (p.round here threads found).1.isEmpty && (p.round here threads found).2.isSome then
        (p.round here threads found).2
      else p.follow cs (here.step c cs) (p.round here threads found).1.reverse
        (p.round here threads found).2 := rfl

/-- Once a match starts early, and so do all threads, the search ends with such a match. -/
theorem follow_of_early (rest : List Char) (hthreads : Early offset threads)
    (hfound : EarlyMatch offset found) : EarlyMatch offset (p.follow rest here threads found) := by
  have hround (here : Cursor) {threads : List Thread} {found : Option Match}
      (hthreads : Early offset threads) (hfound : EarlyMatch offset found) :
      Early offset (p.round here threads found).1 ∧ EarlyMatch offset (p.round here threads found).2 := by
    obtain ⟨m, rfl, hm⟩ := hfound
    obtain ⟨hnext, hbetter⟩ := Thread.early_advance here hthreads (List.forall_mem_nil _)
    exact ⟨hnext, .or ⟨m, rfl, hm⟩ hbetter⟩
  induction rest generalizing here threads found with
  | nil => exact (hround here hthreads hfound).2
  | cons c cs ih =>
    obtain ⟨hnext, hmatch⟩ := hround here hthreads hfound
    rw [follow_cons]
    split
    · exact hmatch
    · exact ih (fun t ht ↦ hnext t (List.mem_reverse.mp ht)) hmatch

/-- So it does if this is so after the next character. -/
theorem follow_of_round (rest : List Char) (hthreads : Early offset (p.round here threads found).1)
    (hfound : EarlyMatch offset (p.round here threads found).2) :
    EarlyMatch offset (p.follow rest here threads found) := by
  cases rest with
  | nil => exact hfound
  | cons c cs =>
    rw [follow_cons]
    split
    · exact hfound
    · exact follow_of_early cs (fun t ht ↦ hthreads t (List.mem_reverse.mp ht)) hfound

/-- A search that is not at its end goes on with the next character. -/
theorem follow_of_next {before cs : List Char} {c : Char}
    (hgoes : (p.round (.between before (c :: cs)) threads found).1 ≠ [] ∨
      (p.round (.between before (c :: cs)) threads found).2 = none)
    (hnext : EarlyMatch offset (p.follow cs (.between (before ++ [c]) cs)
      (p.round (.between before (c :: cs)) threads found).1.reverse
      (p.round (.between before (c :: cs)) threads found).2)) :
    EarlyMatch offset (p.follow (c :: cs) (.between before (c :: cs)) threads found) := by
  rw [follow_cons, Cursor.step_between, if_neg]
  · exact hnext
  · rw [Bool.and_eq_true, List.isEmpty_iff]
    rintro ⟨hnil, hsome⟩
    rcases hgoes with hne | hnone
    · exact hne hnil
    · rw [hnone] at hsome
      exact Bool.false_ne_true hsome

/-- A search ends with an early match if an early thread can take a stretch to its end. -/
theorem follow_of_hopeful {before u rest : List Char}
    (h : Hopeful offset (CanTake before u rest) (p.started (.between before (u ++ rest)) threads found)) :
    EarlyMatch offset (p.follow (u ++ rest) (.between before (u ++ rest)) threads found) := by
  induction u generalizing before threads found with
  | nil =>
    obtain ⟨hnext, m, hm, hstart⟩ := h.passes
    refine follow_of_round rest hnext ⟨m, ?_, hstart⟩
    exact Option.or_eq_some_iff.mpr (.inl hm)
  | cons c u ih =>
    rcases h.takes with ⟨hnext, m, hm, hstart⟩ | hnext
    · refine follow_of_round _ hnext ⟨m, ?_, hstart⟩
      exact Option.or_eq_some_iff.mpr (.inl hm)
    · refine follow_of_next (.inl fun hnil ↦ hnext.ne_nil (List.reverse_eq_nil_iff.mpr hnil)) (ih ?_)
      rw [started]
      split
      · exact hnext
      · exact hnext.append _

/-- Before there is a match, only threads that started here or before are followed. -/
theorem early_started (p : Pattern) (hthreads : Early offset threads) (hhere : here.offset ≤ offset) :
    Early offset (p.started here threads none) :=
  List.forall_mem_append.mpr ⟨hthreads, List.forall_mem_singleton.mpr hhere⟩

theorem early_round (p : Pattern) (hthreads : Early offset threads) (hhere : here.offset ≤ offset) :
    Early offset (p.round here threads none).1 ∧
      ∀ m, (p.round here threads none).2 = some m → m.start.offset ≤ offset := by
  obtain ⟨hnext, hbetter⟩ := Thread.early_advance here (early_started p hthreads hhere)
    (List.forall_mem_nil _)
  refine ⟨hnext, fun m hm ↦ hbetter m ?_⟩
  exact (Option.or_eq_some_iff.mp hm).resolve_right fun hnone ↦ nomatch hnone.2

/-- A search that has found nothing before a place where the pattern takes something ends with a
match that starts there or before. -/
theorem follow_reaches {before ahead u rest : List Char} {marks : Marks}
    (h : p.Takes (before ++ ahead) u rest marks) (hthreads : Early before.length threads) :
    EarlyMatch (before ++ ahead).length
      (p.follow (ahead ++ (u ++ rest)) (.between before (ahead ++ (u ++ rest))) threads none) := by
  induction ahead generalizing before threads with
  | nil =>
    rw [List.append_nil] at h ⊢
    rw [List.nil_append]
    exact follow_of_hopeful
      ⟨threads, _, [], rfl, early_started p hthreads (Nat.le_refl before.length), marks, h⟩
  | cons c ahead ih =>
    have hhere : (Cursor.between before (c :: (ahead ++ (u ++ rest)))).offset ≤ before.length :=
      Nat.le_refl _
    obtain ⟨hnext, hstart⟩ := early_round p hthreads hhere
    have hle : before.length ≤ (before ++ c :: ahead).length := by simp
    rw [List.cons_append]
    cases hcase : (p.round (.between before (c :: (ahead ++ (u ++ rest)))) threads none).2 with
    | some m =>
      exact follow_of_round _ (hnext.mono hle) ⟨m, hcase, Nat.le_trans (hstart m hcase) hle⟩
    | none =>
      refine follow_of_next (.inr hcase) ?_
      rw [hcase]
      rw [List.append_cons] at h ⊢
      exact ih h fun t ht ↦ Nat.le_trans (hnext t (List.mem_reverse.mp ht)) (by simp)

/-- Where the pattern takes something ahead, a match is found that starts there or before. -/
theorem exists_findFrom? {before ahead u rest : List Char} {marks : Marks}
    (h : p.Takes (before ++ ahead) u rest marks) :
    EarlyMatch (before ++ ahead).length (p.findFrom? (.between before (ahead ++ (u ++ rest)))) :=
  follow_reaches h (List.forall_mem_nil _)

/-- A match covers a place if it starts there, or if it starts before and ends behind it. -/
def Covers (m : Match) (offset : Nat) : Prop :=
  m.start.offset ≤ offset ∧ (offset < m.stop.offset ∨ m.start.offset = offset)

/-- Going on from match to match, a search does not leave out what the pattern takes. -/
theorem exists_mem_matchesFrom {before ahead u rest : List Char} {marks : Marks}
    (h : p.Takes (before ++ ahead) u rest marks) {bound : Nat}
    (hbound : (ahead ++ (u ++ rest)).length < bound) :
    ∃ m ∈ p.matchesFrom bound (.between before (ahead ++ (u ++ rest))),
      Covers m (before ++ ahead).length := by
  induction bound generalizing before ahead with
  | zero => exact absurd hbound (Nat.not_lt_zero _)
  | succ bound ih =>
    obtain ⟨m, hfind, hstart⟩ := exists_findFrom? h
    have hforward := le_of_findFrom? hfind
    rw [matchesFrom, hfind]
    dsimp only
    by_cases hcovers : Covers m (before ++ ahead).length
    · exact ⟨m, List.mem_cons_self, hcovers⟩
    have hle : m.stop.offset ≤ (before ++ ahead).length ∧ m.start.offset ≠ (before ++ ahead).length :=
      ⟨Nat.not_lt.mp fun hlt ↦ hcovers ⟨hstart, .inl hlt⟩, fun heq ↦ hcovers ⟨hstart, .inr heq⟩⟩
    -- The search goes on where the match stops, which is not behind the place.
    have htaken : m.IsTaken p (before ++ (ahead ++ (u ++ rest))) :=
      (kept_isTaken p _).findFrom? ⟨before, _, rfl, rfl⟩ m hfind
    obtain ⟨first, taken, left, htext, -, hstop, -⟩ := htaken
    rw [← List.append_assoc before, ← List.append_assoc first] at htext
    rw [hstop] at hforward hle
    obtain ⟨ahead', hahead, rfl⟩ := exists_eq_append htext.symm hle.1
    have hlength := congrArg List.length hahead
    simp only [List.length_append, Cursor.between] at hlength hforward hle hbound
    rw [hahead] at h ⊢
    rw [hstop]
    refine (?_ : ∃ m' ∈ _, _).imp fun m' hm' ↦ ⟨List.mem_cons_of_mem _ hm'.1, hm'.2⟩
    split
    next hlt =>
      simp only [List.length_append, Cursor.between] at hlt
      exact ih h (by simp only [List.length_append]; omega)
    next hnot =>
      simp only [List.length_append, Cursor.between] at hnot
      cases ahead' with
      | nil => exact absurd (by simp only [List.length_nil] at hlength; omega) hle.2
      | cons c ahead' =>
        rw [List.append_cons] at h ⊢
        simp only [List.length_cons] at hlength
        have hmatch := ih h (by simp only [List.length_append]; omega)
        rw [← Cursor.step_between] at hmatch
        exact hmatch

/-- A search does not leave out what the pattern takes: a match covers the place where it begins. -/
theorem exists_mem_occurrences {text before u rest : List Char} {marks : Marks}
    (htext : text = before ++ (u ++ rest)) (h : p.Takes before u rest marks) :
    ∃ m ∈ p.occurrences text, Covers m before.length := by
  have htakes : p.Takes ([] ++ before) u rest marks := h
  rw [occurrences, isHopeless_eq_false h htext, if_neg Bool.false_ne_true, htext]
  exact exists_mem_matchesFrom htakes (Nat.lt_succ_self _)

end Pattern

/-! ## Matches in a stretch -/

/-- Does a match lie in a stretch of the text, at least in part? -/
def Match.meets (m : Match) (start stop : Nat) : Bool :=
  m.start.offset < stop && start < m.stop.offset

/-- Of things that follow one another, one alone is chosen if no two that are chosen do. -/
theorem filter_eq_singleton {α : Type} {follows : α → α → Prop} {chosen : α → Bool} {xs : List α} {x : α}
    (hpairwise : xs.Pairwise follows) (hx : x ∈ xs) (hchosen : chosen x = true)
    (hnot : ∀ y ∈ xs, ∀ z ∈ xs, chosen y = true → chosen z = true → ¬follows y z) :
    xs.filter chosen = [x] := by
  have hmem : x ∈ xs.filter chosen := List.mem_filter.mpr ⟨hx, hchosen⟩
  have hfiltered := hpairwise.filter chosen
  have hof {y : α} (hy : y ∈ xs.filter chosen) : y ∈ xs ∧ chosen y = true := List.mem_filter.mp hy
  cases hcase : xs.filter chosen with
  | nil => exact absurd (hcase ▸ hmem) List.not_mem_nil
  | cons y ys =>
    rw [hcase] at hmem hfiltered hof
    cases ys with
    | nil => rw [List.mem_singleton.mp hmem]
    | cons z zs =>
      obtain ⟨hy, hychosen⟩ := hof List.mem_cons_self
      obtain ⟨hz, hzchosen⟩ := hof (List.mem_cons_of_mem _ List.mem_cons_self)
      exact absurd (List.rel_of_pairwise_cons hfiltered List.mem_cons_self) (hnot y hy z hz hychosen hzchosen)

/-- One match lies in a stretch if all that do end at one place and take something. -/
theorem Pattern.filter_meets_eq_singleton {p : Pattern} {text : List Char} {start stop last : Nat} {m : Match}
    (hm : m ∈ p.occurrences text) (hmeets : m.meets start stop = true)
    (hlast : ∀ m ∈ p.occurrences text, m.meets start stop = true →
      m.stop.offset = last ∧ m.start.offset < m.stop.offset) :
    (p.occurrences text).filter (·.meets start stop) = [m] := by
  refine filter_eq_singleton (pairwise_occurrences p text) hm hmeets fun y hy z hz hymeets hzmeets hle ↦ ?_
  obtain ⟨hystop, -⟩ := hlast y hy hymeets
  obtain ⟨hzstop, hlt⟩ := hlast z hz hzmeets
  omega

end CodeSurvey
