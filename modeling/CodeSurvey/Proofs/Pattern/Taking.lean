import CodeSurvey.Proofs.Pattern.Search

/-!
# What a pattern takes

A pattern takes a stretch of text that stands between what is before it and what is after
it.  Which stretches it takes is said by the shape of the pattern alone, without a search
and without preferences.  Step by step a search takes nothing else: what it finds is a
stretch that the pattern takes, and the marks are those that were set on the way.
-/

namespace CodeSurvey

/-- Where a text is cut twice, a part lies between the two cuts. -/
theorem exists_eq_append {a b c d : List Char} (h : a ++ b = c ++ d) (hle : a.length ≤ c.length) :
    ∃ e, c = a ++ e ∧ b = e ++ d := by
  obtain ⟨e, rfl⟩ := List.prefix_of_prefix_length_le (List.prefix_append a b)
    (h ▸ List.prefix_append c d) hle
  rw [List.append_assoc] at h
  exact ⟨e, rfl, List.append_cancel_left h⟩

/-- The place between two parts of a text. -/
def Cursor.between (before rest : List Char) : Cursor := ⟨before.getLast?, rest, before.length⟩

theorem Cursor.step_between (before rest : List Char) (c : Char) :
    (between before (c :: rest)).step c rest = between (before ++ [c]) rest := by
  simp [step, between]

theorem Cursor.textTo_between (before taken rest : List Char) :
    (between before (taken ++ rest)).textTo (between (before ++ taken) rest) = taken := by
  simp [textTo, between]

/-- What begins a line does not begin within another one. -/
theorem Anchor.exists_before_of_lineStart {before line after b s : List Char} (hline : '\n' ∉ line)
    (htext : before ++ (line ++ after) = b ++ s) (hstart : lineStart.holds (.between b s) = true)
    (hlt : b.length < (before ++ line).length) : ∃ d, before = b ++ d ∧ s = d ++ (line ++ after) := by
  rcases Nat.lt_or_ge before.length b.length with hwithin | hle
  · obtain ⟨x, rfl, hx⟩ := exists_eq_append htext (Nat.le_of_lt hwithin)
    simp only [List.length_append] at hwithin hlt
    obtain ⟨y, rfl, -⟩ := exists_eq_append hx.symm (by omega)
    have hne : x ≠ [] := List.ne_nil_of_length_pos (by omega)
    have hlast : (before ++ x).getLast? = some (x.getLast hne) := by
      rw [List.getLast?_append, List.getLast?_eq_some_getLast hne, Option.some_or]
    have hnewline : x.getLast hne = '\n' := by
      simpa [holds, Cursor.between, hlast] using hstart
    exact absurd (List.mem_append_left _ (hnewline ▸ List.getLast_mem hne)) hline
  · exact exists_eq_append htext.symm hle

namespace Pattern

/-- A pattern takes a stretch of text, given what is before and after it, and sets marks, the
latest first. -/
inductive Takes : Pattern → (before taken rest : List Char) → Marks → Prop where
  | empty {before rest} : Takes empty before [] rest []
  | one {cls c before rest} (hmem : cls.mem c = true) : Takes (one cls) before [c] rest []
  | run {cls least greedy before taken rest} (hall : ∀ c ∈ taken, cls.mem c = true)
      (hleast : least ≤ taken.length) : Takes (run cls least greedy) before taken rest []
  | cat {p q before u v rest marks more} (hp : Takes p before u (v ++ rest) marks)
      (hq : Takes q (before ++ u) v rest more) : Takes (cat p q) before (u ++ v) rest (more ++ marks)
  | left {p q before taken rest marks} (hp : Takes p before taken rest marks) :
      Takes (either p q) before taken rest marks
  | right {p q before taken rest marks} (hq : Takes q before taken rest marks) :
      Takes (either p q) before taken rest marks
  | stop {p before rest} : Takes (many p) before [] rest []
  | again {p before u v rest marks more} (hne : u ≠ []) (hp : Takes p before u (v ++ rest) marks)
      (hmany : Takes (many p) (before ++ u) v rest more) :
      Takes (many p) before (u ++ v) rest (more ++ marks)
  | mark {e before rest} : Takes (mark e) before [] rest [(e, .between before rest)]
  | test {a before rest} (hholds : a.holds (.between before rest) = true) :
      Takes (test a) before [] rest []

section Inversion

variable {p q : Pattern} {before taken rest : List Char} {marks : Marks}

theorem takes_empty_iff : empty.Takes before taken rest marks ↔ taken = [] ∧ marks = [] := by
  constructor
  · rintro ⟨⟩
    exact ⟨rfl, rfl⟩
  · rintro ⟨rfl, rfl⟩
    exact .empty

theorem takes_one_iff {cls : CharClass} :
    (one cls).Takes before taken rest marks ↔ ∃ c, cls.mem c = true ∧ taken = [c] ∧ marks = [] := by
  constructor
  · rintro ⟨⟩
    exact ⟨_, ‹_›, rfl, rfl⟩
  · rintro ⟨c, hmem, rfl, rfl⟩
    exact .one hmem

theorem takes_run_iff {cls : CharClass} {least : Nat} {greedy : Bool} :
    (run cls least greedy).Takes before taken rest marks ↔
      (∀ c ∈ taken, cls.mem c = true) ∧ least ≤ taken.length ∧ marks = [] := by
  constructor
  · rintro ⟨⟩
    exact ⟨‹_›, ‹_›, rfl⟩
  · rintro ⟨hall, hleast, rfl⟩
    exact .run hall hleast

theorem takes_cat_iff :
    (cat p q).Takes before taken rest marks ↔ ∃ u v first second, taken = u ++ v ∧
      marks = second ++ first ∧ p.Takes before u (v ++ rest) first ∧ q.Takes (before ++ u) v rest second := by
  constructor
  · rintro ⟨⟩
    exact ⟨_, _, _, _, rfl, rfl, ‹_›, ‹_›⟩
  · rintro ⟨u, v, first, second, rfl, rfl, hp, hq⟩
    exact .cat hp hq

theorem takes_either_iff :
    (either p q).Takes before taken rest marks ↔
      p.Takes before taken rest marks ∨ q.Takes before taken rest marks := by
  constructor
  · rintro (_ | _)
    · exact .inl ‹_›
    · exact .inr ‹_›
  · rintro (hp | hq)
    · exact .left hp
    · exact .right hq

theorem takes_many_iff :
    (many p).Takes before taken rest marks ↔ (taken = [] ∧ marks = []) ∨
      ∃ u v first second, u ≠ [] ∧ taken = u ++ v ∧ marks = second ++ first ∧
        p.Takes before u (v ++ rest) first ∧ (many p).Takes (before ++ u) v rest second := by
  constructor
  · rintro (_ | _)
    · exact .inl ⟨rfl, rfl⟩
    · exact .inr ⟨_, _, _, _, ‹_›, rfl, rfl, ‹_›, ‹_›⟩
  · rintro (⟨rfl, rfl⟩ | ⟨u, v, first, second, hne, rfl, rfl, hp, hmany⟩)
    · exact .stop
    · exact .again hne hp hmany

theorem takes_mark_iff {e : GroupEnd} :
    (mark e).Takes before taken rest marks ↔ taken = [] ∧ marks = [(e, .between before rest)] := by
  constructor
  · rintro ⟨⟩
    exact ⟨rfl, rfl⟩
  · rintro ⟨rfl, rfl⟩
    exact .mark

theorem takes_test_iff {a : Anchor} :
    (test a).Takes before taken rest marks ↔
      taken = [] ∧ a.holds (.between before rest) = true ∧ marks = [] := by
  constructor
  · rintro ⟨⟩
    exact ⟨rfl, ‹_›, rfl⟩
  · rintro ⟨rfl, hholds, rfl⟩
    exact .test hholds

/-- Where chains end does not matter. -/
theorem takes_append_iff :
    (p ++ q).Takes before taken rest marks ↔ ∃ u v first second, taken = u ++ v ∧
      marks = second ++ first ∧ p.Takes before u (v ++ rest) first ∧ q.Takes (before ++ u) v rest second := by
  induction p generalizing before taken marks with
  | empty =>
    change q.Takes before taken rest marks ↔ _
    constructor
    · intro hq
      exact ⟨[], taken, [], marks, rfl, (List.append_nil marks).symm, .empty, by rwa [List.append_nil]⟩
    · rintro ⟨u, v, first, second, rfl, rfl, hp, hq⟩
      obtain ⟨rfl, rfl⟩ := takes_empty_iff.mp hp
      rwa [List.append_nil] at hq ⊢
  | cat a b _ ihb =>
    change (cat a (b ++ q)).Takes before taken rest marks ↔ _
    rw [takes_cat_iff]
    constructor
    · rintro ⟨u, _, first, _, rfl, rfl, ha, hbq⟩
      obtain ⟨v, w, second, third, rfl, rfl, hb, hq⟩ := ihb.mp hbq
      rw [List.append_assoc] at ha
      rw [List.append_assoc] at hq
      exact ⟨u ++ v, w, second ++ first, third, (List.append_assoc ..).symm, List.append_assoc ..,
        .cat ha hb, hq⟩
    · rintro ⟨_, w, _, third, rfl, rfl, hab, hq⟩
      obtain ⟨u, v, first, second, rfl, rfl, ha, hb⟩ := takes_cat_iff.mp hab
      rw [← List.append_assoc] at hq
      rw [← List.append_assoc] at ha
      exact ⟨u, v ++ w, first, third ++ second, List.append_assoc .., (List.append_assoc ..).symm, ha,
        ihb.mpr ⟨v, w, second, third, rfl, rfl, hb, hq⟩⟩
  | _ => exact takes_cat_iff

end Inversion

section Wording

variable {p : Pattern} {before taken rest : List Char} {marks : Marks}

theorem takes_literal_iff {s : String} :
    (literal s).Takes before taken rest marks ↔ taken = s.toList ∧ marks = [] := by
  rw [literal]
  generalize s.toList = word
  induction word generalizing before taken marks with
  | nil => exact takes_empty_iff
  | cons c cs ih =>
    rw [List.foldr_cons, takes_cat_iff]
    constructor
    · rintro ⟨u, v, first, second, rfl, rfl, hone, hmore⟩
      obtain ⟨d, hmem, rfl, rfl⟩ := takes_one_iff.mp hone
      obtain ⟨rfl, rfl⟩ := ih.mp hmore
      obtain rfl : d = c := of_decide_eq_true hmem
      exact ⟨rfl, rfl⟩
    · rintro ⟨rfl, rfl⟩
      exact ⟨[c], cs, [], [], rfl, rfl, .one (decide_eq_true rfl), ih.mpr ⟨rfl, rfl⟩⟩

theorem takes_optional_iff :
    (optional p).Takes before taken rest marks ↔
      p.Takes before taken rest marks ∨ taken = [] ∧ marks = [] := by
  rw [optional, takes_either_iff, takes_empty_iff]

/-- A group sets a mark on either side of what its body takes. -/
theorem takes_group_iff {number : Nat} :
    (group number p).Takes before taken rest marks ↔ ∃ inner, p.Takes before taken rest inner ∧
      marks = (.closes number, .between (before ++ taken) rest) :: inner ++
        [(.opens number, .between before (taken ++ rest))] := by
  rw [group, takes_append_iff]
  constructor
  · rintro ⟨_, v, _, third, rfl, rfl, hopen, hclose⟩
    obtain ⟨u, w, first, inner, rfl, rfl, hfirst, hbody⟩ := takes_append_iff.mp hopen
    obtain ⟨rfl, rfl⟩ := takes_mark_iff.mp hfirst
    obtain ⟨rfl, rfl⟩ := takes_mark_iff.mp hclose
    rw [List.append_nil] at hbody
    simp only [List.nil_append, List.append_nil] at hbody ⊢
    exact ⟨inner, hbody, rfl⟩
  · rintro ⟨inner, hbody, rfl⟩
    refine ⟨taken, [], inner ++ [(.opens number, .between before (taken ++ rest))],
      [(.closes number, .between (before ++ taken) rest)], (List.append_nil _).symm, rfl, ?_, .mark⟩
    refine takes_append_iff.mpr ⟨[], taken, _, inner, rfl, rfl, .mark, ?_⟩
    rwa [List.append_nil]

end Wording

/-- A group took what lies between its marks. -/
theorem group?_of_marks (start stop : Cursor) (number : Nat) (before taken rest : List Char) :
    (Match.mk start stop [(.closes number, .between (before ++ taken) rest),
      (.opens number, .between before (taken ++ rest))]).group? number = some taken := by
  have hends : (GroupEnd.opens number == .closes number) = false := beq_false_of_ne nofun
  simp [Match.group?, List.lookup_cons, hends, Cursor.textTo_between]

/-! ### Whether something can be taken -/

/-- Can a pattern take a stretch of text? -/
def CanTake (before taken rest : List Char) (p : Pattern) : Prop := ∃ marks, p.Takes before taken rest marks

section CanTake

variable {p q : Pattern} {before taken u v rest : List Char}

theorem CanTake.append (hp : p.CanTake before u (v ++ rest)) (hq : q.CanTake (before ++ u) v rest) :
    (p ++ q).CanTake before (u ++ v) rest := by
  obtain ⟨first, hp⟩ := hp
  obtain ⟨second, hq⟩ := hq
  exact ⟨second ++ first, takes_append_iff.mpr ⟨u, v, first, second, rfl, rfl, hp, hq⟩⟩

theorem canTake_literal (s : String) : (literal s).CanTake before s.toList rest :=
  ⟨[], takes_literal_iff.mpr ⟨rfl, rfl⟩⟩

theorem canTake_run {cls : CharClass} {least : Nat} {greedy : Bool}
    (hall : ∀ c ∈ taken, cls.mem c = true) (hleast : least ≤ taken.length) :
    (run cls least greedy).CanTake before taken rest :=
  ⟨[], .run hall hleast⟩

theorem canTake_test {a : Anchor} (h : a.holds (.between before rest) = true) :
    (test a).CanTake before [] rest :=
  ⟨[], .test h⟩

theorem CanTake.optional (h : p.CanTake before taken rest) : (optional p).CanTake before taken rest :=
  h.imp fun _ ↦ .left

theorem canTake_optional_nil : (optional p).CanTake before [] rest := ⟨[], .right .empty⟩

theorem CanTake.group (h : p.CanTake before taken rest) (number : Nat) :
    (group number p).CanTake before taken rest := by
  obtain ⟨inner, hp⟩ := h
  exact ⟨_, takes_group_iff.mpr ⟨inner, hp, rfl⟩⟩

end CanTake

end Pattern

/-! ## What a search takes -/

/-- A way at a place leads to stretches that the pattern takes there. -/
def Way.Leads (p : Pattern) (before rest : List Char) (marks : Marks) : Way → Prop
  | passes marks' => ∃ new, marks' = new ++ marks ∧ p.Takes before [] rest new
  | takes left marks' => ∃ new c cs, marks' = new ++ marks ∧ rest = c :: cs ∧
      ∀ {u r more}, cs = u ++ r → left.Takes (before ++ [c]) u r more →
        p.Takes before (c :: u) r (more ++ new)

section Leads

variable {p q : Pattern} {before rest : List Char} {marks : Marks} {w : Way}

theorem exists_of_any_head? {test : Char → Bool} {s : List Char} (h : s.head?.any test = true) :
    ∃ c cs, s = c :: cs ∧ test c = true := by
  cases s with
  | nil => exact nomatch h
  | cons c cs => exact ⟨c, cs, rfl, h⟩

theorem Way.Leads.left (h : w.Leads p before rest marks) : w.Leads (.either p q) before rest marks := by
  cases w with
  | passes _ =>
    obtain ⟨new, hnew, hp⟩ := h
    exact ⟨new, hnew, .left hp⟩
  | takes _ _ =>
    obtain ⟨new, c, cs, hnew, hrest, hp⟩ := h
    exact ⟨new, c, cs, hnew, hrest, fun hcs hleft ↦ .left (hp hcs hleft)⟩

theorem Way.Leads.right (h : w.Leads q before rest marks) : w.Leads (.either p q) before rest marks := by
  cases w with
  | passes _ =>
    obtain ⟨new, hnew, hq⟩ := h
    exact ⟨new, hnew, .right hq⟩
  | takes _ _ =>
    obtain ⟨new, c, cs, hnew, hrest, hq⟩ := h
    exact ⟨new, c, cs, hnew, hrest, fun hcs hleft ↦ .right (hq hcs hleft)⟩

/-- After a first pattern that takes nothing here, a second one goes on. -/
theorem Way.Leads.after {new : Marks} (hp : p.Takes before [] rest new)
    (h : w.Leads q before rest (new ++ marks)) : w.Leads (.cat p q) before rest marks := by
  have hcat {u r more} (hr : rest = u ++ r) (hq : q.Takes before u r more) :
      (Pattern.cat p q).Takes before u r (more ++ new) := by
    subst hr
    exact Pattern.Takes.cat hp (by rwa [List.append_nil])
  cases w with
  | passes _ =>
    obtain ⟨more, rfl, hq⟩ := h
    exact ⟨more ++ new, (List.append_assoc ..).symm, hcat rfl hq⟩
  | takes _ _ =>
    obtain ⟨more, c, cs, rfl, rfl, hq⟩ := h
    refine ⟨more ++ new, c, cs, (List.append_assoc ..).symm, rfl, fun hcs hleft ↦ ?_⟩
    rw [← List.append_assoc]
    exact hcat (congrArg (c :: ·) hcs) (hq hcs hleft)

/-- Nothing but what the pattern takes lies on its ways. -/
theorem Pattern.leads_ways (p : Pattern) (before rest : List Char) (marks : Marks) :
    ∀ w ∈ p.ways (.between before rest) marks, w.Leads p before rest marks := by
  induction p generalizing marks with
  | empty => exact List.forall_mem_singleton.mpr ⟨[], rfl, .empty⟩
  | one cls =>
    rw [ways]
    split
    next h =>
      obtain ⟨c, cs, hrest, hmem⟩ := exists_of_any_head? h
      refine List.forall_mem_singleton.mpr ⟨[], c, cs, rfl, hrest, fun _ hleft ↦ ?_⟩
      obtain ⟨rfl, rfl⟩ := takes_empty_iff.mp hleft
      exact .one hmem
    next => exact List.forall_mem_nil _
  | run cls least greedy =>
    have hmore : ∀ w ∈ (if (Cursor.between before rest).rest.head?.any cls.mem then
        [.takes (run cls (least - 1) greedy) marks] else [] : List Way),
        w.Leads (run cls least greedy) before rest marks := by
      split
      next h =>
        obtain ⟨c, cs, hrest, hmem⟩ := exists_of_any_head? h
        refine List.forall_mem_singleton.mpr ⟨[], c, cs, rfl, hrest, fun _ hleft ↦ ?_⟩
        obtain ⟨hall, hleast, rfl⟩ := takes_run_iff.mp hleft
        exact .run (List.forall_mem_cons.mpr ⟨hmem, hall⟩) (Nat.sub_le_iff_le_add.mp hleast)
      next => exact List.forall_mem_nil _
    rw [ways]
    split
    next => exact hmore
    next hleast =>
      obtain rfl : least = 0 := Decidable.not_not.mp hleast
      have hpass : (Way.passes marks).Leads (run cls 0 greedy) before rest marks :=
        ⟨[], rfl, .run (List.forall_mem_nil _) (Nat.le_refl 0)⟩
      split
      · exact List.forall_mem_append.mpr ⟨hmore, List.forall_mem_singleton.mpr hpass⟩
      · exact List.forall_mem_cons.mpr ⟨hpass, hmore⟩
  | cat p q ihp ihq =>
    rw [ways]
    intro w hw
    obtain ⟨w', hw', hw⟩ := List.mem_flatMap.mp hw
    have hfirst := ihp marks w' hw'
    cases w' with
    | passes marks' =>
      obtain ⟨new, rfl, hp⟩ := hfirst
      exact .after hp (ihq _ w hw)
    | takes left marks' =>
      obtain rfl := List.mem_singleton.mp hw
      obtain ⟨new, c, cs, rfl, rfl, hp⟩ := hfirst
      refine ⟨new, c, cs, rfl, rfl, fun {_ r _} hcs hleft ↦ ?_⟩
      obtain ⟨u, v, first, second, rfl, rfl, hu, hv⟩ := takes_append_iff.mp hleft
      rw [List.append_assoc] at hcs hv
      rw [List.append_assoc]
      exact .cat (hp hcs hu) hv
  | either p q ihp ihq =>
    rw [ways]
    exact List.forall_mem_append.mpr
      ⟨fun w hw ↦ .left (ihp marks w hw), fun w hw ↦ .right (ihq marks w hw)⟩
  | many p ih =>
    rw [ways]
    refine List.forall_mem_append.mpr ⟨fun w hw ↦ ?_, List.forall_mem_singleton.mpr ⟨[], rfl, .stop⟩⟩
    obtain ⟨w', hw', hsome⟩ := List.mem_filterMap.mp hw
    have hround := ih marks w' hw'
    cases w' with
    | passes marks' => cases hsome
    | takes left marks' =>
      obtain rfl := Option.some.inj hsome
      obtain ⟨new, c, cs, rfl, rfl, hp⟩ := hround
      refine ⟨new, c, cs, rfl, rfl, fun {_ r _} hcs hleft ↦ ?_⟩
      obtain ⟨u, v, first, second, rfl, rfl, hu, hv⟩ := takes_append_iff.mp hleft
      rw [List.append_assoc] at hcs hv
      rw [List.append_assoc]
      exact .again (List.cons_ne_nil c u) (hp hcs hu) hv
  | mark e => exact List.forall_mem_singleton.mpr ⟨[(e, .between before rest)], rfl, .mark⟩
  | test a =>
    rw [ways]
    split
    next h => exact List.forall_mem_singleton.mpr ⟨[], rfl, .test h⟩
    next => exact List.forall_mem_nil _

end Leads

/-- A match is a stretch of a text that the pattern takes. -/
def Match.IsTaken (p : Pattern) (text : List Char) (m : Match) : Prop :=
  ∃ before taken rest, text = before ++ (taken ++ rest) ∧ m.start = .between before (taken ++ rest) ∧
    m.stop = .between (before ++ taken) rest ∧ p.Takes before taken rest m.marks

/-- What a thread has taken, and what is left of it, is taken by the pattern as a whole. -/
def Thread.IsOnWay (p : Pattern) (text : List Char) (here : Cursor) (t : Thread) : Prop :=
  ∃ before taken rest, text = before ++ (taken ++ rest) ∧ t.start = .between before (taken ++ rest) ∧
    here = .between (before ++ taken) rest ∧
    ∀ {u r more}, rest = u ++ r → t.rest.Takes (before ++ taken) u r more →
      p.Takes before (taken ++ u) r (more ++ t.marks)

/-- A search takes what the pattern takes. -/
theorem kept_isTaken (p : Pattern) (text : List Char) :
    Kept p (fun here ↦ ∃ before rest, text = before ++ rest ∧ here = .between before rest)
      (Thread.IsOnWay p text) (Match.IsTaken p text) where
  starts := by
    rintro _ ⟨before, rest, htext, rfl⟩
    refine ⟨before, [], rest, htext, rfl, by rw [List.append_nil], fun _ hp ↦ ?_⟩
    rw [List.append_nil] at hp ⊢
    exact hp
  takes := by
    rintro _ c cs t left marks - hnext ⟨before, taken, rest, rfl, hstart, rfl, hway⟩ hw
    obtain ⟨new, c', cs', rfl, rfl, hleft⟩ := Pattern.leads_ways _ _ _ _ _ hw
    obtain ⟨rfl, rfl⟩ : c' = c ∧ cs' = cs := List.cons.inj hnext
    refine ⟨before, taken ++ [c'], cs', by simp, by simpa using hstart, ?_, fun {u r more} hcs hu ↦ ?_⟩
    · rw [Cursor.step_between, List.append_assoc]
    · rw [← List.append_assoc] at hu
      have htaken := hway (congrArg (c' :: ·) hcs) (hleft hcs hu)
      rw [List.append_assoc] at htaken
      rw [List.append_assoc]
      exact htaken
  passes := by
    rintro _ t marks - ⟨before, taken, rest, rfl, hstart, rfl, hway⟩ hw
    obtain ⟨new, rfl, hp⟩ := Pattern.leads_ways _ _ _ _ _ hw
    have htaken := hway rfl hp
    rw [List.append_nil] at htaken
    exact ⟨before, taken, rest, rfl, hstart, rfl, htaken⟩
  steps := by
    rintro _ c cs ⟨before, rest, rfl, rfl⟩ hrest
    obtain rfl : rest = c :: cs := hrest
    exact ⟨before ++ [c], cs, by simp, Cursor.step_between ..⟩
  stops := by
    rintro m ⟨before, taken, rest, rfl, -, hstop, -⟩
    exact ⟨before ++ taken, rest, by simp, hstop⟩

theorem Match.isTaken_of_mem_occurrences {p : Pattern} {text : List Char} {m : Match}
    (h : m ∈ p.occurrences text) : m.IsTaken p text :=
  (kept_isTaken p text).occurrences ⟨[], text, rfl, rfl⟩ m h

end CodeSurvey
