import CodeSurvey.Text.Basic
import Mathlib.Data.List.Induction
import Mathlib.Data.List.TakeWhile

/-!
# Pieces of text

The pieces between separators hold no separator and lie in the text, and putting
pieces together again with separators between them undoes the cutting.
-/

namespace CodeSurvey.Text

theorem hasInfix_iff {needle s : List Char} : hasInfix needle s = true ↔ needle <:+: s := by
  induction s with
  | nil => simp [hasInfix]
  | cons c cs ih => simp [hasInfix, ih, List.infix_cons_iff]

/-! ## Cutting -/

variable {isSep : Char → Bool}

theorem pieces_cons_of_sep {c : Char} (h : isSep c = true) (cs : List Char) :
    pieces isSep (c :: cs) = [] :: pieces isSep cs := by
  obtain ⟨p, ps, heq⟩ := List.exists_cons_of_ne_nil (pieces_ne_nil isSep cs)
  simp [pieces, heq, h]

theorem pieces_cons_of_not_sep {c : Char} (h : isSep c = false) (cs : List Char) :
    ∃ p ps, pieces isSep cs = p :: ps ∧ pieces isSep (c :: cs) = (c :: p) :: ps := by
  obtain ⟨p, ps, heq⟩ := List.exists_cons_of_ne_nil (pieces_ne_nil isSep cs)
  exact ⟨p, ps, heq, by simp [pieces, heq, h]⟩

/-- The first piece begins the text, and the other pieces lie in it. -/
theorem prefix_and_infix_of_pieces {s : List Char} {p : List Char} {ps : List (List Char)}
    (h : pieces isSep s = p :: ps) : p <+: s ∧ ∀ q ∈ ps, q <:+: s := by
  induction s generalizing p ps with
  | nil =>
    obtain ⟨rfl, rfl⟩ : [] = p ∧ [] = ps := by simpa [pieces] using h
    simp
  | cons c cs ih =>
    cases hc : isSep c with
    | true =>
      obtain ⟨rfl, rfl⟩ : [] = p ∧ pieces isSep cs = ps := by
        simpa [pieces_cons_of_sep hc] using h
      refine ⟨List.nil_prefix, fun q hq ↦ ?_⟩
      obtain ⟨p', ps', heq⟩ := List.exists_cons_of_ne_nil (pieces_ne_nil isSep cs)
      obtain ⟨hpre, hin⟩ := ih heq
      rw [heq] at hq
      rcases List.mem_cons.mp hq with rfl | hq
      · exact hpre.isInfix.trans (List.suffix_cons c cs).isInfix
      · exact (hin q hq).trans (List.suffix_cons c cs).isInfix
    | false =>
      obtain ⟨p', ps', heq, hcons⟩ := pieces_cons_of_not_sep hc cs
      obtain ⟨rfl, rfl⟩ : c :: p' = p ∧ ps' = ps := by simpa [hcons] using h
      obtain ⟨hpre, hin⟩ := ih heq
      exact ⟨List.cons_prefix_cons.mpr ⟨rfl, hpre⟩,
        fun q hq ↦ (hin q hq).trans (List.suffix_cons c cs).isInfix⟩

theorem infix_of_mem_pieces {s p : List Char} (h : p ∈ pieces isSep s) : p <:+: s := by
  obtain ⟨q, qs, heq⟩ := List.exists_cons_of_ne_nil (pieces_ne_nil isSep s)
  obtain ⟨hpre, hin⟩ := prefix_and_infix_of_pieces heq
  rw [heq] at h
  rcases List.mem_cons.mp h with rfl | h
  · exact hpre.isInfix
  · exact hin p h

/-- No piece holds a separator. -/
theorem not_sep_of_mem_pieces {s p : List Char} (h : p ∈ pieces isSep s) {c : Char} (hc : c ∈ p) :
    isSep c = false := by
  induction s generalizing p with
  | nil =>
    obtain rfl : p = [] := by simpa [pieces] using h
    cases hc
  | cons d ds ih =>
    cases hd : isSep d with
    | true =>
      rw [pieces_cons_of_sep hd] at h
      rcases List.mem_cons.mp h with rfl | h
      · cases hc
      · exact ih h hc
    | false =>
      obtain ⟨q, qs, heq, hcons⟩ := pieces_cons_of_not_sep hd ds
      rw [hcons] at h
      rcases List.mem_cons.mp h with rfl | h
      · rcases List.mem_cons.mp hc with rfl | hc
        · exact hd
        · exact ih (heq ▸ List.mem_cons_self) hc
      · exact ih (heq ▸ List.mem_cons_of_mem _ h) hc

/-- A character separates two pieces or is in one. -/
theorem sep_or_mem_pieces (isSep : Char → Bool) {s : List Char} {c : Char} (hc : c ∈ s) :
    isSep c = true ∨ ∃ p ∈ pieces isSep s, c ∈ p := by
  induction s with
  | nil => exact nomatch hc
  | cons d ds ih =>
    cases hd : isSep d with
    | true =>
      rcases List.mem_cons.mp hc with rfl | hc
      · exact .inl hd
      · rw [pieces_cons_of_sep hd]
        exact (ih hc).imp_right fun ⟨p, hp, hcp⟩ ↦ ⟨p, List.mem_cons_of_mem _ hp, hcp⟩
    | false =>
      obtain ⟨q, qs, heq, hcons⟩ := pieces_cons_of_not_sep hd ds
      rw [hcons]
      rcases List.mem_cons.mp hc with rfl | hc
      · exact .inr ⟨c :: q, List.mem_cons_self, List.mem_cons_self⟩
      · rw [heq] at ih
        refine (ih hc).imp_right fun ⟨p, hp, hcp⟩ ↦ ?_
        rcases List.mem_cons.mp hp with rfl | hp
        · exact ⟨d :: p, List.mem_cons_self, List.mem_cons_of_mem _ hcp⟩
        · exact ⟨p, List.mem_cons_of_mem _ hp, hcp⟩

/-- The pieces are those of the library. -/
theorem pieces_eq_splitOnP (isSep : Char → Bool) (s : List Char) : pieces isSep s = s.splitOnP isSep := by
  induction s with
  | nil => rfl
  | cons c cs ih =>
    rw [List.splitOnP_cons_eq_if_modifyHead, ← ih]
    cases hc : isSep c with
    | true => exact pieces_cons_of_sep hc cs
    | false =>
      obtain ⟨p, ps, heq, hcons⟩ := pieces_cons_of_not_sep hc cs
      rw [hcons, heq]
      rfl

theorem no_sep_of_notMem {sep : Char} {s : List Char} (h : sep ∉ s) : ∀ c ∈ s, decide (c = sep) = false :=
  fun _ hc ↦ decide_eq_false fun heq ↦ h (heq ▸ hc)

theorem pieces_of_no_sep {s : List Char} (h : ∀ c ∈ s, isSep c = false) : pieces isSep s = [s] := by
  rw [pieces_eq_splitOnP, List.splitOnP_eq_singleton h]

/-- A separator ends the pieces before it. -/
theorem pieces_append_cons {sep : Char} (hsep : isSep sep = true) (s rest : List Char) :
    pieces isSep (s ++ sep :: rest) = pieces isSep s ++ pieces isSep rest := by
  rw [pieces_eq_splitOnP, List.splitOnP_append_cons s rest hsep, pieces_eq_splitOnP, pieces_eq_splitOnP]

/-- It makes no difference what would separate that is not in the text. -/
theorem pieces_congr {isSep' : Char → Bool} {s : List Char} (h : ∀ c ∈ s, isSep c = isSep' c) :
    pieces isSep s = pieces isSep' s := by
  induction s with
  | nil => rfl
  | cons c cs ih =>
    rw [pieces, pieces, h c List.mem_cons_self, ih fun d hd ↦ h d (List.mem_cons_of_mem _ hd)]

/-- To replace one separator by another is to cut at both. -/
theorem pieces_replaceChar (old new : Char) (s : List Char) :
    pieces (· = new) (replaceChar old new s) = pieces (fun c ↦ c = new || c = old) s := by
  induction s with
  | nil => rfl
  | cons c cs ih =>
    have hcons : replaceChar old new (c :: cs) = (if c = old then new else c) :: replaceChar old new cs := rfl
    obtain ⟨p, ps, heq⟩ := List.exists_cons_of_ne_nil (pieces_ne_nil (fun c ↦ c = new || c = old) cs)
    rw [hcons, pieces, pieces, ih, heq]
    by_cases hold : c = old <;> simp [hold]

/-! ## The last piece -/

/-- A text without separators, or what is around the last one. -/
theorem eq_append_or_no_sep (isSep : Char → Bool) (s : List Char) :
    (∀ c ∈ s, isSep c = false) ∨
      ∃ before sep after, s = before ++ sep :: after ∧ isSep sep = true ∧ ∀ c ∈ after, isSep c = false := by
  induction s using List.reverseRecOn with
  | nil => exact .inl nofun
  | append_singleton s c ih =>
    cases hc : isSep c with
    | true => exact .inr ⟨s, c, [], rfl, hc, nofun⟩
    | false =>
      rcases ih with hnone | ⟨before, sep, after, rfl, hsep, hafter⟩
      · refine .inl fun d hd ↦ ?_
        rcases List.mem_append.mp hd with hd | hd
        · exact hnone d hd
        · exact List.mem_singleton.mp hd ▸ hc
      · refine .inr ⟨before, sep, after ++ [c], by simp, hsep, fun d hd ↦ ?_⟩
        rcases List.mem_append.mp hd with hd | hd
        · exact hafter d hd
        · exact List.mem_singleton.mp hd ▸ hc

/-- A character is not in a text, or it is in it for a last time. -/
theorem eq_append_or_notMem (sep : Char) (s : List Char) :
    sep ∉ s ∨ ∃ before after, s = before ++ sep :: after ∧ sep ∉ after := by
  have hnot {t : List Char} (ht : ∀ c ∈ t, decide (c = sep) = false) : sep ∉ t :=
    fun hmem ↦ absurd rfl (of_decide_eq_false (ht sep hmem))
  rcases eq_append_or_no_sep (· = sep) s with hnone | ⟨before, sep', after, hs, hsep, hafter⟩
  · exact .inl (hnot hnone)
  · obtain rfl : sep' = sep := of_decide_eq_true hsep
    exact .inr ⟨before, after, hs, hnot hafter⟩

theorem lastPiece_of_no_sep {s : List Char} (h : ∀ c ∈ s, isSep c = false) : lastPiece isSep s = s := by
  have hall : s.reverse.takeWhile (fun c ↦ !isSep c) = s.reverse :=
    List.takeWhile_eq_self_iff.mpr (by simpa using h)
  rw [lastPiece, hall, List.reverse_reverse]

theorem lastPiece_append_cons {sep : Char} (hsep : isSep sep = true) (before : List Char)
    {after : List Char} (h : ∀ c ∈ after, isSep c = false) :
    lastPiece isSep (before ++ sep :: after) = after := by
  have hreverse : (before ++ sep :: after).reverse = after.reverse ++ sep :: before.reverse := by simp
  rw [lastPiece, hreverse, List.takeWhile_append_of_pos (by simpa using h),
    List.takeWhile_cons_of_neg (by simp [hsep]), List.append_nil, List.reverse_reverse]

theorem getLast?_pieces (isSep : Char → Bool) (s : List Char) :
    (pieces isSep s).getLast? = some (lastPiece isSep s) := by
  rcases eq_append_or_no_sep isSep s with hnone | ⟨before, sep, after, rfl, hsep, hafter⟩
  · rw [pieces_of_no_sep hnone, lastPiece_of_no_sep hnone]
    rfl
  · rw [pieces_append_cons hsep, pieces_of_no_sep hafter, lastPiece_append_cons hsep before hafter,
      List.getLast?_concat]

theorem firstPiece_append {s : List Char} (h : ∀ c ∈ s, isSep c = false) (rest : List Char) :
    firstPiece isSep (s ++ rest) = s ++ firstPiece isSep rest :=
  List.takeWhile_append_of_pos fun c hc ↦ by rw [h c hc, Bool.not_false]

theorem notMem_firstPiece {sep : Char} (hsep : isSep sep = true) (s : List Char) :
    sep ∉ firstPiece isSep s := by
  intro hmem
  have hnot := List.mem_takeWhile_imp hmem
  rw [hsep] at hnot
  exact nomatch hnot

/-- A separator behind a text ends its first piece if none in the text does. -/
theorem exists_append_cons_eq_firstPiece (sep : Char) (s rest : List Char) :
    ∃ rest', s ++ sep :: rest = firstPiece (· = sep) s ++ sep :: rest' := by
  induction s with
  | nil => exact ⟨rest, rfl⟩
  | cons c cs ih =>
    by_cases hc : c = sep
    · exact ⟨cs ++ sep :: rest, by simp [firstPiece, hc]⟩
    · obtain ⟨rest', heq⟩ := ih
      have hpiece : firstPiece (· = sep) (c :: cs) = c :: firstPiece (· = sep) cs :=
        List.takeWhile_cons_of_pos (by simp [hc])
      exact ⟨rest', by rw [hpiece, List.cons_append, heq, List.cons_append]⟩

/-- There is one way to cut a text at its first separator. -/
theorem first_sep_unique {a b c d : List Char} {s t : Char} (ha : ∀ x ∈ a, isSep x = false)
    (hs : isSep s = true) (hc : ∀ x ∈ c, isSep x = false) (ht : isSep t = true)
    (h : a ++ s :: b = c ++ t :: d) : a = c ∧ s = t ∧ b = d := by
  have hfirst {a b : List Char} {s : Char} (ha : ∀ x ∈ a, isSep x = false) (hs : isSep s = true) :
      (a ++ s :: b).takeWhile (!isSep ·) = a := by
    rw [List.takeWhile_append_of_pos fun x hx ↦ by rw [ha x hx, Bool.not_false],
      List.takeWhile_cons_of_neg (by simp [hs]), List.append_nil]
  obtain rfl : a = c := by rw [← hfirst ha hs, h, hfirst hc ht]
  obtain ⟨rfl, rfl⟩ := List.cons.inj (List.append_cancel_left h)
  exact ⟨rfl, rfl, rfl⟩

/-- There is one way to cut a text at its last separator. -/
theorem last_sep_unique {a b c d : List Char} {s t : Char} (hb : ∀ x ∈ b, isSep x = false)
    (hs : isSep s = true) (hd : ∀ x ∈ d, isSep x = false) (ht : isSep t = true)
    (h : a ++ s :: b = c ++ t :: d) : a = c ∧ s = t ∧ b = d := by
  have hreverse : b.reverse ++ s :: a.reverse = d.reverse ++ t :: c.reverse := by
    simpa using congrArg List.reverse h
  obtain ⟨hbd, rfl, hac⟩ := first_sep_unique (fun x hx ↦ hb x (List.mem_reverse.mp hx)) hs
    (fun x hx ↦ hd x (List.mem_reverse.mp hx)) ht hreverse
  exact ⟨List.reverse_inj.mp hac, rfl, List.reverse_inj.mp hbd⟩

/-- Splitting at the first occurrence gives what is before it and after it. -/
theorem splitFirst?_append_cons {sep : Char} {before : List Char} (h : sep ∉ before) (after : List Char) :
    splitFirst? sep (before ++ sep :: after) = some (before, after) := by
  have hbefore : ∀ c ∈ before, decide (c ≠ sep) = true :=
    fun c hc ↦ decide_eq_true fun heq ↦ h (heq ▸ hc)
  rw [splitFirst?, List.dropWhile_append_of_pos hbefore, List.takeWhile_append_of_pos hbefore]
  simp

theorem splitFirst?_eq_none {sep : Char} {s : List Char} (h : sep ∉ s) : splitFirst? sep s = none := by
  have hs : ∀ c ∈ s, decide (c ≠ sep) = true := fun c hc ↦ decide_eq_true fun heq ↦ h (heq ▸ hc)
  rw [splitFirst?, List.dropWhile_eq_nil_iff.mpr hs]

/-- Splitting at the last occurrence gives what is before it and after it. -/
theorem splitLast?_append_cons {sep : Char} (before : List Char) {after : List Char} (h : sep ∉ after) :
    splitLast? sep (before ++ sep :: after) = some (before, after) := by
  have hreverse : (before ++ sep :: after).reverse = after.reverse ++ sep :: before.reverse := by simp
  have htake : (before ++ sep :: after).reverse.takeWhile (· ≠ sep) = after.reverse := by
    rw [hreverse, List.takeWhile_append_of_pos, List.takeWhile_cons_of_neg (by simp), List.append_nil]
    intro c hc
    refine decide_eq_true ?_
    rintro rfl
    exact h (List.mem_reverse.mp hc)
  rw [splitLast?, if_pos (by simp)]
  dsimp only
  have hdrop : (after.reverse ++ sep :: before.reverse).drop (after.reverse.length + 1) = before.reverse := by
    rw [← List.drop_drop, List.drop_left, List.drop_one, List.tail_cons]
  rw [htake, hreverse, hdrop, List.reverse_reverse, List.reverse_reverse]

theorem splitLast?_eq_none_iff {sep : Char} {s : List Char} : splitLast? sep s = none ↔ sep ∉ s := by
  rw [splitLast?]
  split <;> simp [*]

theorem splitLast?_eq_some_iff {sep : Char} {s before after : List Char} :
    splitLast? sep s = some (before, after) ↔ s = before ++ sep :: after ∧ sep ∉ after := by
  constructor
  · intro h
    rcases eq_append_or_no_sep (· = sep) s with hnone | ⟨before', sep', after', rfl, hsep, hafter⟩
    · have hnot : sep ∉ s := fun hmem ↦ by simpa using hnone sep hmem
      rw [splitLast?_eq_none_iff.mpr hnot] at h
      exact nomatch h
    · obtain rfl : sep' = sep := of_decide_eq_true hsep
      have hnot : sep' ∉ after' := fun hmem ↦ by simpa using hafter sep' hmem
      rw [splitLast?_append_cons before' hnot] at h
      obtain ⟨rfl, rfl⟩ := Prod.mk.inj (Option.some.inj h)
      exact ⟨rfl, hnot⟩
  · rintro ⟨rfl, h⟩
    exact splitLast?_append_cons before h

/-! ## Putting together -/

/-- Cutting at the separator gives back the pieces that were put together. -/
theorem pieces_intercalate {sep : Char} (hsep : isSep sep = true) {ps : List (List Char)}
    (hne : ps ≠ []) (h : ∀ p ∈ ps, ∀ c ∈ p, isSep c = false) :
    pieces isSep ([sep].intercalate ps) = ps := by
  induction ps with
  | nil => exact absurd rfl hne
  | cons p rest ih =>
    have hp := h p List.mem_cons_self
    cases rest with
    | nil => simpa using pieces_of_no_sep hp
    | cons q qs =>
      rw [List.intercalate_cons_cons, List.append_assoc, List.singleton_append, pieces_append_cons hsep,
        pieces_of_no_sep hp, List.singleton_append, ih (by simp) fun r hr ↦ h r (List.mem_cons_of_mem _ hr)]

/-- Putting the pieces together again gives back the text. -/
theorem intercalate_pieces (sep : Char) (s : List Char) : [sep].intercalate (pieces (· = sep) s) = s := by
  have hpieces : pieces (· = sep) s = s.splitOn sep := pieces_eq_splitOnP ..
  rw [hpieces, List.intercalate_splitOn]

end CodeSurvey.Text
