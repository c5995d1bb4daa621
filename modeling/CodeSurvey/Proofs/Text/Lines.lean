import CodeSurvey.Proofs.Text.Pieces
import CodeSurvey.Proofs.Text.Trimming

/-!
# Line endings

A line feed closes a line, and a carriage return before it belongs to the ending.  So a text
has the same lines whether or not its line feeds have carriage returns before them.  A phrase that
has no part of an ending is found in both texts or in none.
-/

namespace CodeSurvey.Text

/-! ## Lines of a text in two parts -/

/-- A blank at the end of a text does not outlast trimming. -/
theorem trim_concat {c : Char} (hc : isBlank c = true) (s : List Char) : trim (s ++ [c]) = trim s := by
  rw [trim, trimStart, List.dropWhile_append]
  split
  next hnil =>
    have hstart : trimStart s = [] := List.isEmpty_iff.mp hnil
    rw [trim, hstart, List.dropWhile_cons_of_pos hc]
    rfl
  next => rw [trimEnd_eq, List.rdropWhile_concat_pos _ _ _ hc, trim, trimEnd_eq, trimStart]

/-- The carriage return before a line feed is blank. -/
theorem trim_dropReturn (line : List Char) : trim (dropReturn line) = trim line := by
  rw [dropReturn]
  split
  next hlast =>
    obtain ⟨before, rfl⟩ := List.getLast?_eq_some_iff.mp hlast
    rw [List.dropLast_concat, trim_concat (by decide)]
  next => rfl

/-- The lines that a text has if one more line feed follows it. -/
def closedLines (s : List Char) : List (List Char) := (pieces (· = '\n') s).map dropReturn

theorem closedLines_append_feed (s rest : List Char) :
    closedLines (s ++ '\n' :: rest) = closedLines s ++ closedLines rest := by
  rw [closedLines, pieces_append_cons (decide_eq_true rfl), List.map_append, closedLines, closedLines]

theorem lines_append_feed (s rest : List Char) : lines (s ++ '\n' :: rest) = closedLines s ++ lines rest := by
  have hrest := pieces_ne_nil (· = '\n') rest
  simp only [lines, closedLines]
  rw [pieces_append_cons (decide_eq_true rfl), List.dropLast_append_of_ne_nil hrest, List.map_append,
    List.getLast?_append_of_ne_nil _ hrest, List.append_assoc]

/-- Lines that are closed differ from lines that need not be at the very end only, and there in
blanks. -/
theorem closedLines_eq (s : List Char) : ∃ before last, closedLines s = before ++ [dropReturn last] ∧
    lines s = before ++ (if last = [] then [] else [last]) := by
  obtain ⟨before, hpieces⟩ := List.getLast?_eq_some_iff.mp (getLast?_pieces (· = '\n') s)
  refine ⟨before.map dropReturn, lastPiece (· = '\n') s, ?_, ?_⟩
  · rw [closedLines, hpieces, List.map_append, List.map_singleton]
  · simp only [lines, hpieces, List.dropLast_concat, List.getLast?_concat]
    cases lastPiece (· = '\n') s <;> rfl

/-! ## Carriage returns -/

/-- The text with a carriage return before every line feed. -/
def withReturns (s : List Char) : List Char := s.flatMap fun c ↦ if c = '\n' then ['\r', '\n'] else [c]

theorem withReturns_feed (s : List Char) : withReturns ('\n' :: s) = '\r' :: '\n' :: withReturns s := rfl

theorem withReturns_cons {c : Char} (hc : c ≠ '\n') (s : List Char) :
    withReturns (c :: s) = c :: withReturns s := by
  rw [withReturns, List.flatMap_cons, if_neg hc]
  rfl

theorem withReturns_append (s t : List Char) : withReturns (s ++ t) = withReturns s ++ withReturns t :=
  List.flatMap_append

theorem withReturns_of_notMem {s : List Char} (h : '\n' ∉ s) : withReturns s = s := by
  induction s with
  | nil => rfl
  | cons c cs ih =>
    rw [withReturns_cons (List.ne_of_not_mem_cons h).symm, ih (List.not_mem_of_not_mem_cons h)]

/-- To go through the lines of a text, one after the other. -/
@[elab_as_elim]
theorem feedInduction {motive : List Char → Prop} (line : ∀ s, '\n' ∉ s → motive s)
    (feed : ∀ s t, motive s → '\n' ∉ t → motive (s ++ '\n' :: t)) (s : List Char) : motive s := by
  rcases eq_append_or_notMem '\n' s with hnone | ⟨before, after, hs, hafter⟩
  · exact line s hnone
  · have hshorter : before.length < s.length := by simp [hs]
    rw [hs]
    exact feed before after (feedInduction line feed before) hafter
termination_by s.length

/-- The returns that are put before line feeds are dropped with these. -/
theorem closedLines_withReturns {s : List Char} (h : '\r' ∉ s) :
    closedLines (withReturns s ++ ['\r']) = closedLines s := by
  have hone {line : List Char} (hline : '\n' ∉ line) : closedLines line = [dropReturn line] := by
    rw [closedLines, pieces_of_no_sep (no_sep_of_notMem hline), List.map_singleton]
  -- A line without returns of its own loses the one that was put behind it.
  have hlast {line : List Char} (hline : '\n' ∉ line) (hreturn : '\r' ∉ line) :
      closedLines (line ++ ['\r']) = closedLines line := by
    have hkept : line.getLast? ≠ some '\r' := fun hlast ↦ hreturn (List.mem_of_getLast? hlast)
    rw [hone hline, hone (by simp [hline]), dropReturn, dropReturn, if_neg hkept,
      if_pos List.getLast?_concat, List.dropLast_concat]
  induction s using feedInduction with
  | line s hs => rw [withReturns_of_notMem hs, hlast hs h]
  | feed s t ih ht =>
    obtain ⟨hs, htail⟩ := not_or.mp (mt List.mem_append.mpr h)
    have hsplit : withReturns (s ++ '\n' :: t) ++ ['\r'] =
        (withReturns s ++ ['\r']) ++ '\n' :: (t ++ ['\r']) := by
      rw [withReturns_append, withReturns_feed, withReturns_of_notMem ht]
      simp
    rw [hsplit, closedLines_append_feed, closedLines_append_feed, ih hs,
      hlast ht (List.not_mem_of_not_mem_cons htail)]

/-- A text has the same lines with either line ending. -/
theorem lines_withReturns {s : List Char} (h : '\r' ∉ s) : lines (withReturns s) = lines s := by
  induction s using feedInduction with
  | line s hs => rw [withReturns_of_notMem hs]
  | feed s t _ ht =>
    have hs : '\r' ∉ s := fun hmem ↦ h (List.mem_append_left _ hmem)
    have hsplit : withReturns (s ++ '\n' :: t) = (withReturns s ++ ['\r']) ++ '\n' :: t := by
      rw [withReturns_append, withReturns_feed, withReturns_of_notMem ht, List.append_assoc]
      rfl
    rw [hsplit, lines_append_feed, lines_append_feed, closedLines_withReturns hs]

/-! ## Phrases within a line -/

section Phrases

variable {needle : List Char}

theorem isPrefixOf_cons_of_notMem {c : Char} (hne : needle ≠ []) (hc : c ∉ needle) (s : List Char) :
    needle.isPrefixOf (c :: s) = false := by
  obtain ⟨n, ns, rfl⟩ := List.exists_cons_of_ne_nil hne
  rw [List.isPrefixOf_cons_cons, beq_false_of_ne (List.ne_of_not_mem_cons hc).symm, Bool.false_and]

/-- A search goes past a character that the phrase does not have. -/
theorem hasInfix_cons_of_notMem {c : Char} (hne : needle ≠ []) (hc : c ∉ needle) (s : List Char) :
    hasInfix needle (c :: s) = hasInfix needle s := by
  rw [hasInfix, isPrefixOf_cons_of_notMem hne hc, Bool.false_or]

/-- A phrase without parts of a line ending begins a text with either ending. -/
theorem isPrefixOf_withReturns (hreturn : '\r' ∉ needle) (hfeed : '\n' ∉ needle) (s : List Char) :
    needle.isPrefixOf (withReturns s) = needle.isPrefixOf s := by
  induction needle generalizing s with
  | nil => rfl
  | cons n ns ih =>
    cases s with
    | nil => rfl
    | cons c cs =>
      by_cases hc : c = '\n'
      · subst hc
        have hne : n :: ns ≠ [] := List.cons_ne_nil n ns
        rw [withReturns_feed, isPrefixOf_cons_of_notMem hne hreturn, isPrefixOf_cons_of_notMem hne hfeed]
      · rw [withReturns_cons hc, List.isPrefixOf_cons_cons, List.isPrefixOf_cons_cons,
          ih (List.not_mem_of_not_mem_cons hreturn) (List.not_mem_of_not_mem_cons hfeed)]

/-- It is found in a text with either ending. -/
theorem hasInfix_withReturns (hreturn : '\r' ∉ needle) (hfeed : '\n' ∉ needle) (s : List Char) :
    hasInfix needle (withReturns s) = hasInfix needle s := by
  rcases eq_or_ne needle [] with rfl | hne
  · rw [hasInfix_iff.mpr List.nil_infix, hasInfix_iff.mpr List.nil_infix]
  · induction s with
    | nil => rfl
    | cons c cs ih =>
      by_cases hc : c = '\n'
      · subst hc
        rw [withReturns_feed, hasInfix_cons_of_notMem hne hreturn, hasInfix_cons_of_notMem hne hfeed,
          hasInfix_cons_of_notMem hne hfeed, ih]
      · have hprefix := isPrefixOf_withReturns hreturn hfeed (c :: cs)
        rw [withReturns_cons hc] at hprefix ⊢
        rw [hasInfix, hasInfix, hprefix, ih]

end Phrases

end CodeSurvey.Text
