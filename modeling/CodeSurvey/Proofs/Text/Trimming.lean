import CodeSurvey.Text.Basic
import Mathlib.Data.List.DropRight

/-!
# Trimming

Trimming takes the blanks from both ends of a text, and nothing else.  A text that is not
empty and keeps all its characters is tidy.
-/

namespace CodeSurvey.Text

/-- There is something in a text, and it neither begins nor ends with a blank. -/
structure IsTidy (s : List Char) : Prop where
  ne_nil : s ≠ []
  head : ∀ c ∈ s.head?, isBlank c = false
  last : ∀ c ∈ s.getLast?, isBlank c = false

section

/-- Both ends of a text are looked at, if it has any. -/
theorem isTidy_iff_ends {s : List Char} :
    IsTidy s ↔ s ≠ [] ∧ s.head?.any isBlank = false ∧ s.getLast?.any isBlank = false := by
  have hany (o : Option Char) : o.any isBlank = false ↔ ∀ c ∈ o, isBlank c = false := by
    cases o <;> simp
  rw [hany, hany]
  exact ⟨fun ⟨hne, hhead, hlast⟩ ↦ ⟨hne, hhead, hlast⟩, fun ⟨hne, hhead, hlast⟩ ↦ ⟨hne, hhead, hlast⟩⟩

instance (s : List Char) : Decidable (IsTidy s) := decidable_of_iff _ isTidy_iff_ends.symm

variable {s : List Char}

theorem trimStart_eq_self_iff : trimStart s = s ↔ ∀ c ∈ s.head?, isBlank c = false := by
  cases s with
  | nil => simp [trimStart]
  | cons c cs =>
    rw [trimStart, List.dropWhile_eq_self_iff]
    simp

theorem trimEnd_eq (s : List Char) : trimEnd s = s.rdropWhile isBlank := rfl

theorem trimEnd_eq_self_iff : trimEnd s = s ↔ ∀ c ∈ s.getLast?, isBlank c = false := by
  rw [trimEnd_eq, List.rdropWhile_eq_self_iff]
  rcases List.eq_nil_or_concat s with rfl | ⟨before, c, rfl⟩ <;> simp

/-- Nothing is lost if and only if nothing is lost at either end. -/
theorem trim_eq_self_iff : trim s = s ↔ trimStart s = s ∧ trimEnd s = s := by
  constructor
  · intro h
    have hstart : trimStart s = s := by
      refine (List.dropWhile_suffix _).eq_of_length_le ?_
      calc s.length = (trim s).length := congrArg _ h.symm
        _ ≤ (trimStart s).length := (List.rdropWhile_prefix isBlank _).length_le
    rw [trim, hstart] at h
    exact ⟨hstart, h⟩
  · rintro ⟨hstart, hend⟩
    rw [trim, hstart, hend]

theorem isTidy_iff : IsTidy s ↔ s ≠ [] ∧ trim s = s := by
  rw [trim_eq_self_iff, trimStart_eq_self_iff, trimEnd_eq_self_iff]
  exact ⟨fun ⟨hne, hhead, hlast⟩ ↦ ⟨hne, hhead, hlast⟩, fun ⟨hne, hhead, hlast⟩ ↦ ⟨hne, hhead, hlast⟩⟩

/-- What is left by trimming is tidy, if anything is left. -/
theorem isTidy_trim (h : trim s ≠ []) : IsTidy (trim s) where
  ne_nil := h
  head c hc := by
    -- Trimming at the end leaves the character at which trimming at the start came to a halt.
    obtain ⟨after, hafter⟩ : trim s <+: trimStart s := List.rdropWhile_prefix isBlank _
    have hstart : (trimStart s).head? = some c := by
      rw [← hafter, List.head?_append_of_ne_nil _ h]
      exact hc
    have hhalt := List.head?_dropWhile_not isBlank s
    rw [← trimStart, hstart] at hhalt
    simpa using hhalt
  last c hc := by
    obtain ⟨hne, rfl⟩ := List.mem_getLast?_eq_getLast hc
    exact eq_false_of_ne_true (List.rdropWhile_last_not isBlank _ hne)

theorem isTidy_of_forall (hne : s ≠ []) (h : ∀ c ∈ s, isBlank c = false) : IsTidy s where
  ne_nil := hne
  head c hc := h c (List.mem_of_mem_head? hc)
  last c hc := h c (List.mem_of_getLast? hc)

theorem isTidy_singleton {c : Char} (hc : isBlank c = false) : IsTidy [c] :=
  isTidy_of_forall (List.cons_ne_nil c []) (List.forall_mem_singleton.mpr hc)

/-- Whatever is between two tidy texts, the whole is tidy. -/
theorem IsTidy.append {t : List Char} (hs : IsTidy s) (ht : IsTidy t) (between : List Char) :
    IsTidy (s ++ (between ++ t)) where
  ne_nil := List.append_ne_nil_of_left_ne_nil hs.ne_nil _
  head := by
    rw [List.head?_append_of_ne_nil _ hs.ne_nil]
    exact hs.head
  last := by
    rw [← List.append_assoc, List.getLast?_append_of_ne_nil _ ht.ne_nil]
    exact ht.last

theorem trimEnd_of_blank (h : ∀ c ∈ s, isBlank c = true) : trimEnd s = [] :=
  List.rdropWhile_eq_nil_iff.mpr h

/-- Trimming at the end does not go past a text that it leaves as it is. -/
theorem trimEnd_append (h : trimEnd s = s) (after : List Char) :
    trimEnd (s ++ after) = s ++ trimEnd after := by
  have hself : s.reverse.dropWhile isBlank = s.reverse :=
    List.reverse_inj.mp (h.trans (List.reverse_reverse s).symm)
  rw [trimEnd, trimEnd, List.reverse_append, List.dropWhile_append]
  split
  next hnil => rw [hself, List.isEmpty_iff.mp hnil, List.reverse_reverse, List.reverse_nil, List.append_nil]
  next => rw [List.reverse_append, List.reverse_reverse]

theorem IsTidy.trimEnd_eq_self (h : IsTidy s) : trimEnd s = s := trimEnd_eq_self_iff.mpr h.last

/-- Trimming takes the blanks before a tidy text, and leaves the text. -/
theorem IsTidy.trim_append {before : List Char} (h : IsTidy s) (hbefore : ∀ c ∈ before, isBlank c = true)
    (after : List Char) : trim (before ++ (s ++ after)) = s ++ trimEnd after := by
  obtain ⟨c, cs, rfl⟩ := List.exists_cons_of_ne_nil h.ne_nil
  have hstart : trimStart (c :: cs ++ after) = c :: cs ++ after := trimStart_eq_self_iff.mpr h.head
  rw [trim, trimStart, List.dropWhile_append_of_pos hbefore, ← trimStart, hstart]
  exact trimEnd_append h.trimEnd_eq_self after

end

/-! ## Classes without blanks -/

/-- The code points of the blanks. -/
def blankCodes : List Nat :=
  [0x09, 0x0A, 0x0B, 0x0C, 0x0D, 0x20, 0x85, 0xA0, 0x1680, 0x2000, 0x2001, 0x2002, 0x2003, 0x2004, 0x2005,
    0x2006, 0x2007, 0x2008, 0x2009, 0x200A, 0x2028, 0x2029, 0x202F, 0x205F, 0x3000]

theorem mem_blankCodes {c : Char} (h : isBlank c = true) : c.toNat ∈ blankCodes := by
  simp only [isBlank, Bool.or_eq_true, Bool.and_eq_true, decide_eq_true_eq] at h
  simp only [blankCodes, List.mem_cons, List.not_mem_nil, or_false]
  omega

/-- A class that has none of the blanks has characters only that are not blank. -/
theorem isBlank_eq_false_of {p : Char → Bool} (hnone : ∀ n ∈ blankCodes, p (Char.ofNat n) = false)
    {c : Char} (h : p c = true) : isBlank c = false := by
  rw [← Bool.not_eq_true]
  intro hblank
  have hout := hnone _ (mem_blankCodes hblank)
  rw [Char.ofNat_toNat, h] at hout
  exact nomatch hout

end CodeSurvey.Text
