import CodeSurvey.SnakeCase
import CodeSurvey.Text.Basic
import Mathlib.Data.List.Induction

/-!
# Words in class names

Inside a class name, a word begins at a capital that comes right after a small letter or a digit.
The table name has every character of the class name, with small letters for capitals, and one
underscore more right before each of these words.  So the class name can be read off it, but for the
capitals, and a table name is its own table name.
-/

namespace CodeSurvey

/-! ## Capitals -/

/-- Ranges of characters are ranges of numbers. -/
theorem between_iff {a b c : Char} : decide (a.val ≤ c.val ∧ c.val ≤ b.val) = true ↔
    a.val.toNat ≤ c.val.toNat ∧ c.val.toNat ≤ b.val.toNat := by
  rw [decide_eq_true_iff, UInt32.le_iff_toNat_le, UInt32.le_iff_toNat_le]

theorem isUpper_iff {c : Char} : c.isUpper = true ↔ 65 ≤ c.val.toNat ∧ c.val.toNat ≤ 90 :=
  between_iff

theorem isLower_iff {c : Char} : c.isLower = true ↔ 97 ≤ c.val.toNat ∧ c.val.toNat ≤ 122 := by
  have hrange : c.isLower = decide ('a'.val ≤ c.val ∧ c.val ≤ 'z'.val) := (Bool.decide_and ..).symm
  rw [hrange]
  exact between_iff

theorem isDigit_iff {c : Char} : c.isDigit = true ↔ 48 ≤ c.val.toNat ∧ c.val.toNat ≤ 57 := by
  have hrange : c.isDigit = decide ('0'.val ≤ c.val ∧ c.val ≤ '9'.val) := (Bool.decide_and ..).symm
  rw [hrange]
  exact between_iff

theorem toLower_of_isUpper_eq_false {c : Char} (h : c.isUpper = false) : c.toLower = c :=
  dif_neg (of_decide_eq_false h)

/-- No capital is left where small letters stand for capitals. -/
theorem isUpper_toLower (c : Char) : c.toLower.isUpper = false := by
  cases hupper : c.isUpper with
  | false => rw [toLower_of_isUpper_eq_false hupper, hupper]
  | true =>
    have hval : c.toLower.val = c.val + 32 := congrArg Char.val (dif_pos (of_decide_eq_true hupper))
    obtain ⟨hge, hle⟩ := isUpper_iff.mp hupper
    refine eq_false_of_ne_true fun hupper ↦ ?_
    obtain ⟨-, hle'⟩ := isUpper_iff.mp hupper
    rw [hval, UInt32.toNat_add, show (32 : UInt32).toNat = 32 from rfl] at hle'
    omega

/-! ## Where words begin -/

/-- Does a word end with this character if a capital follows? -/
def endsWord (c : Char) : Bool := c.isLower || c.isDigit

/-- Does a word begin at this place inside a name? -/
def beginsWord (name : List Char) : Nat → Bool
  | 0 => false
  | i + 1 => name[i]?.any endsWord && name[i + 1]?.any Char.isUpper

/-- How many words begin before a place. -/
def wordsBefore (name : List Char) (i : Nat) : Nat := (List.range i).countP (beginsWord name)

/-- The place in the table name of the character at a place of the class name. -/
def placeInTable (name : List Char) (i : Nat) : Nat := i + wordsBefore name (i + 1)

/-- An underscore is put in at the place right before a word. -/
def IsPutIn (name : List Char) (k : Nat) : Prop := ∃ i, beginsWord name i = true ∧ placeInTable name i = k + 1

section Places

variable {name before : List Char} {c : Char} {i : Nat}

theorem endsWord_of_isUpper (h : c.isUpper = true) : endsWord c = false := by
  obtain ⟨hge, hle⟩ := isUpper_iff.mp h
  rw [endsWord, ← Bool.not_eq_true, Bool.or_eq_true, isLower_iff, isDigit_iff]
  omega

theorem lt_length_of_beginsWord (h : beginsWord name i = true) : i < name.length := by
  by_contra hle
  cases i with
  | zero => exact Bool.false_ne_true h
  | succ i =>
    rw [beginsWord, List.getElem?_eq_none (Nat.le_of_not_lt hle), Option.any_none, Bool.and_false] at h
    exact Bool.false_ne_true h

/-- Only the places of the name need to be looked at. -/
theorem isPutIn_iff {k : Nat} : (∃ i < name.length, beginsWord name i = true ∧ placeInTable name i = k + 1) ↔
    IsPutIn name k := by
  constructor
  · rintro ⟨i, -, h⟩
    exact ⟨i, h⟩
  · rintro ⟨i, hbegins, hplace⟩
    exact ⟨i, lt_length_of_beginsWord hbegins, hbegins, hplace⟩

instance : DecidablePred (IsPutIn name) := fun _ ↦ decidable_of_iff _ isPutIn_iff

/-- A table name without the underscores that were put in. -/
def withoutPutIn (name table : List Char) : List Char :=
  (table.zipIdx.filter fun x ↦ ¬IsPutIn name x.2).map Prod.fst

theorem wordsBefore_succ (name : List Char) (i : Nat) :
    wordsBefore name (i + 1) = wordsBefore name i + (beginsWord name i).toNat := by
  rw [wordsBefore, List.range_succ, List.countP_append, List.countP_singleton]
  cases beginsWord name i <;> rfl

/-- Whether a word begins at a place is told by what stands up to this place. -/
theorem beginsWord_append (h : i < before.length) (after : List Char) :
    beginsWord (before ++ after) i = beginsWord before i := by
  cases i with
  | zero => rfl
  | succ i =>
    rw [beginsWord, beginsWord, List.getElem?_append_left h, List.getElem?_append_left (Nat.lt_of_succ_lt h)]

theorem wordsBefore_append (h : i ≤ before.length) (after : List Char) :
    wordsBefore (before ++ after) i = wordsBefore before i :=
  List.countP_congr fun j hj ↦ by
    rw [beginsWord_append (Nat.lt_of_lt_of_le (List.mem_range.mp hj) h)]

theorem placeInTable_append (h : i < before.length) (after : List Char) :
    placeInTable (before ++ after) i = placeInTable before i := by
  rw [placeInTable, wordsBefore_append h, placeInTable]

theorem beginsWord_length (before : List Char) (c : Char) (after : List Char) :
    beginsWord (before ++ c :: after) before.length = (before.getLast?.any endsWord && c.isUpper) := by
  induction before using List.reverseRecOn with
  | nil => rfl
  | append_singleton before d =>
    rw [List.length_append, List.length_singleton, beginsWord]
    simp

end Places

/-! ## The pass over a name -/

section Pass

variable {name : List Char} {c : Char} {i k : Nat} {low : Bool}

/-- All that is kept in mind is whether a word may end with the last character. -/
theorem snakeCaseFrom_append (low : Bool) (s t : List Char) :
    snakeCaseFrom low (s ++ t) =
      snakeCaseFrom low s ++ snakeCaseFrom (s.getLast?.elim low endsWord) t := by
  induction s generalizing low with
  | nil => rfl
  | cons c cs ih =>
    have hends : (c :: cs).getLast?.elim low endsWord = cs.getLast?.elim (endsWord c) endsWord := by
      rw [List.getLast?_cons]
      cases cs.getLast? <;> rfl
    rw [hends, List.cons_append, snakeCaseFrom, snakeCaseFrom]
    split
    next hupper => rw [ih, endsWord_of_isUpper hupper, List.append_assoc, List.cons_append]
    next =>
      rw [ih, List.cons_append]
      rfl

/-- A character is written with a small letter for a capital, and behind an underscore if a word begins
with it. -/
theorem snakeCaseFrom_split (before : List Char) (c : Char) (after : List Char) :
    snakeCaseFrom false (before ++ c :: after) =
      snakeCaseFrom false before ++
        (List.replicate (beginsWord (before ++ c :: after) before.length).toNat '_' ++
          c.toLower :: snakeCaseFrom (endsWord c) after) := by
  rw [snakeCaseFrom_append, beginsWord_length, snakeCaseFrom]
  cases hupper : c.isUpper with
  | true =>
    rw [if_pos rfl, endsWord_of_isUpper hupper, Bool.and_true]
    cases before.getLast? with
    | none => rfl
    | some d => cases hd : endsWord d <;> simp [hd]
  | false =>
    rw [if_neg Bool.false_ne_true, toLower_of_isUpper_eq_false hupper, Bool.and_false]
    rfl

theorem length_snakeCaseFrom (name : List Char) :
    (snakeCaseFrom false name).length = name.length + wordsBefore name name.length := by
  induction name using List.reverseRecOn with
  | nil => rfl
  | append_singleton name c ih =>
    rw [snakeCaseFrom_split, List.length_append, List.length_append, List.length_replicate, ih,
      List.length_append, List.length_singleton, wordsBefore_succ, wordsBefore_append (Nat.le_refl _),
      snakeCaseFrom, List.length_singleton]
    omega

/-- The characters before a place take all the room up to it, but for an underscore. -/
theorem placeInTable_length (before : List Char) (c : Char) (after : List Char) :
    placeInTable (before ++ c :: after) before.length = (snakeCaseFrom false before).length +
      (beginsWord (before ++ c :: after) before.length).toNat := by
  rw [placeInTable, wordsBefore_succ, wordsBefore_append (Nat.le_refl _), length_snakeCaseFrom, Nat.add_assoc]

/-- Every character is found at its place, and right before a word there is an underscore. -/
theorem getElem?_placeInTable (h : name[i]? = some c) :
    (snakeCaseFrom false name)[placeInTable name i]? = some c.toLower ∧
      (beginsWord name i = true → (snakeCaseFrom false name)[placeInTable name i - 1]? = some '_') := by
  obtain ⟨before, after, rfl, rfl⟩ : ∃ before after, name = before ++ c :: after ∧ before.length = i := by
    obtain ⟨hlt, rfl⟩ := List.getElem?_eq_some_iff.mp h
    refine ⟨name.take i, name.drop (i + 1), ?_, List.length_take_of_le (Nat.le_of_lt hlt)⟩
    rw [← List.drop_eq_getElem_cons hlt, List.take_append_drop]
  rw [placeInTable_length, snakeCaseFrom_split]
  constructor
  · rw [List.getElem?_append_right (Nat.le_add_right ..), Nat.add_sub_cancel_left,
      List.getElem?_append_right (by simp)]
    simp
  · intro hword
    rw [hword]
    simp

theorem lt_of_isPutIn (h : IsPutIn name k) : k + 1 < (snakeCaseFrom false name).length := by
  obtain ⟨i, hword, hplace⟩ := h
  have hfound := (getElem?_placeInTable (List.getElem?_eq_getElem (lt_length_of_beginsWord hword))).1
  exact hplace ▸ (List.getElem?_eq_some_iff.mp hfound).1

/-- One more character adds at most one underscore, which comes after all that was written before. -/
theorem isPutIn_concat : IsPutIn (name ++ [c]) k ↔
    IsPutIn name k ∨ beginsWord (name ++ [c]) name.length = true ∧ k = (snakeCaseFrom false name).length := by
  have hlast (hword : beginsWord (name ++ [c]) name.length = true) :
      placeInTable (name ++ [c]) name.length = (snakeCaseFrom false name).length + 1 := by
    rw [placeInTable_length, hword]
    rfl
  constructor
  · rintro ⟨i, hword, hplace⟩
    have hle : i ≤ name.length := Nat.le_of_lt_succ (by simpa using lt_length_of_beginsWord hword)
    rcases Nat.lt_or_eq_of_le hle with hlt | rfl
    · rw [beginsWord_append hlt] at hword
      rw [placeInTable_append hlt] at hplace
      exact .inl ⟨i, hword, hplace⟩
    · exact .inr ⟨hword, Nat.succ.inj (hplace.symm.trans (hlast hword))⟩
  · rintro (⟨i, hword, hplace⟩ | ⟨hword, rfl⟩)
    · have hlt := lt_length_of_beginsWord hword
      exact ⟨i, (beginsWord_append hlt _).trans hword, (placeInTable_append hlt _).trans hplace⟩
    · exact ⟨_, hword, hlast hword⟩

theorem withoutPutIn_snakeCaseFrom (name : List Char) :
    withoutPutIn name (snakeCaseFrom false name) = Text.lower name := by
  induction name using List.reverseRecOn with
  | nil => rfl
  | append_singleton name c ih =>
    have hbefore : ((snakeCaseFrom false name).zipIdx.filter fun x ↦ ¬IsPutIn (name ++ [c]) x.2) =
        (snakeCaseFrom false name).zipIdx.filter fun x ↦ ¬IsPutIn name x.2 := by
      refine List.filter_congr fun x hx ↦ decide_eq_decide.mpr (not_congr ?_)
      have hlt : x.2 < (snakeCaseFrom false name).length := by simpa using List.snd_lt_of_mem_zipIdx hx
      rw [isPutIn_concat, or_iff_left fun h ↦ absurd h.2 (Nat.ne_of_lt hlt)]
    have hlast : ¬IsPutIn name (snakeCaseFrom false name).length :=
      fun h ↦ absurd (lt_of_isPutIn h) (by omega)
    have hnext : ¬IsPutIn name ((snakeCaseFrom false name).length + 1) :=
      fun h ↦ absurd (lt_of_isPutIn h) (by omega)
    rw [withoutPutIn] at ih
    rw [withoutPutIn, snakeCaseFrom_split, List.zipIdx_append, List.filter_append, List.map_append, hbefore,
      ih, Text.lower, Text.lower, List.map_append, Nat.zero_add, snakeCaseFrom]
    congr 1
    cases hword : beginsWord (name ++ [c]) name.length with
    | false => simp [isPutIn_concat, hword, hlast]
    | true => simp [isPutIn_concat, hword, hnext]

theorem isUpper_eq_false_of_mem (h : c ∈ snakeCaseFrom low name) : c.isUpper = false := by
  induction name generalizing low with
  | nil => exact nomatch h
  | cons d ds ih =>
    rw [snakeCaseFrom] at h
    split at h
    next =>
      rcases List.mem_append.mp h with hmem | hmem
      · have hunderscore : c = '_' := by
          cases low with
          | false => exact nomatch hmem
          | true => exact List.mem_singleton.mp hmem
        rw [hunderscore]
        rfl
      · rcases List.mem_cons.mp hmem with rfl | hmem
        · exact isUpper_toLower d
        · exact ih hmem
    next hupper =>
      rcases List.mem_cons.mp h with rfl | hmem
      · exact eq_false_of_ne_true hupper
      · exact ih hmem

/-- A name without capitals has no words to divide. -/
theorem snakeCaseFrom_eq_self (h : ∀ c ∈ name, c.isUpper = false) : snakeCaseFrom low name = name := by
  induction name generalizing low with
  | nil => rfl
  | cons c cs ih =>
    obtain ⟨hc, hcs⟩ := List.forall_mem_cons.mp h
    rw [snakeCaseFrom, hc, if_neg Bool.false_ne_true, ih hcs]

end Pass

/-- A table name has no capitals.  It has every character of the class name at its place, with small
letters for capitals, and an underscore right before each word; without these underscores it is the
class name in small letters.  A table name is its own table name. -/
theorem snakeCase_exact (name : String) :
    let s := name.toList
    let table := (snakeCase name).toList
    (∀ c ∈ table, c.isUpper = false) ∧
    (∀ i c, s[i]? = some c → table[placeInTable s i]? = some c.toLower) ∧
    (∀ i, beginsWord s i = true → table[placeInTable s i - 1]? = some '_') ∧
    withoutPutIn s table = Text.lower s ∧
    snakeCase (snakeCase name) = snakeCase name := by
  intro s table
  have htable : table = snakeCaseFrom false s := String.toList_ofList
  have hupper : ∀ c ∈ table, c.isUpper = false := fun c hc ↦ isUpper_eq_false_of_mem (htable ▸ hc)
  refine ⟨hupper, ?_, ?_, ?_, ?_⟩
  · intro i c hc
    rw [htable]
    exact (getElem?_placeInTable hc).1
  · intro i hword
    rw [htable]
    exact (getElem?_placeInTable (List.getElem?_eq_getElem (lt_length_of_beginsWord hword))).2 hword
  · rw [htable]
    exact withoutPutIn_snakeCaseFrom s
  · rw [snakeCase, snakeCaseFrom_eq_self hupper, String.ofList_toList]

/-- The second word follows a digit, and no word begins between two capitals. -/
theorem snakeCase_exact_order2HTML :
    let s := "Order2HTML".toList
    let table := (snakeCase "Order2HTML").toList
    beginsWord s 6 = true ∧ beginsWord s 7 = false ∧ s[6]? = some 'H' ∧
      table[placeInTable s 6 - 1]? = some '_' ∧ table[placeInTable s 6]? = some 'h' ∧
      withoutPutIn s table = "order2html".toList ∧ snakeCase "Order2HTML" = "order2_html" := by
  intro s table
  obtain ⟨-, hkept, hput, hout, -⟩ := snakeCase_exact "Order2HTML"
  have hword : beginsWord s 6 = true := by decide
  have hletter : s[6]? = some 'H' := rfl
  refine ⟨hword, by decide, hletter, hput 6 hword, hkept 6 'H' hletter, ?_, by decide⟩
  rw [hout]
  decide

end CodeSurvey
