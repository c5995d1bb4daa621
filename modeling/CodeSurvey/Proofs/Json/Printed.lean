import CodeSurvey.Json.Printer

/-!
# What JSON is printed with

Strings are escaped and everything else is spelled in plain characters, so the text of a JSON
value has no control characters but those that end its lines.
-/

namespace CodeSurvey.Json

/-- A character that ends a line or is none of the control characters. -/
def isPlain (c : Char) : Bool := c = '\n' || 0x20 ≤ c.toNat

/-- Does a text hold plain characters only? -/
def IsPrinted (s : String) : Prop := ∀ c ∈ s.toList, isPlain c = true

-- The instance is named, as another one would go through all characters there are.
instance (s : String) : Decidable (IsPrinted s) :=
  List.decidableBAll (fun c ↦ isPlain c = true) s.toList

theorem isPrinted_append {s s' : String} : IsPrinted (s ++ s') ↔ IsPrinted s ∧ IsPrinted s' := by
  simp [IsPrinted, or_imp, forall_and]

theorem all_isPlain_spellChar (c : Char) : (spellChar c).all isPlain = true := by
  have hescape : ∀ n < 0x20, (['\\', 'u'] ++ hex4 n).all isPlain = true := by decide
  unfold spellChar
  split
  case h_8 =>
    split
    next hcontrol => exact hescape _ hcontrol
    next hcontrol => simp [isPlain, Nat.not_lt.mp hcontrol]
  all_goals decide

theorem isPrinted_spellString (s : String) : IsPrinted (spellString s) := by
  intro c hc
  simp only [spellString, String.toList_ofList, List.cons_append, List.mem_cons, List.mem_append,
    List.mem_flatMap, List.not_mem_nil, or_false] at hc
  rcases hc with rfl | ⟨d, -, hc⟩ | rfl
  · decide
  · exact List.all_eq_true.mp (all_isPlain_spellChar d) c hc
  · decide

theorem isPrinted_nat (n : Nat) : IsPrinted (toString n) := by
  intro c hc
  rw [Nat.toString_eq_ofList_toDigits, String.toList_ofList] at hc
  have hdigit := Nat.isDigit_of_mem_toDigits (by decide) (by decide) hc
  simp only [Char.isDigit, Bool.and_eq_true, decide_eq_true_eq] at hdigit
  have hzero : (48 : UInt32).toNat ≤ c.toNat := hdigit.1
  have hplain : 0x20 ≤ c.toNat := Nat.le_trans (by decide) hzero
  simp [isPlain, hplain]

theorem isPrinted_int (n : Int) : IsPrinted (toString n) := by
  cases n with
  | ofNat n => exact isPrinted_nat n
  | negSucc n => exact isPrinted_append.mpr ⟨by decide, isPrinted_nat _⟩

theorem isPrinted_spellNumber (d : Decimal) : IsPrinted (spellNumber d) := by
  refine isPrinted_append.mpr ⟨isPrinted_append.mpr ⟨?_, isPrinted_nat _⟩, ?_⟩
  · split <;> decide
  · split
    · decide
    · exact isPrinted_append.mpr ⟨by decide, isPrinted_int _⟩

theorem isPrinted_newline (depth : Nat) : IsPrinted (newline depth) := by
  refine isPrinted_append.mpr ⟨by decide, fun c hc ↦ ?_⟩
  rw [String.toList_ofList] at hc
  rw [List.eq_of_mem_replicate hc]
  rfl

mutual

/-- A value is written in plain characters behind a text that has plain characters only. -/
theorem isPrinted_write (depth : Nat) {out : String} (h : IsPrinted out) (j : Json String) :
    IsPrinted (write depth out j) := by
  match j with
  | .null => exact isPrinted_append.mpr ⟨h, by decide⟩
  | .bool b => exact isPrinted_append.mpr ⟨h, by cases b <;> decide⟩
  | .number d => exact isPrinted_append.mpr ⟨h, isPrinted_spellNumber d⟩
  | .string s => exact isPrinted_append.mpr ⟨h, isPrinted_spellString s⟩
  | .array [] => exact isPrinted_append.mpr ⟨h, by decide⟩
  | .array (x :: xs) =>
    have hopen : IsPrinted (out ++ "[" ++ newline (depth + 1)) := by
      simp only [isPrinted_append]
      exact ⟨⟨h, by decide⟩, isPrinted_newline _⟩
    have helements := isPrinted_writeElements (depth + 1) (isPrinted_write (depth + 1) hopen x) xs
    simp only [write, isPrinted_append]
    exact ⟨⟨helements, isPrinted_newline _⟩, by decide⟩
  | .object [] => exact isPrinted_append.mpr ⟨h, by decide⟩
  | .object ((k, x) :: fs) =>
    have hopen : IsPrinted (out ++ "\x7b" ++ newline (depth + 1) ++ spellString k ++ ": ") := by
      simp only [isPrinted_append]
      exact ⟨⟨⟨⟨h, by decide⟩, isPrinted_newline _⟩, isPrinted_spellString k⟩, by decide⟩
    have hfields := isPrinted_writeFields (depth + 1) (isPrinted_write (depth + 1) hopen x) fs
    simp only [write, isPrinted_append]
    exact ⟨⟨hfields, isPrinted_newline _⟩, by decide⟩

theorem isPrinted_writeElements (depth : Nat) {out : String} (h : IsPrinted out)
    (xs : List (Json String)) : IsPrinted (writeElements depth out xs) := by
  match xs with
  | [] => exact h
  | x :: xs =>
    have hnext : IsPrinted (out ++ "," ++ newline depth) := by
      simp only [isPrinted_append]
      exact ⟨⟨h, by decide⟩, isPrinted_newline _⟩
    exact isPrinted_writeElements depth (isPrinted_write depth hnext x) xs

theorem isPrinted_writeFields (depth : Nat) {out : String} (h : IsPrinted out)
    (fs : List (String × Json String)) : IsPrinted (writeFields depth out fs) := by
  match fs with
  | [] => exact h
  | (k, x) :: fs =>
    have hnext : IsPrinted (out ++ "," ++ newline depth ++ spellString k ++ ": ") := by
      simp only [isPrinted_append]
      exact ⟨⟨⟨⟨h, by decide⟩, isPrinted_newline _⟩, isPrinted_spellString k⟩, by decide⟩
    exact isPrinted_writeFields depth (isPrinted_write depth hnext x) fs

end

/-- The text of a value holds plain characters only. -/
theorem isPrinted_text (j : Json String) : IsPrinted j.text := isPrinted_write 0 (by decide) j

end CodeSurvey.Json
