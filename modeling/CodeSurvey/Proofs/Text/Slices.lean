import CodeSurvey.Intake.Whitelist
import CodeSurvey.Proofs.Text.Pieces
import CodeSurvey.SourceUnit

/-!
# Slices

A text is sliced by numbers of bytes, which have to end between two of its characters,
and a list by numbers of elements, of which there have to be enough.  A slice that does
not exist stops the program; here it is `none`.  The slices of names are made at a
separator that was found in them, and all of them exist.
-/

namespace CodeSurvey

namespace Text

/-- How many bytes a text takes. -/
def byteLength : List Char → Nat
  | [] => 0
  | c :: cs => c.utf8Size + byteLength cs

/-- A text up to a number of bytes. -/
def takeBytes? : Nat → List Char → Option (List Char)
  | 0, _ => some []
  | _ + 1, [] => none
  | n + 1, c :: cs =>
    if c.utf8Size ≤ n + 1 then (takeBytes? (n + 1 - c.utf8Size) cs).map (c :: ·) else none

/-- A text from a number of bytes on. -/
def dropBytes? : Nat → List Char → Option (List Char)
  | 0, s => some s
  | _ + 1, [] => none
  | n + 1, c :: cs => if c.utf8Size ≤ n + 1 then dropBytes? (n + 1 - c.utf8Size) cs else none

/-- Before how many bytes a separator occurs last. -/
def rfind? (sep : Char) (s : List Char) : Option Nat :=
  (splitLast? sep s).map fun split ↦ byteLength split.1

theorem byteLength_cons (c : Char) (cs : List Char) :
    byteLength (c :: cs) = c.utf8Size + byteLength cs := rfl

theorem byteLength_append (s t : List Char) : byteLength (s ++ t) = byteLength s + byteLength t := by
  induction s with
  | nil => exact (Nat.zero_add _).symm
  | cons c cs ih => rw [List.cons_append, byteLength_cons, ih, byteLength_cons, Nat.add_assoc]

theorem byteLength_cons_pos (c : Char) (cs : List Char) : 0 < byteLength (c :: cs) := by
  rw [byteLength_cons]
  exact Nat.add_pos_left c.utf8Size_pos _

/-- One more character is one more step. -/
theorem exists_byteLength_cons (c : Char) (cs : List Char) :
    ∃ n, byteLength (c :: cs) = n + 1 ∧ c.utf8Size ≤ n + 1 ∧ n + 1 - c.utf8Size = byteLength cs := by
  have hpos : 0 < c.utf8Size := c.utf8Size_pos
  refine ⟨c.utf8Size + byteLength cs - 1, ?_, ?_, ?_⟩
  · rw [byteLength_cons]
    omega
  · omega
  · omega

/-- A text can be sliced where one part of it ends. -/
theorem takeBytes?_byteLength (s t : List Char) : takeBytes? (byteLength s) (s ++ t) = some s := by
  induction s with
  | nil => exact takeBytes?.eq_1 t
  | cons c cs ih =>
    obtain ⟨n, hn, hle, hrest⟩ := exists_byteLength_cons c cs
    rw [hn, List.cons_append, takeBytes?, if_pos hle, hrest, ih]
    rfl

theorem dropBytes?_byteLength (s t : List Char) : dropBytes? (byteLength s) (s ++ t) = some t := by
  induction s with
  | nil => exact dropBytes?.eq_1 t
  | cons c cs ih =>
    obtain ⟨n, hn, hle, hrest⟩ := exists_byteLength_cons c cs
    rw [hn, List.cons_append, dropBytes?, if_pos hle, hrest, ih]

/-- It can be sliced behind a separator of one byte as well. -/
theorem dropBytes?_byteLength_add_one {sep : Char} (h : sep.utf8Size = 1) (s t : List Char) :
    dropBytes? (byteLength s + 1) (s ++ sep :: t) = some t := by
  have hlength : byteLength (s ++ [sep]) = byteLength s + 1 := by
    rw [byteLength_append, byteLength_cons, h]
    rfl
  have hsplit : s ++ sep :: t = (s ++ [sep]) ++ t := by rw [List.append_assoc, List.singleton_append]
  rw [← hlength, hsplit, dropBytes?_byteLength]

/-- No text begins with half a character. -/
example : dropBytes? 1 ['é', 'a'] = none ∧ dropBytes? 2 ['é', 'a'] = some ['a'] := by decide

/-- What is before the last separator; all, if it is at the beginning or there is none. -/
def checkedStem (sep : Char) (s : List Char) : Option (List Char) :=
  match rfind? sep s with
  | some place => if 0 < place then takeBytes? place s else some s
  | none => some s

/-- What is after the last separator, of one byte. -/
def checkedExtension (sep : Char) (s : List Char) : Option (Option (List Char)) :=
  match rfind? sep s with
  | some place => (dropBytes? (place + 1) s).map some
  | none => some none

theorem checkedStem_eq (sep : Char) (s : List Char) :
    checkedStem sep s = some (match splitLast? sep s with
      | some (stem@(_ :: _), _) => stem
      | _ => s) := by
  rw [checkedStem, rfind?]
  cases hsplit : splitLast? sep s with
  | none => rfl
  | some split =>
    obtain ⟨stem, extension⟩ := split
    obtain ⟨rfl, -⟩ := splitLast?_eq_some_iff.mp hsplit
    rw [Option.map_some]
    cases stem with
    | nil => rfl
    | cons c cs =>
      dsimp only
      rw [if_pos (byteLength_cons_pos c cs), takeBytes?_byteLength]

theorem checkedExtension_eq {sep : Char} (h : sep.utf8Size = 1) (s : List Char) :
    checkedExtension sep s = some ((splitLast? sep s).map Prod.snd) := by
  rw [checkedExtension, rfind?]
  cases hsplit : splitLast? sep s with
  | none => rfl
  | some split =>
    obtain ⟨rfl, -⟩ := splitLast?_eq_some_iff.mp hsplit
    rw [Option.map_some]
    dsimp only
    rw [dropBytes?_byteLength_add_one h]
    rfl

end Text

/-! ## Names of files -/

namespace SourceUnit

def checkedUnitName (u : SourceUnit) : Option String :=
  (Text.checkedStem '.' u.fileName.toList).map String.ofList

def checkedDirectory (u : SourceUnit) : Option String :=
  match Text.rfind? '/' u.path.toList with
  | some place => (Text.takeBytes? place u.path.toList).map String.ofList
  | none => some ""

theorem checkedUnitName_eq (u : SourceUnit) : u.checkedUnitName = some u.unitName := by
  rw [checkedUnitName, Text.checkedStem_eq, unitName]
  cases Text.splitLast? '.' u.fileName.toList with
  | none => exact congrArg some String.ofList_toList
  | some split =>
    obtain ⟨stem, extension⟩ := split
    cases stem with
    | nil => exact congrArg some String.ofList_toList
    | cons c cs => rfl

theorem checkedDirectory_eq (u : SourceUnit) : u.checkedDirectory = some u.directory := by
  rw [checkedDirectory, Text.rfind?, directory]
  cases hsplit : Text.splitLast? '/' u.path.toList with
  | none => rfl
  | some split =>
    obtain ⟨hpath, -⟩ := Text.splitLast?_eq_some_iff.mp hsplit
    rw [hpath, Option.map_some]
    exact congrArg (Option.map String.ofList) (Text.takeBytes?_byteLength ..)

end SourceUnit

/-- The language of a file by its name.  What is after the last dot is only looked at if
something is before it. -/
def Language.checkedOfFileName (name : String) : Option Language :=
  let name := Text.lower name.toList
  match manifestNames.lookup (String.ofList name) with
  | some l => some l
  | none =>
    match Text.rfind? '.' name with
    | some dot =>
      if 0 < dot then
        (Text.dropBytes? (dot + 1) name).map fun ext ↦ (extensions.lookup (String.ofList ext)).getD unknown
      else some unknown
    | none => some unknown

theorem Language.checkedOfFileName_eq (name : String) :
    checkedOfFileName name = some (ofFileName name) := by
  rw [checkedOfFileName, ofFileName]
  cases manifestNames.lookup (String.ofList (Text.lower name.toList)) with
  | some l => rfl
  | none =>
    dsimp only
    rw [extension?, Text.rfind?]
    cases hsplit : Text.splitLast? '.' (Text.lower name.toList) with
    | none => rfl
    | some split =>
      obtain ⟨stem, ext⟩ := split
      obtain ⟨hname, -⟩ := Text.splitLast?_eq_some_iff.mp hsplit
      rw [hname, Option.map_some]
      cases stem with
      | nil => rfl
      | cons c cs =>
        dsimp only
        rw [if_pos (Text.byteLength_cons_pos c cs), Text.dropBytes?_byteLength_add_one (by decide)]
        rfl

def checkedIsWhitelisted (name : String) : Option Bool :=
  let name := Text.lower name.toList
  if allowedNames.contains (String.ofList name) then some true
  else (Text.checkedExtension '.' name).map fun ext? ↦
    ext?.any fun ext ↦ allowedExtensions.contains (String.ofList ext)

theorem checkedIsWhitelisted_eq (name : String) :
    checkedIsWhitelisted name = some (isWhitelisted name) := by
  rw [checkedIsWhitelisted, isWhitelisted]
  cases allowedNames.contains (String.ofList (Text.lower name.toList)) with
  | true => rfl
  | false =>
    rw [if_neg Bool.false_ne_true, Text.checkedExtension_eq (by decide), Bool.false_or]
    cases Text.splitLast? '.' (Text.lower name.toList) <;> rfl

/-! ## Stretches of lists -/

/-- The elements of a list from one number on and before another one. -/
def slice? {α : Type} (xs : List α) (start stop : Nat) : Option (List α) :=
  if start ≤ stop ∧ stop ≤ xs.length then some ((xs.take stop).drop start) else none

theorem slice?_zero {α : Type} {xs : List α} {stop : Nat} (h : stop ≤ xs.length) :
    slice? xs 0 stop = some (xs.take stop) := if_pos ⟨Nat.zero_le _, h⟩

/-- Some elements after a number of others, or as many as there are. -/
theorem slice?_length_append {α : Type} (xs ys : List α) (n : Nat) :
    slice? (xs ++ ys) xs.length (min (xs ++ ys).length (xs.length + n)) = some (ys.take n) := by
  have hlength : (xs ++ ys).length = xs.length + ys.length := List.length_append
  rw [slice?, if_pos ⟨by omega, Nat.min_le_left ..⟩, Nat.min_comm, ← List.take_eq_take_min,
    List.drop_take, List.drop_left, Nat.add_sub_cancel_left]

end CodeSurvey
