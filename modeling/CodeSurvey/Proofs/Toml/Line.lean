import CodeSurvey.Json.Reader
import CodeSurvey.Proofs.Text.Trimming

/-!
# Lines of a TOML document

The lines of a document whose values stand in one line each: headers of tables, entries, and
lines with blanks and comments only.  A line knows how it is written, and its keys know what
they mean, since a segment of a key may be quoted.  Values are not looked into.
-/

namespace CodeSurvey.Toml

/-! ## Keys -/

/-- Spaces and tabs, if any. -/
structure Spaces where
  written : List Char
  isSpace : ∀ c ∈ written, c = ' ' ∨ c = '\t'

/-- A character of a name without quotes. -/
def isBareChar (c : Char) : Bool := c.isAlphanum || c = '_' || c = '-'

/-- What a letter behind a backslash stands for. -/
def letterEscapes : List (Char × Char) :=
  [('b', '\x08'), ('t', '\t'), ('n', '\n'), ('f', '\x0C'), ('r', '\r'), ('"', '"'), ('\\', '\\')]

/-- The character whose code point is given by digits in base 16. -/
def codePoint? (digits : List Char) : Option Char :=
  let code := digits.foldl (fun n d ↦ n * 16 + (Json.hexValue? d).getD 0) 0
  if digits.all (Json.hexValue? · |>.isSome) ∧ code.isValidChar then some (Char.ofNat code) else none

/-- The character that an escape stands for, told by what follows the backslash. -/
def escaped? : List Char → Option Char
  | [letter] => letterEscapes.lookup letter
  | 'u' :: digits => if digits.length = 4 then codePoint? digits else none
  | 'U' :: digits => if digits.length = 8 then codePoint? digits else none
  | _ => none

/-- A character between double quotes, written as it is or as an escape. -/
inductive Letter where
  | plain (c : Char) (hc : c ≠ '"' ∧ c ≠ '\\')
  | escape (code : List Char) (c : Char) (hc : escaped? code = some c)

namespace Letter

def written : Letter → List Char
  | plain c _ => [c]
  | escape code _ _ => '\\' :: code

def meaning : Letter → Char
  | plain c _ | escape _ c _ => c

def isPlain : Letter → Bool
  | plain .. => true
  | escape .. => false

end Letter

/-- A segment of a key: without quotes, between single quotes, or between double quotes. -/
inductive Segment where
  | bare (name : List Char) (hne : name ≠ []) (hbare : ∀ c ∈ name, isBareChar c = true)
  | literal (name : List Char) (hname : '\'' ∉ name)
  | basic (letters : List Letter)

namespace Segment

def written : Segment → List Char
  | bare name _ _ => name
  | literal name _ => '\'' :: (name ++ ['\''])
  | basic letters => '"' :: (letters.flatMap Letter.written ++ ['"'])

/-- The name that is meant. -/
def name : Segment → List Char
  | bare name _ _ | literal name _ => name
  | basic letters => letters.map Letter.meaning

/-- Is the name written as it is, but for double quotes around it? -/
def isVerbatim : Segment → Bool
  | bare .. => true
  | literal .. => false
  | basic letters => letters.all Letter.isPlain

end Segment

/-- A further segment of a dotted key, with the spaces on both sides of the dot. -/
structure Part where
  before : Spaces
  after : Spaces
  segment : Segment

def Part.written (p : Part) : List Char :=
  p.before.written ++ '.' :: (p.after.written ++ p.segment.written)

structure Key where
  first : Segment
  more : List Part

def Key.written (k : Key) : List Char := k.first.written ++ k.more.flatMap Part.written

/-! ## Lines -/

structure Header where
  /-- Two brackets on either side make the table an element of an array. -/
  isElement : Bool
  left : Spaces
  key : Key
  right : Spaces

namespace Header

/-- What stands between the outer brackets, less an inner one at the end. -/
def body (h : Header) : List Char :=
  (if h.isElement then ['['] else []) ++ (h.left.written ++ (h.key.written ++ h.right.written))

def written (h : Header) : List Char :=
  '[' :: (h.body ++ ((if h.isElement then [']'] else []) ++ [']']))

end Header

inductive Statement where
  | header (h : Header)
  /-- A key and, behind spaces and the sign of equality, a value. -/
  | entry (key : Key) (gap : Spaces) (value : List Char)

def Statement.written : Statement → List Char
  | header h => h.written
  | entry key gap value => key.written ++ (gap.written ++ '=' :: value)

/-- A line may say something, and it may have a comment. -/
structure Line where
  indent : Spaces
  statement? : Option Statement
  spaces : Spaces
  comment? : Option (List Char)

def Line.written (l : Line) : List Char :=
  l.indent.written ++
    (l.statement?.elim [] Statement.written ++ (l.spaces.written ++ l.comment?.elim [] ('#' :: ·)))

/-! ## Lines with few spaces -/

def Spaces.none : Spaces := ⟨[], List.forall_mem_nil _⟩

def Spaces.single : Spaces := ⟨[' '], List.forall_mem_singleton.mpr (.inl rfl)⟩

def Segment.ofName (name : String) (h : name ≠ "" ∧ name.toList.all isBareChar = true) : Segment :=
  .bare name.toList (mt String.toList_eq_nil_iff.mp h.1) (List.all_eq_true.mp h.2)

/-- Between double quotes, with all characters as they are. -/
def Segment.quoted (name : String) (h : name.toList.all (fun c ↦ c ≠ '"' && c ≠ '\\') = true) : Segment :=
  .basic (name.toList.attach.map fun c ↦ .plain c.1 (by simpa using List.all_eq_true.mp h c.1 c.2))

def Key.single (s : Segment) : Key := ⟨s, []⟩

def Key.dotted (first next : Segment) : Key := ⟨first, [⟨.none, .none, next⟩]⟩

def Line.ofHeader (key : Key) : Line := ⟨.none, some (.header ⟨false, .none, key, .none⟩), .none, none⟩

/-- One space stands behind the key. -/
def Line.ofEntry (key : Key) (value : String) : Line :=
  ⟨.none, some (.entry key .single value.toList), .none, none⟩

/-! ## How lines begin and end -/

section Written

theorem Spaces.isBlank (s : Spaces) : ∀ c ∈ s.written, Text.isBlank c = true := by
  intro c hc
  rcases s.isSpace c hc with rfl | rfl <;> decide

theorem Spaces.notMem {c : Char} (s : Spaces) (hc : Text.isBlank c = false) : c ∉ s.written :=
  fun hmem ↦ Bool.false_ne_true (hc.symm.trans (s.isBlank c hmem))

theorem isBlank_of_isBareChar {c : Char} : isBareChar c = true → Text.isBlank c = false :=
  Text.isBlank_eq_false_of (by decide)

/-- A segment begins and ends with characters that are not blank. -/
theorem Segment.isTidy_written (s : Segment) : Text.IsTidy s.written := by
  cases s with
  | bare name hne hbare => exact Text.isTidy_of_forall hne fun c hc ↦ isBlank_of_isBareChar (hbare c hc)
  | literal name =>
    have hquote : Text.IsTidy ['\''] := Text.isTidy_singleton (by decide)
    exact hquote.append hquote name
  | basic letters =>
    have hquote : Text.IsTidy ['"'] := Text.isTidy_singleton (by decide)
    exact hquote.append hquote _

theorem Header.isTidy_written (h : Header) : Text.IsTidy h.written := by
  have hopening : Text.IsTidy ['['] := Text.isTidy_singleton (by decide)
  have hclosing : Text.IsTidy [']'] := Text.isTidy_singleton (by decide)
  rw [written, ← List.append_assoc]
  exact hopening.append hclosing _

variable {l : Line}

theorem Line.trim_written_of_header {h : Header} (hl : l.statement? = some (.header h)) :
    ∃ rest, Text.trim l.written = h.written ++ rest := by
  rw [written, hl]
  exact ⟨_, h.isTidy_written.trim_append l.indent.isBlank _⟩

theorem Line.trim_written_of_entry {key : Key} {gap : Spaces} {value : List Char}
    (hl : l.statement? = some (.entry key gap value)) :
    ∃ rest, Text.trim l.written = key.written ++ (gap.written ++ '=' :: rest) := by
  have hequals : Text.IsTidy ['='] := Text.isTidy_singleton (by decide)
  have htidy := key.first.isTidy_written.append hequals (key.more.flatMap Part.written ++ gap.written)
  obtain ⟨rest, hrest⟩ : ∃ rest, l.written = l.indent.written ++
      (key.first.written ++ (key.more.flatMap Part.written ++ gap.written ++ ['=']) ++ rest) := by
    refine ⟨value ++ (l.spaces.written ++ l.comment?.elim [] ('#' :: ·)), ?_⟩
    rw [written, hl, Option.elim_some, Statement.written, Key.written]
    simp only [List.append_assoc, List.cons_append, List.nil_append]
  refine ⟨Text.trimEnd rest, ?_⟩
  rw [hrest, htidy.trim_append l.indent.isBlank, Key.written]
  simp only [List.append_assoc, List.cons_append, List.nil_append]

/-- A line that says nothing is empty or a comment. -/
theorem Line.trim_written_of_none (hl : l.statement? = none) :
    Text.trim l.written = [] ∨ ∃ rest, Text.trim l.written = '#' :: rest := by
  have hblank : ∀ c ∈ l.indent.written ++ l.spaces.written, Text.isBlank c = true :=
    List.forall_mem_append.mpr ⟨l.indent.isBlank, l.spaces.isBlank⟩
  rw [written, hl, Option.elim_none, List.nil_append, ← List.append_assoc]
  cases l.comment? with
  | none =>
    left
    rw [Option.elim_none, List.append_nil, Text.trim, Text.trimStart, List.dropWhile_eq_nil_iff.mpr hblank]
    rfl
  | some comment =>
    have hsign : Text.IsTidy ['#'] := Text.isTidy_singleton (by decide)
    exact .inr ⟨_, hsign.trim_append hblank comment⟩

end Written

/-! ## What quoting adds

Without its double quotes a segment has at least as many characters as its name, and it has
no more only if the name is written as it is.
-/

section Weight

/-- The number of characters that are no double quotes. -/
def weight (s : List Char) : Nat := s.countP (· ≠ '"')

theorem weight_append (s t : List Char) : weight (s ++ t) = weight s + weight t := List.countP_append

/-- An escape is a letter out of the table or has at least two characters behind the backslash, and it
has no bracket. -/
theorem escaped?_spec {code : List Char} {c : Char} (h : escaped? code = some c) :
    weight [c] < weight ('\\' :: code) ∧ ']' ∉ code := by
  have hletters : ∀ e ∈ letterEscapes, weight [e.2] < weight ['\\', e.1] ∧ ']' ∉ [e.1] := by decide
  have hdigits {digits : List Char} (h : codePoint? digits = some c) : ']' ∉ digits := by
    rw [codePoint?, Option.ite_none_right_eq_some] at h
    exact fun hmem ↦ absurd (List.all_eq_true.mp h.1.1 _ hmem) (by decide)
  have hweight {u : Char} {digits : List Char} (hu : u ≠ '"') :
      weight [c] < weight ('\\' :: u :: digits) := by
    have hone : weight [c] ≤ 1 := List.countP_le_length
    have htwo : weight ['\\', u] = 2 := by simp [weight, hu]
    rw [show '\\' :: u :: digits = ['\\', u] ++ digits from rfl, weight_append, htwo]
    omega
  rw [escaped?.eq_def] at h
  split at h
  next letter =>
    obtain ⟨before, after, htable, -⟩ := List.lookup_eq_some_iff.mp h
    exact hletters (letter, c) (by simp [htable])
  next digits =>
    rw [Option.ite_none_right_eq_some] at h
    exact ⟨hweight (by decide), by simp [hdigits h.2]⟩
  next digits =>
    rw [Option.ite_none_right_eq_some] at h
    exact ⟨hweight (by decide), by simp [hdigits h.2]⟩
  next => exact nomatch h

theorem Letter.weight_meaning (l : Letter) :
    weight [l.meaning] + (if l.isPlain then 0 else 1) ≤ weight l.written := by
  cases l with
  | plain => exact Nat.le_refl _
  | escape code c hc => exact (escaped?_spec hc).1

theorem weight_map_meaning (letters : List Letter) :
    weight (letters.map Letter.meaning) + (if letters.all Letter.isPlain then 0 else 1) ≤
      weight (letters.flatMap Letter.written) := by
  induction letters with
  | nil => exact Nat.le_refl _
  | cons l letters ih =>
    have hhead := l.weight_meaning
    rw [List.map_cons, List.flatMap_cons, ← List.singleton_append, weight_append, weight_append,
      List.all_cons]
    cases hl : l.isPlain with
    | true =>
      rw [hl, if_pos rfl] at hhead
      rw [Bool.true_and]
      omega
    | false =>
      rw [hl, if_neg Bool.false_ne_true] at hhead
      rw [Bool.false_and, if_neg Bool.false_ne_true]
      omega

theorem Segment.weight_name (s : Segment) :
    weight s.name + (if s.isVerbatim then 0 else 1) ≤ weight s.written := by
  cases s with
  | bare => exact Nat.le_refl _
  | literal name =>
    have hquote : weight ['\''] = 1 := by decide
    rw [written, ← List.singleton_append, weight_append, weight_append, hquote, isVerbatim,
      if_neg Bool.false_ne_true, Segment.name]
    omega
  | basic letters =>
    have hquote : weight ['"'] = 0 := by decide
    rw [written, ← List.singleton_append, weight_append, weight_append, hquote, Nat.zero_add]
    exact weight_map_meaning letters

/-- A segment does not hide a bracket. -/
theorem Segment.mem_name {s : Segment} (h : ']' ∈ s.written) : ']' ∈ s.name := by
  cases s with
  | bare => exact h
  | literal name => simpa [written, Segment.name] using h
  | basic letters =>
    obtain ⟨l, hl, hmem⟩ : ∃ l ∈ letters, ']' ∈ l.written := by simpa [written] using h
    refine List.mem_map.mpr ⟨l, hl, ?_⟩
    cases l with
    | plain c => exact (List.mem_singleton.mp hmem).symm
    | escape code c hc =>
      rcases List.mem_cons.mp hmem with hbackslash | hcode
      · exact absurd hbackslash (by decide)
      · exact absurd hcode (escaped?_spec hc).2

theorem Segment.written_of_isVerbatim {s : Segment} (h : s.isVerbatim = true) :
    '"' ∉ s.name ∧ (s.written = s.name ∨ s.written = '"' :: (s.name ++ ['"'])) := by
  cases s with
  | bare name hne hbare => exact ⟨fun hmem ↦ absurd (hbare _ hmem) (by decide), .inl rfl⟩
  | literal => exact nomatch h
  | basic letters =>
    have hletters : ∀ l ∈ letters, l.written = [l.meaning] ∧ '"' ≠ l.meaning := by
      intro l hl
      have hplain := List.all_eq_true.mp h l hl
      cases l with
      | plain c hc => exact ⟨rfl, hc.1.symm⟩
      | escape => exact nomatch hplain
    have hwritten : letters.flatMap Letter.written = letters.map Letter.meaning := by
      rw [List.flatMap_congr fun l hl ↦ (hletters l hl).1, ← List.map_eq_flatMap]
    refine ⟨fun hmem ↦ ?_, .inr (by rw [written, hwritten, name])⟩
    obtain ⟨l, hl, hquote⟩ := List.mem_map.mp hmem
    exact (hletters l hl).2 hquote.symm

end Weight

end CodeSurvey.Toml
