import CodeSurvey.Proofs.Analyzer.Platform
import CodeSurvey.Proofs.Toml.Line

/-!
# The dependencies in a crate's manifest

A manifest names a dependency by the first segment of a key in a table of dependencies, or in a
header of its own.  It is read line by line: the nearest header above an entry is all that the
reader keeps in mind.  This is enough to find the table of every entry, but keys are not read as
keys.  A dotted key and a quoted one are missed, so is the table below a quoted name, and in
a header whatever stands behind the dot is taken for the name.
-/

namespace CodeSurvey.Rust

open Pattern Toml

/-! ## How the patterns read a line -/

section Patterns

variable {text before inner rest g : List Char} {marks : Marks}

theorem textStart_iff : Anchor.textStart.holds (.between before rest) = true ↔ before = [] := by
  simp [Anchor.holds, Cursor.between]

/-- A text begins with an opening bracket, something else, and the first closing bracket. -/
def Brackets (text g : List Char) : Prop := ∃ rest, text = '[' :: (g ++ ']' :: rest) ∧ g ≠ [] ∧ ']' ∉ g

theorem firstGroup?_tableHeader_iff : firstGroup? tableHeader 1 text = some g ↔ Brackets text g := by
  refine firstGroup?_eq_some_iff ?_ ?_ ?_
  · intro before inner rest marks htext h
    obtain ⟨_, closing, _, _, rfl, rfl, h, hclosing⟩ := takes_append_iff.mp h
    obtain ⟨_, g, _, _, rfl, rfl, h, hgroup⟩ := takes_append_iff.mp h
    obtain ⟨_, opening, _, _, rfl, rfl, hstart, hopening⟩ := takes_append_iff.mp h
    obtain ⟨rfl, hholds, rfl⟩ := takes_test_iff.mp hstart
    obtain rfl := textStart_iff.mp hholds
    obtain ⟨rfl, rfl⟩ := takes_literal_iff.mp hopening
    obtain ⟨_, hbody, rfl⟩ := takes_group_iff.mp hgroup
    obtain ⟨hall, hleast, rfl⟩ := takes_run_iff.mp hbody
    obtain ⟨rfl, rfl⟩ := takes_literal_iff.mp hclosing
    refine ⟨g, _, _, ⟨rest, by simpa using htext, List.ne_nil_of_length_pos hleast, fun hmem ↦ ?_⟩, rfl⟩
    exact absurd (hall _ hmem) (by decide)
  · rintro g ⟨rest, rfl, hne, hnot⟩
    have hall : ∀ c ∈ g, (CharClass.outside "]".toList).mem c = true := by
      intro c hc
      have hne : c ≠ ']' := fun heq ↦ hnot (heq ▸ hc)
      simp [CharClass.mem, hne]
    have htakes : tableHeader.CanTake [] ([] ++ "[".toList ++ g ++ "]".toList) rest :=
      (((canTake_test (textStart_iff.mpr rfl)).append (canTake_literal "[")).append
        ((canTake_run hall (List.length_pos_iff.mpr hne)).group 1)).append (canTake_literal "]")
    exact ⟨[], _, rest, by simp, htakes⟩
  · rintro g g' ⟨rest, rfl, -, hnot⟩ ⟨rest', heq, -, hnot'⟩
    exact (Text.first_sep_unique (Text.no_sep_of_notMem hnot) (decide_eq_true rfl)
      (Text.no_sep_of_notMem hnot') (decide_eq_true rfl) (List.cons.inj heq).2).1

/-- A character that may stand in a key behind its first one. -/
def isKeyChar (c : Char) : Bool := Text.isWord c || c = '-'

theorem isKeyChar_of_isBareChar {c : Char} (h : isBareChar c = true) : isKeyChar c = true := by
  have hword (hc : c.isAlphanum = true) : Text.isWord c = true := by
    refine Text.isWord_of_isAsciiWord (by rw [Text.isAsciiWord, hc, Bool.true_or]) ?_
    change ((decide (c.val ≥ 'A'.val ∧ c.val ≤ 'Z'.val) || (c.val ≥ 'a'.val && c.val ≤ 'z'.val)) ||
      (c.val ≥ '0'.val && c.val ≤ '9'.val)) = true at hc
    simp only [Bool.or_eq_true, Bool.and_eq_true, decide_eq_true_eq, ge_iff_le, UInt32.le_iff_toNat_le] at hc
    have hcode : c.toNat = c.val.toNat := rfl
    rcases hc with (⟨-, hle⟩ | ⟨-, hle⟩) | ⟨-, hle⟩
    · exact Nat.lt_of_le_of_lt hle (by decide)
    · exact Nat.lt_of_le_of_lt hle (by decide)
    · exact Nat.lt_of_le_of_lt hle (by decide)
  rw [isBareChar, Bool.or_eq_true, Bool.or_eq_true, decide_eq_true_iff, decide_eq_true_iff] at h
  rcases h with (halphanum | rfl) | rfl
  · rw [isKeyChar, hword halphanum, Bool.true_or]
  · decide
  · decide

theorem isKeyChar_of_isBlank {c : Char} (h : Text.isBlank c = true) : isKeyChar c = false := by
  by_contra hkey
  rw [Bool.not_eq_false] at hkey
  have hblank := Text.isBlank_eq_false_of (p := isKeyChar) (by decide +kernel) hkey
  exact Bool.false_ne_true (hblank.symm.trans h)

/-- There is one way to cut a text behind a key and blanks at a sign of another kind. -/
theorem key_unique {key key' gap gap' rest rest' : List Char} {sign sign' : Char}
    (hkey : ∀ c ∈ key, isKeyChar c = true) (hkey' : ∀ c ∈ key', isKeyChar c = true)
    (hgap : ∀ c ∈ gap, Text.isBlank c = true) (hgap' : ∀ c ∈ gap', Text.isBlank c = true)
    (hsign : isKeyChar sign = false ∧ Text.isBlank sign = false)
    (hsign' : isKeyChar sign' = false ∧ Text.isBlank sign' = false)
    (h : key ++ (gap ++ sign :: rest) = key' ++ (gap' ++ sign' :: rest')) : key = key' ∧ sign = sign' := by
  have hends {gap rest : List Char} {sign : Char} (hgap : ∀ c ∈ gap, Text.isBlank c = true)
      (hsign : isKeyChar sign = false) :
      ∃ s b, gap ++ sign :: rest = s :: b ∧ (!isKeyChar s) = true := by
    cases gap with
    | nil => exact ⟨sign, rest, rfl, by rw [hsign, Bool.not_false]⟩
    | cons c cs =>
      refine ⟨c, cs ++ sign :: rest, rfl, ?_⟩
      rw [isKeyChar_of_isBlank (hgap c List.mem_cons_self), Bool.not_false]
  have hnot {p : Char → Bool} {s : List Char} (hs : ∀ c ∈ s, p c = true) : ∀ c ∈ s, (!p c) = false :=
    fun c hc ↦ by rw [hs c hc, Bool.not_true]
  obtain ⟨s, b, hs, hsep⟩ := hends hgap hsign.1
  obtain ⟨t, d, ht, hsep'⟩ := hends hgap' hsign'.1
  rw [hs, ht] at h
  obtain ⟨rfl, rfl, rfl⟩ := Text.first_sep_unique (hnot hkey) hsep (hnot hkey') hsep' h
  have hblank := Text.first_sep_unique (hnot hgap) (by rw [hsign.2, Bool.not_false]) (hnot hgap')
    (by rw [hsign'.2, Bool.not_false]) (hs.trans ht.symm)
  exact ⟨rfl, hblank.2.1⟩

/-- A text begins with a word that may have hyphens behind its first character, blanks, and a sign of
equality. -/
def Equates (text g : List Char) : Prop := ∃ c cs gap rest, g = c :: cs ∧
  text = g ++ (gap ++ '=' :: rest) ∧ Text.isAsciiWord c = true ∧ (∀ x ∈ cs, isKeyChar x = true) ∧
  ∀ x ∈ gap, Text.isBlank x = true

theorem firstGroup?_manifestKey_iff : firstGroup? manifestKey 1 text = some g ↔ Equates text g := by
  refine firstGroup?_eq_some_iff ?_ ?_ ?_
  · intro before inner rest marks htext h
    obtain ⟨_, equals, _, _, rfl, rfl, h, hequals⟩ := takes_append_iff.mp h
    obtain ⟨_, gap, _, _, rfl, rfl, h, hgap⟩ := takes_append_iff.mp h
    obtain ⟨_, g, _, _, rfl, rfl, hstart, hgroup⟩ := takes_append_iff.mp h
    obtain ⟨rfl, hholds, rfl⟩ := takes_test_iff.mp hstart
    obtain rfl := textStart_iff.mp hholds
    obtain ⟨_, hbody, rfl⟩ := takes_group_iff.mp hgroup
    obtain ⟨_, cs, _, _, rfl, rfl, hone, hrun⟩ := takes_append_iff.mp hbody
    obtain ⟨c, hc, rfl, rfl⟩ := takes_one_iff.mp hone
    obtain ⟨hcs, -, rfl⟩ := takes_run_iff.mp hrun
    obtain ⟨hblank, -, rfl⟩ := takes_run_iff.mp hgap
    obtain ⟨rfl, rfl⟩ := takes_literal_iff.mp hequals
    exact ⟨_, _, _, ⟨c, cs, gap, rest, rfl, by simpa using htext, hc, hcs, hblank⟩, rfl⟩
  · rintro g ⟨c, cs, gap, rest, rfl, rfl, hc, hcs, hblank⟩
    have hword {b s : List Char} :
        (one .asciiWord ++ run (.word ||| .exactly '-') 0 true).CanTake b ([c] ++ cs) s :=
      CanTake.append ⟨[], .one hc⟩ (canTake_run hcs (Nat.zero_le _))
    have htakes : manifestKey.CanTake [] ([] ++ ([c] ++ cs) ++ gap ++ "=".toList) rest :=
      (((canTake_test (textStart_iff.mpr rfl)).append (hword.group 1)).append
        (canTake_run hblank (Nat.zero_le _))).append (canTake_literal "=")
    exact ⟨[], _, rest, by simp, htakes⟩
  · rintro g g' ⟨c, cs, gap, rest, rfl, rfl, -, hcs, hblank⟩
      ⟨c', cs', gap', rest', rfl, heq, -, hcs', hblank'⟩
    obtain ⟨rfl, htail⟩ := List.cons.inj heq
    have hequals : isKeyChar '=' = false ∧ Text.isBlank '=' = false := by decide
    rw [(key_unique hcs hcs' hblank hblank' hequals hequals htail).1]

theorem firstGroup?_tableHeader_eq_none (h : text.head? ≠ some '[') :
    firstGroup? tableHeader 1 text = none := by
  rw [Option.eq_none_iff_forall_ne_some]
  intro g hg
  obtain ⟨rest, rfl, -⟩ := firstGroup?_tableHeader_iff.mp hg
  exact h rfl

theorem firstGroup?_manifestKey_eq_none (h : ∀ c ∈ text.head?, Text.isAsciiWord c = false) :
    firstGroup? manifestKey 1 text = none := by
  rw [Option.eq_none_iff_forall_ne_some]
  intro g hg
  obtain ⟨c, cs, gap, rest, rfl, rfl, hc, -⟩ := firstGroup?_manifestKey_iff.mp hg
  exact Bool.false_ne_true ((h c rfl).symm.trans hc)

end Patterns

/-! ## What a manifest says -/

/-- Each statement with the nearest header above it. -/
def statementsUnder : Option Header → List Line → List (Option Header × Statement)
  | _, [] => []
  | above, line :: rest =>
    match line.statement? with
    | none => statementsUnder above rest
    | some (.header h) => (above, .header h) :: statementsUnder (some h) rest
    | some (.entry key gap value) => (above, .entry key gap value) :: statementsUnder above rest

/-- Does a header open a table whose keys are dependencies? -/
def opensTable (h : Header) : Bool :=
  !h.isElement && h.key.more.isEmpty && String.ofList h.key.first.name ∈ dependencyTables

/-- The dependency that a header is about, if it opens a table below one of dependencies. -/
def dependencyOf? (h : Header) : Option (List Char) :=
  match h.key.more with
  | [] => none
  | part :: _ =>
    if !h.isElement && String.ofList h.key.first.name ∈ dependencyTables then some part.segment.name
    else none

/-- The dependency that a statement names: the first segment of a key in a table of dependencies, or
the one that a header is about. -/
def named : Option Header × Statement → List (List Char)
  | (_, .header h) => (dependencyOf? h).toList
  | (above, .entry key _ _) => if above.any opensTable then [key.first.name] else []

/-! ## What is read of it -/

/-- A table may be known by its name if one bracket opens its header and the name has no quotes. -/
def bareTable? (h : Header) : Option (List Char) :=
  match h.isElement, h.key.first with
  | false, .bare table _ _ => some table
  | _, _ => none

/-- Is a header known to open a table whose keys are dependencies? -/
def isKnownTable (h : Header) : Bool :=
  h.key.more.isEmpty && (bareTable? h).any (String.ofList · ∈ dependencyTables)

/-- A single name without quotes that does not begin with a hyphen. -/
def plainName? : Key → Option (List Char)
  | ⟨.bare name _ _, []⟩ => if name.head? = some '-' then none else some name
  | _ => none

/-- What stands behind the dot after the name of a table, up to a closing bracket, and without the
quotes around it. -/
def nameBehindDot (part : Part) (more : List Part) (right : Spaces) : List Char :=
  trimQuotes (Text.trimEnd (Text.firstPiece (· = ']')
    (part.after.written ++ (part.segment.written ++ (more.flatMap Part.written ++ right.written)))))

/-- The name that is read in a header that has a dot directly behind the name of a table. -/
def nameIn? (h : Header) : Option (List Char) :=
  match bareTable? h, h.key.more with
  | some table, part :: more =>
    if part.before.written.isEmpty && String.ofList table ∈ dependencyTables then
      some (nameBehindDot part more h.right)
    else none
  | _, _ => none

section Reading

variable {l : Line} {h : Header} {rest : List (List Char)}

/-- The names of tables have neither dots nor blanks nor quotes. -/
theorem isBareChar_of_mem_dependencyTables {table : List Char}
    (h : String.ofList table ∈ dependencyTables) : ∀ c ∈ table, isBareChar c = true := by
  have hall : ∀ t ∈ dependencyTables, t.toList.all isBareChar = true := by decide
  have htable := hall _ h
  rwa [String.toList_ofList, List.all_eq_true] at htable

/-- Neither have they blanks behind them. -/
theorem mem_dependencyTables_append_iff {table : List Char} {s : Spaces} :
    String.ofList (table ++ s.written) ∈ dependencyTables ↔
      (s.written.isEmpty && String.ofList table ∈ dependencyTables) = true := by
  cases hs : s.written with
  | nil => simp
  | cons c cs =>
    refine iff_of_false (fun hmem ↦ ?_) Bool.false_ne_true
    have hbare := isBareChar_of_mem_dependencyTables hmem c (by simp)
    have hblank := s.isBlank c (hs ▸ List.mem_cons_self)
    exact Bool.false_ne_true ((isBlank_of_isBareChar hbare).symm.trans hblank)

theorem manifestNames_of_none (hl : l.statement? = none) (inTable : Bool) :
    manifestNames inTable (l.written :: rest) = manifestNames inTable rest := by
  have hhead : ∀ c ∈ (Text.trim l.written).head?, c = '#' := by
    rcases Line.trim_written_of_none hl with hnil | ⟨comment, hcomment⟩
    · simp [hnil]
    · simp [hcomment]
  have hheader : firstGroup? tableHeader 1 (Text.trim l.written) = none :=
    firstGroup?_tableHeader_eq_none fun hbracket ↦ absurd (hhead _ hbracket) (by decide)
  have hkey : firstGroup? manifestKey 1 (Text.trim l.written) = none :=
    firstGroup?_manifestKey_eq_none fun c hc ↦ by
      rw [hhead c hc]
      rfl
  rw [manifestNames, hheader, hkey]
  cases inTable <;> rfl

/-- A key is read if it is a single name without quotes that does not begin with a hyphen. -/
theorem firstGroup?_manifestKey_written (key : Key) (gap : Spaces) (tail : List Char) :
    firstGroup? manifestKey 1 (key.written ++ (gap.written ++ '=' :: tail)) = plainName? key := by
  obtain ⟨first, more⟩ := key
  cases first with
  | literal name => exact firstGroup?_manifestKey_eq_none (by simp [Key.written, Segment.written]; decide)
  | basic letters => exact firstGroup?_manifestKey_eq_none (by simp [Key.written, Segment.written]; decide)
  | bare name hne hbare =>
    obtain ⟨c, cs, rfl⟩ := List.exists_cons_of_ne_nil hne
    obtain ⟨hc, hcs⟩ := List.forall_mem_cons.mp hbare
    have hkey : ∀ x ∈ cs, isKeyChar x = true := fun x hx ↦ isKeyChar_of_isBareChar (hcs x hx)
    by_cases hhyphen : c = '-'
    · subst hhyphen
      have hnone : plainName? ⟨.bare ('-' :: cs) hne hbare, more⟩ = none := by cases more <;> rfl
      rw [hnone]
      exact firstGroup?_manifestKey_eq_none fun x hx ↦ by
        obtain rfl : '-' = x := Option.some.inj hx
        decide
    · cases more with
      | nil =>
        rw [isBareChar, decide_eq_false hhyphen, Bool.or_false] at hc
        rw [plainName?, List.head?_cons, if_neg fun heq ↦ hhyphen (Option.some.inj heq),
          firstGroup?_manifestKey_iff]
        exact ⟨c, cs, gap.written, tail, rfl, by simp [Key.written, Segment.written], hc, hkey, gap.isBlank⟩
      | cons part parts =>
        refine Option.eq_none_iff_forall_ne_some.mpr fun g hg ↦ ?_
        obtain ⟨c', cs', gap', rest', rfl, heq, -, hkey', hgap'⟩ := firstGroup?_manifestKey_iff.mp hg
        -- Behind the name stands a dot, and no sign of equality.
        simp only [Key.written, Segment.written, List.flatMap_cons, Part.written, List.append_assoc,
          List.cons_append, List.cons.injEq] at heq
        have hsign := key_unique hkey hkey' part.before.isBlank hgap' (by decide) (by decide) heq.2
        exact absurd hsign.2 (by decide)

/-- A key does not begin with a bracket. -/
theorem head?_written_ne (key : Key) (rest : List Char) : (key.written ++ rest).head? ≠ some '[' := by
  obtain ⟨first, more⟩ := key
  cases first with
  | literal | basic => simp [Key.written, Segment.written]
  | bare name hne hbare =>
    obtain ⟨c, cs, rfl⟩ := List.exists_cons_of_ne_nil hne
    intro hhead
    obtain rfl : c = '[' := Option.some.inj hhead
    exact absurd (hbare _ List.mem_cons_self) (by decide)

theorem manifestNames_of_entry {key : Key} {gap : Spaces} {value : List Char}
    (hl : l.statement? = some (.entry key gap value)) (inTable : Bool) :
    manifestNames inTable (l.written :: rest) =
      (if inTable then (plainName? key).toList else []) ++ manifestNames inTable rest := by
  obtain ⟨tail, htail⟩ := Line.trim_written_of_entry hl
  have hheader : firstGroup? tableHeader 1 (Text.trim l.written) = none := by
    rw [htail]
    exact firstGroup?_tableHeader_eq_none (head?_written_ne key _)
  rw [manifestNames, hheader]
  dsimp only
  rw [htail, firstGroup?_manifestKey_written]

/-- What a header is taken to say: what stands up to the first closing bracket. -/
def heading (h : Header) : List Char := Text.trim (Text.firstPiece (· = ']') h.body)

theorem firstGroup?_tableHeader_written (h : Header) (hne : heading h ≠ []) (tail : List Char) :
    firstGroup? tableHeader 1 (h.written ++ tail) = some (Text.firstPiece (· = ']') h.body) := by
  obtain ⟨tail', hwritten⟩ : ∃ tail', h.written ++ tail = '[' :: (h.body ++ ']' :: tail') := by
    refine ⟨if h.isElement then ']' :: tail else tail, ?_⟩
    cases helement : h.isElement <;> simp [Header.written, helement]
  obtain ⟨tail'', hfirst⟩ := Text.exists_append_cons_eq_firstPiece ']' h.body tail'
  refine firstGroup?_tableHeader_iff.mpr ⟨tail'', ?_, ?_, Text.notMem_firstPiece (decide_eq_true rfl) _⟩
  · rw [hwritten, hfirst]
  · intro hnil
    exact hne (by rw [heading, hnil]; rfl)

theorem heading_of_bareTable? {table : List Char} (htable : bareTable? h = some table) :
    table ≠ [] ∧ (∀ c ∈ table, isBareChar c = true) ∧
      heading h = table ++ Text.trimEnd (Text.firstPiece (· = ']')
        (h.key.more.flatMap Part.written ++ h.right.written)) := by
  obtain ⟨isElement, left, ⟨first, more⟩, right⟩ := h
  rw [bareTable?] at htable
  split at htable
  next name hne hbare helement hfirst =>
    obtain rfl := Option.some.inj htable
    obtain rfl : isElement = false := helement
    obtain rfl : first = .bare name hne hbare := hfirst
    have htidy := (Segment.bare name hne hbare).isTidy_written
    have hname : ']' ∉ name := fun hmem ↦ absurd (hbare _ hmem) (by decide)
    have hleft : ']' ∉ left.written := left.notMem (by decide)
    refine ⟨hne, hbare, ?_⟩
    calc Text.trim (Text.firstPiece (· = ']')
          (left.written ++ (name ++ more.flatMap Part.written ++ right.written)))
      _ = Text.trim (left.written ++ (name ++ Text.firstPiece (· = ']')
            (more.flatMap Part.written ++ right.written))) := by
        rw [Text.firstPiece_append (Text.no_sep_of_notMem hleft), List.append_assoc,
          Text.firstPiece_append (Text.no_sep_of_notMem hname)]
      _ = _ := htidy.trim_append left.isBlank _
  next => exact nomatch htable

/-- Other headers seem to begin with a bracket or a quote. -/
theorem heading_of_not_bareTable? (htable : bareTable? h = none) :
    ∃ c cs, heading h = c :: cs ∧ isBareChar c = false := by
  have hbegins {before : List Char} {c : Char} {after : List Char}
      (hblank : ∀ c ∈ before, Text.isBlank c = true) (hbefore : ']' ∉ before)
      (hc : Text.isBlank c = false) (hne : ']' ≠ c) :
      Text.trim (Text.firstPiece (· = ']') (before ++ c :: after)) =
        c :: Text.trimEnd (Text.firstPiece (· = ']') after) := by
    have hnot : ']' ∉ [c] := fun hmem ↦ hne (List.mem_singleton.mp hmem)
    rw [Text.firstPiece_append (Text.no_sep_of_notMem hbefore), ← List.singleton_append (x := c),
      Text.firstPiece_append (Text.no_sep_of_notMem hnot)]
    exact (Text.isTidy_singleton hc).trim_append hblank _
  obtain ⟨isElement, left, ⟨first, more⟩, right⟩ := h
  have hleft : ']' ∉ left.written := left.notMem (by decide)
  cases isElement with
  | true =>
    exact ⟨'[', _, hbegins (List.forall_mem_nil _) List.not_mem_nil (by decide) (by decide), by decide⟩
  | false =>
    cases first with
    | bare => exact nomatch htable
    | literal => exact ⟨'\'', _, hbegins left.isBlank hleft (by decide) (by decide), by decide⟩
    | basic => exact ⟨'"', _, hbegins left.isBlank hleft (by decide) (by decide), by decide⟩

/-- The dot before a further segment stays, and what is before it. -/
theorem trimEnd_firstPiece_part (part : Part) (tail : List Char) :
    Text.trimEnd (Text.firstPiece (· = ']') (part.written ++ tail)) =
      part.before.written ++ '.' :: Text.trimEnd (Text.firstPiece (· = ']')
        (part.after.written ++ (part.segment.written ++ tail))) := by
  have hclosing : ']' ∉ part.before.written ++ ['.'] :=
    fun hmem ↦ (List.mem_append.mp hmem).elim (part.before.notMem (by decide)) (by decide)
  have hend : Text.trimEnd (part.before.written ++ ['.']) = part.before.written ++ ['.'] :=
    Text.trimEnd_eq_self_iff.mpr (by simp; decide)
  have hwritten : part.written ++ tail =
      (part.before.written ++ ['.']) ++ (part.after.written ++ (part.segment.written ++ tail)) := by
    simp [Part.written]
  rw [hwritten, Text.firstPiece_append (Text.no_sep_of_notMem hclosing), Text.trimEnd_append hend,
    List.append_assoc, List.singleton_append]

/-- A heading that does not begin as a name is none of a table. -/
theorem headerDependency?_eq_none {c : Char} {cs : List Char} (hc : isBareChar c = false) :
    headerDependency? (c :: cs) = none := by
  by_cases hdot : '.' ∈ c :: cs
  · obtain ⟨s, after, hs⟩ := List.append_of_mem hdot
    obtain ⟨after', hfirst⟩ := Text.exists_append_cons_eq_firstPiece '.' s after
    rw [headerDependency?, hs, hfirst,
      Text.splitFirst?_append_cons (Text.notMem_firstPiece (decide_eq_true rfl) _)]
    refine if_neg fun htable ↦ ?_
    have hbare := isBareChar_of_mem_dependencyTables htable
    rw [hfirst] at hs
    cases hpiece : Text.firstPiece (· = '.') s with
    | nil =>
      rw [hpiece] at htable
      exact absurd htable (by decide)
    | cons d ds =>
      rw [hpiece] at hs hbare
      obtain ⟨rfl, -⟩ := List.cons.inj hs
      exact Bool.false_ne_true (hc.symm.trans (hbare _ List.mem_cons_self))
  · rw [headerDependency?, Text.splitFirst?_eq_none hdot]

theorem heading_of_single {table : List Char} (htable : bareTable? h = some table) (hmore : h.key.more = []) :
    heading h = table := by
  have hright : Text.trimEnd (Text.firstPiece (· = ']') h.right.written) = [] :=
    Text.trimEnd_of_blank fun c hc ↦ h.right.isBlank c (List.takeWhile_subset _ hc)
  obtain ⟨-, -, hheading⟩ := heading_of_bareTable? htable
  rwa [hmore, List.flatMap_nil, List.nil_append, hright, List.append_nil] at hheading

theorem heading_of_dotted {table : List Char} (htable : bareTable? h = some table) {part : Part}
    {more : List Part} (hmore : h.key.more = part :: more) : heading h = table ++ part.before.written ++
      '.' :: Text.trimEnd (Text.firstPiece (· = ']') (part.after.written ++ (part.segment.written ++
        (more.flatMap Part.written ++ h.right.written)))) := by
  obtain ⟨-, -, hheading⟩ := heading_of_bareTable? htable
  rwa [hmore, List.flatMap_cons, List.append_assoc, trimEnd_firstPiece_part, ← List.append_assoc] at hheading

/-- What is read in a header, and what the lines below it are taken for. -/
theorem reads_heading (h : Header) : heading h ≠ [] ∧ headerDependency? (heading h) = nameIn? h ∧
    decide (String.ofList (heading h) ∈ dependencyTables) = isKnownTable h := by
  cases htable : bareTable? h with
  | none =>
    obtain ⟨c, cs, hheading, hc⟩ := heading_of_not_bareTable? htable
    rw [hheading, headerDependency?_eq_none hc]
    refine ⟨List.cons_ne_nil c cs, by simp [nameIn?, htable], ?_⟩
    rw [isKnownTable, htable, Option.any_none, Bool.and_false]
    refine decide_eq_false fun hmem ↦ Bool.false_ne_true (hc.symm.trans ?_)
    exact isBareChar_of_mem_dependencyTables hmem c List.mem_cons_self
  | some table =>
    obtain ⟨hne, hbare, -⟩ := heading_of_bareTable? htable
    have hdot : '.' ∉ table := fun hmem ↦ absurd (hbare _ hmem) (by decide)
    cases hmore : h.key.more with
    | nil =>
      rw [heading_of_single htable hmore, headerDependency?, Text.splitFirst?_eq_none hdot]
      exact ⟨hne, by simp [nameIn?, htable, hmore], by simp [isKnownTable, htable, hmore]⟩
    | cons part more =>
      have hbefore : '.' ∉ part.before.written := part.before.notMem (by decide)
      rw [heading_of_dotted htable hmore, headerDependency?,
        Text.splitFirst?_append_cons (by simp [hdot, hbefore])]
      refine ⟨List.append_ne_nil_of_right_ne_nil _ (List.cons_ne_nil _ _), ?_, ?_⟩
      · simp only [nameIn?, htable, hmore, mem_dependencyTables_append_iff, nameBehindDot]
      · rw [isKnownTable, hmore, List.isEmpty_cons, Bool.false_and]
        refine decide_eq_false fun hmem ↦ ?_
        exact absurd (isBareChar_of_mem_dependencyTables hmem '.' (by simp)) (by decide)

/-- Below a header that opens a table, keys are taken for dependencies. -/
theorem manifestNames_of_header (hl : l.statement? = some (.header h)) (inTable : Bool) :
    manifestNames inTable (l.written :: rest) =
      (nameIn? h).toList ++ manifestNames (isKnownTable h) rest := by
  obtain ⟨hne, hname, htable⟩ := reads_heading h
  obtain ⟨tail, htail⟩ := Line.trim_written_of_header hl
  rw [manifestNames, htail, firstGroup?_tableHeader_written h hne]
  dsimp only
  rw [← heading, hname, htable]

end Reading

/-! ## Names behind a dot -/

section Behind

/-- Only quotes are taken away. -/
theorem weight_trimQuotes (s : List Char) : weight (trimQuotes s) = weight s := by
  have hdrop (s : List Char) : weight (s.dropWhile (· = '"')) = weight s := by
    induction s with
    | nil => rfl
    | cons c cs ih =>
      by_cases hc : c = '"'
      · rw [List.dropWhile_cons_of_pos (by simp [hc]), ih, weight, weight,
          List.countP_cons_of_neg (by simp [hc])]
      · rw [List.dropWhile_cons_of_neg (by simp [hc])]
  have hreverse (s : List Char) : weight s.reverse = weight s := List.countP_reverse
  rw [trimQuotes, hreverse, hdrop, hreverse, hdrop]

theorem trimQuotes_subset (s : List Char) : trimQuotes s ⊆ s := by
  intro c hc
  have hmid := List.mem_reverse.mp ((List.dropWhile_subset _) (List.mem_reverse.mp hc))
  exact List.dropWhile_subset _ hmid

theorem trimQuotes_of_notMem {name : List Char} (h : '"' ∉ name) :
    trimQuotes name = name ∧ trimQuotes ('"' :: (name ++ ['"'])) = name := by
  have hself {s : List Char} (hs : '"' ∉ s) : s.dropWhile (· = '"') = s := by
    cases s with
    | nil => rfl
    | cons c cs => exact List.dropWhile_cons_of_neg (by simpa using (List.ne_of_not_mem_cons hs).symm)
  have hskip (s : List Char) : ('"' :: s).dropWhile (· = '"') = s.dropWhile (· = '"') :=
    List.dropWhile_cons_of_pos (decide_eq_true rfl)
  have hreverse : '"' ∉ name.reverse := fun hmem ↦ h (List.mem_reverse.mp hmem)
  constructor
  · rw [trimQuotes, hself h, hself hreverse, List.reverse_reverse]
  · rw [trimQuotes, hskip]
    cases name with
    | nil => rfl
    | cons c cs =>
      have hc : c ≠ '"' := (List.ne_of_not_mem_cons h).symm
      rw [List.cons_append, List.dropWhile_cons_of_neg (by simpa using hc), ← List.cons_append,
        List.reverse_append, List.reverse_singleton, List.singleton_append,
        hskip, hself hreverse, List.reverse_reverse]

variable {part : Part} {more : List Part} {right : Spaces}

/-- Where no bracket is in the way, the whole segment is read. -/
theorem nameBehindDot_eq (h : ']' ∉ part.segment.written) : nameBehindDot part more right =
    trimQuotes (part.after.written ++ (part.segment.written ++
      Text.trimEnd (Text.firstPiece (· = ']') (more.flatMap Part.written ++ right.written)))) := by
  have hafter : ']' ∉ part.after.written := part.after.notMem (by decide)
  have hend : Text.trimEnd (part.after.written ++ part.segment.written) =
      part.after.written ++ part.segment.written := by
    refine Text.trimEnd_eq_self_iff.mpr ?_
    rw [List.getLast?_append_of_ne_nil _ part.segment.isTidy_written.ne_nil]
    exact part.segment.isTidy_written.last
  rw [nameBehindDot, Text.firstPiece_append (Text.no_sep_of_notMem hafter),
    Text.firstPiece_append (Text.no_sep_of_notMem h), ← List.append_assoc, Text.trimEnd_append hend,
    List.append_assoc]

/-- Is a name behind a dot written as it is, but for double quotes around it, with no blanks before it
and nothing but blanks behind it? -/
def isPlainPart (part : Part) (more : List Part) : Bool :=
  part.after.written.isEmpty && more.isEmpty && part.segment.isVerbatim && ']' ∉ part.segment.name

/-- A name behind a dot is read as it is meant exactly if it is plain.  Otherwise the text that is read
ends before a bracket in the name, or has too many characters. -/
theorem nameBehindDot_eq_iff :
    nameBehindDot part more right = part.segment.name ↔ isPlainPart part more = true := by
  simp only [isPlainPart, Bool.and_eq_true, List.isEmpty_iff, decide_eq_true_iff]
  constructor
  · intro hread
    have hclosing : ']' ∉ part.segment.name := by
      rw [← hread]
      intro hmem
      have htrimmed := trimQuotes_subset _ hmem
      exact Text.notMem_firstPiece (decide_eq_true rfl) _ ((List.rdropWhile_prefix _ _).subset htrimmed)
    rw [nameBehindDot_eq (mt Segment.mem_name hclosing)] at hread
    -- Quotes are the only characters that get lost, so all others are counted on both sides.
    have hweight := congrArg weight hread
    rw [weight_trimQuotes, weight_append, weight_append] at hweight
    have hname := part.segment.weight_name
    cases hverbatim : part.segment.isVerbatim with
    | false =>
      rw [hverbatim, if_neg Bool.false_ne_true] at hname
      omega
    | true =>
      rw [hverbatim, if_pos rfl] at hname
      have hnone {s : List Char} (hs : weight s = 0) : ∀ c ∈ s, c = '"' := by
        simpa [weight, List.countP_eq_zero] using hs
      refine ⟨⟨⟨?_, ?_⟩, rfl⟩, hclosing⟩
      · refine List.eq_nil_iff_forall_not_mem.mpr fun c hc ↦ ?_
        obtain rfl := hnone (s := part.after.written) (by omega) c hc
        exact part.after.notMem (by decide) hc
      · cases more with
        | nil => rfl
        | cons next more =>
          have hdot (s : List Char) : weight ('.' :: s) = weight s + 1 := List.countP_cons_of_pos (by decide)
          rw [List.flatMap_cons, List.append_assoc, trimEnd_firstPiece_part, weight_append, hdot] at hweight
          omega
  · rintro ⟨⟨⟨hafter, rfl⟩, hverbatim⟩, hclosing⟩
    obtain ⟨hquote, hwritten⟩ := Segment.written_of_isVerbatim hverbatim
    have hnot : ']' ∉ part.segment.written := by
      rcases hwritten with hwritten | hwritten <;> simp [hwritten, hclosing]
    have hright : Text.trimEnd (Text.firstPiece (· = ']') ([].flatMap Part.written ++ right.written)) = [] :=
      Text.trimEnd_of_blank fun c hc ↦ right.isBlank c (List.takeWhile_subset _ hc)
    rw [nameBehindDot_eq hnot, hafter, hright, List.nil_append, List.append_nil]
    rcases hwritten with hwritten | hwritten
    · rw [hwritten, (trimQuotes_of_notMem hquote).1]
    · rw [hwritten, (trimQuotes_of_notMem hquote).2]

end Behind

/-! ## Whole manifests -/

/-- The names that are read in a statement. -/
def noted : Option Header × Statement → List (List Char)
  | (_, .header h) => (nameIn? h).toList
  | (above, .entry key _ _) => if above.any isKnownTable then (plainName? key).toList else []

/-- The names that are recorded for a statement, which are not empty. -/
def recorded (said : Option Header × Statement) : List (List Char) := (noted said).filter (· ≠ [])

/-- Is a statement read as it is meant?  Statements that name no dependency are; names must be plain, and
the header that opens the table must have no quotes. -/
def isPlain : Option Header × Statement → Bool
  | (_, .header h) =>
    (dependencyOf? h).isNone ||
      match bareTable? h, h.key.more with
      | some _, part :: more =>
        part.before.written.isEmpty && isPlainPart part more && !part.segment.name.isEmpty
      | _, _ => false
  | (above, .entry key _ _) => !above.any opensTable || (above.any isKnownTable && (plainName? key).isSome)

section Whole

/-- What is read of a whole manifest is what is read of its statements, one by one: that the nearest header
above is known to open a table is all that has to be kept in mind. -/
theorem manifestNames_map_written (above : Option Header) (lines : List Line) :
    manifestNames (above.any isKnownTable) (lines.map Line.written) =
      (statementsUnder above lines).flatMap noted := by
  induction lines generalizing above with
  | nil => rfl
  | cons l lines ih =>
    rw [List.map_cons]
    cases hl : l.statement? with
    | none => rw [manifestNames_of_none hl, statementsUnder, hl, ih]
    | some statement =>
      cases statement with
      | header h =>
        rw [manifestNames_of_header hl, statementsUnder, hl, List.flatMap_cons]
        exact congrArg _ (ih (some h))
      | entry key gap value =>
        rw [manifestNames_of_entry hl, statementsUnder, hl, List.flatMap_cons]
        exact congrArg _ (ih above)

theorem plainName?_eq_some {key : Key} {name : List Char} (h : plainName? key = some name) :
    name = key.first.name ∧ name ≠ [] := by
  rw [plainName?.eq_def] at h
  split at h
  next name' hne hbare =>
    rw [Option.ite_none_left_eq_some] at h
    obtain rfl := Option.some.inj h.2
    exact ⟨rfl, hne⟩
  next => exact absurd h.symm (Option.some_ne_none name)

theorem bareTable?_eq_some {h : Header} {table : List Char} (htable : bareTable? h = some table) :
    h.isElement = false ∧ h.key.first.name = table := by
  rw [bareTable?] at htable
  split at htable
  next helement hfirst => exact ⟨helement, by rw [hfirst]; exact Option.some.inj htable⟩
  next => exact nomatch htable

theorem opensTable_of_isKnownTable {h : Header} (hknown : isKnownTable h = true) : opensTable h = true := by
  rw [isKnownTable, Bool.and_eq_true, Option.any_eq_true] at hknown
  obtain ⟨hsingle, table, htable, hmem⟩ := hknown
  obtain ⟨helement, hname⟩ := bareTable?_eq_some htable
  rw [opensTable, helement, hname, hsingle, hmem]
  rfl

theorem filter_singleton_eq_iff {x y : List Char} : [x].filter (· ≠ []) = [y] ↔ x = y ∧ y ≠ [] := by
  cases x with
  | nil => simp [eq_comm]
  | cons c cs => simpa using fun heq hnil ↦ List.cons_ne_nil c cs (heq.trans hnil)

theorem recorded_header_eq_named_iff (above : Option Header) (h : Header) :
    recorded (above, .header h) = named (above, .header h) ↔ isPlain (above, .header h) = true := by
  rw [recorded, noted, named, isPlain, dependencyOf?, nameIn?]
  cases hmore : h.key.more with
  | nil => simp
  | cons part more =>
    cases htable : bareTable? h with
    | none => simp
    | some table =>
      obtain ⟨helement, hname⟩ := bareTable?_eq_some htable
      rw [helement, hname]
      dsimp only
      by_cases hmem : String.ofList table ∈ dependencyTables
      · by_cases hbefore : part.before.written = []
        · rw [if_pos (by simp [hbefore, hmem]), if_pos (by simp [hmem]), Option.toList_some,
            Option.toList_some, filter_singleton_eq_iff, nameBehindDot_eq_iff]
          simp [hbefore]
        · simp [hmem, hbefore]
      · simp [hmem]

/-- A statement is read as it is meant exactly if it is plain. -/
theorem recorded_eq_named_iff (said : Option Header × Statement) :
    recorded said = named said ↔ isPlain said = true := by
  obtain ⟨above, statement⟩ := said
  cases statement with
  | header h => exact recorded_header_eq_named_iff above h
  | entry key gap value =>
    rw [recorded, noted, named, isPlain]
    cases hknown : above.any isKnownTable with
    | false => cases above.any opensTable <;> simp
    | true =>
      have hopens : above.any opensTable = true := by
        rw [Option.any_eq_true] at hknown ⊢
        obtain ⟨h, habove, hknown⟩ := hknown
        exact ⟨h, habove, opensTable_of_isKnownTable hknown⟩
      rw [hopens]
      cases hname : plainName? key with
      | none => simp
      | some name =>
        obtain ⟨rfl, hne⟩ := plainName?_eq_some hname
        simp [hne]

theorem isPlain_of_named_eq_nil {said : Option Header × Statement} (h : named said = []) :
    isPlain said = true := by
  obtain ⟨above, statement⟩ := said
  cases statement with
  | header header =>
    rw [isPlain, Option.toList_eq_nil_iff.mp h]
    rfl
  | entry key gap value =>
    rw [named] at h
    split at h
    · exact nomatch h
    next hopens => rw [isPlain, Bool.eq_false_of_not_eq_true hopens, Bool.not_false, Bool.true_or]

/-- No statement is recorded more often than it names a dependency. -/
theorem length_recorded_le (said : Option Header × Statement) :
    (recorded said).length ≤ (named said).length := by
  cases hnamed : named said with
  | nil => rw [← hnamed, (recorded_eq_named_iff said).mpr (isPlain_of_named_eq_nil hnamed)]
  | cons name names =>
    have hnoted : (noted said).length ≤ 1 := by
      rw [noted.eq_def]
      split
      · exact Option.length_toList_le
      · split
        · exact Option.length_toList_le
        · exact Nat.zero_le 1
    calc (recorded said).length
      _ ≤ (noted said).length := List.length_filter_le ..
      _ ≤ 1 := hnoted
      _ ≤ (name :: names).length := Nat.le_add_left ..

end Whole

/-- The reference of a crate to one of its dependencies. -/
def crateEdge (name : List Char) : Edge := ⟨"Cargo.toml", String.ofList name, "dependency"⟩

/-- References leave the rest of a model as it is. -/
theorem addAll_depends (source kind : String) (targets : List (List Char)) (m : Model) :
    m.addAll (targets.map (Fact.depends source · kind)) =
      { m with dependencies := m.dependencies ++
        (targets.filter (· ≠ [])).map fun target ↦ ⟨source, String.ofList target, kind⟩ } := by
  have hzero : Model.total ((targets.map (Fact.depends source · kind)).map Fact.classCount) = 0 :=
    Model.total_classCount_eq_zero (List.forall_mem_map.mpr fun _ _ ↦ rfl)
  rw [Model.addAll, Fact.filterMap_edge?_depends, hzero]
  simp [List.filterMap_map, Function.comp_def, Fact.depends, Fact.package?, Fact.framework?, Fact.pattern?,
    Fact.schema?, Fact.endpoint?, Fact.language?]

theorem addAll_manifest {text : List Char} {lines : List Line}
    (hlines : Text.lines text = lines.map Line.written) (m : Model) : m.addAll (manifest text) =
      { m with dependencies :=
          m.dependencies ++ ((statementsUnder none lines).flatMap recorded).map crateEdge } := by
  have hnames : manifestNames false (Text.lines text) = (statementsUnder none lines).flatMap noted := by
    rw [hlines]
    exact manifestNames_map_written none lines
  rw [manifest, hnames, addAll_depends, List.filter_flatMap]
  rfl

theorem crateEdge_injective : Function.Injective crateEdge :=
  fun _ _ h ↦ String.ofList_injective (Edge.mk.inj h).2.1

/-- A crate's manifest of headers, entries, comments and blank lines adds one reference for each name that is
recorded, in their order, and nothing else.  These are the names of the dependencies exactly if all
statements are plain. -/
theorem manifest_dependencies [Grammars] {u : SourceUnit} {lines : List Line} (hname : u.loweredName = "cargo.toml")
    (hlines : Text.lines u.text = lines.map Line.written) :
    let said := statementsUnder none lines
    let edges := (said.flatMap recorded).map crateEdge
    (∀ m : Model, (record u).run m = (.manifest, { m with dependencies := m.dependencies ++ edges })) ∧
      (edges = (said.flatMap named).map crateEdge ↔ ∀ statement ∈ said, isPlain statement = true) := by
  intro said edges
  constructor
  · intro m
    rw [(adds_record u).run_eq, analyze, if_pos (SourceUnit.loweredName_eq_iff.mp hname),
      addAll_manifest hlines]
  · rw [(List.map_injective_iff.mpr crateEdge_injective).eq_iff,
      flatMap_eq_flatMap_iff fun statement _ ↦ length_recorded_le statement]
    exact forall₂_congr fun statement _ ↦ recorded_eq_named_iff statement

/-- A manifest with a comment, an entry, and a header about a dependency. -/
theorem manifest_dependencies_bare :
    let u : SourceUnit :=
      ⟨"app/Cargo.toml", .rust, "[dependencies]# used\nserde = \"1\"\n[dev-dependencies.log]"⟩
    ((record u).run ∅).2.dependencies =
      [⟨"Cargo.toml", "serde", "dependency"⟩, ⟨"Cargo.toml", "log", "dependency"⟩] := by
  intro u
  let table : Segment := .ofName "dependencies" (by decide)
  let serde : Segment := .ofName "serde" (by decide)
  let other : Segment := .ofName "dev-dependencies" (by decide)
  let log : Segment := .ofName "log" (by decide)
  let lines : List Line := [{ Line.ofHeader (.single table) with comment? := some " used".toList },
    .ofEntry (.single serde) " \"1\"", .ofHeader (.dotted other log)]
  obtain ⟨hadds, hiff⟩ := @manifest_dependencies _ u lines (by decide +kernel) (by decide +kernel)
  rw [hadds, hiff.mpr (by decide +kernel)]
  decide +kernel

/-- A manifest that names some dependencies is read as if it named others. -/
def ReadAs (content : String) (meant read : List String) : Prop :=
  let u : SourceUnit := ⟨"Cargo.toml", .rust, content⟩
  ((record u).run ∅).2.dependencies.map Edge.target = read ∧
    ∃ lines, Text.lines u.text = lines.map Line.written ∧
      ((statementsUnder none lines).flatMap named).map String.ofList = meant

/-- A crate is missed if its key is dotted or quoted, or if the name of the table is quoted, and single
quotes stay on a name in a header. -/
theorem dependencies_misread :
    ReadAs "[dependencies]\nserde.workspace = true" ["serde"] [] ∧
      ReadAs "[dependencies]\n\"serde\" = \"1\"" ["serde"] [] ∧
      ReadAs "[\"dependencies\"]\nserde = \"1\"" ["serde"] [] ∧
      ReadAs "[dependencies.'serde']\nversion = \"1\"" ["serde"] ["'serde'"] := by
  let table : Segment := .ofName "dependencies" (by decide)
  let serde : Segment := .ofName "serde" (by decide)
  let workspace : Segment := .ofName "workspace" (by decide)
  let version : Segment := .ofName "version" (by decide)
  refine ⟨⟨by decide +kernel, [.ofHeader (.single table), .ofEntry (.dotted serde workspace) " true"], ?_⟩,
    ⟨by decide +kernel, [.ofHeader (.single table),
      .ofEntry (.single (.quoted "serde" (by decide))) " \"1\""], ?_⟩,
    ⟨by decide +kernel, [.ofHeader (.single (.quoted "dependencies" (by decide))),
      .ofEntry (.single serde) " \"1\""], ?_⟩,
    ⟨by decide +kernel, [.ofHeader (.dotted table (.literal "serde".toList (by decide))),
      .ofEntry (.single version) " \"1\""], ?_⟩⟩
  all_goals decide +kernel

end CodeSurvey.Rust
