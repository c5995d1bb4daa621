import CodeSurvey.Proofs.Grammar
import CodeSurvey.Proofs.Pattern.Leftmost
import CodeSurvey.Proofs.Recorder.Compiled
import CodeSurvey.Proofs.Text.Pieces
import CodeSurvey.Proofs.Text.Trimming

/-!
# Imports of whole packages

A line that imports all classes of a package has a star for the name of the class.  It is
matched once, up to its semicolon, and the name that is read from it is that of the
package.  What is recorded for it is the package that would own a class of this name.  For
a package below another one that is the other one, and only a package whose name has no
dot is recorded itself.
-/

namespace CodeSurvey

namespace Java

open Pattern

/-- What one import line records. -/
def recorded (package : List Char) (m : Match) : Option Fact := do
  let imported ← m.group? 1
  if Text.startsWith imported "java." || Text.startsWith imported "javax." then none
  else
    let target := owningPackage imported
    if target = package then none else some (.depends (String.ofList package) target "import")

theorem imports_eq_filterMap (package text : List Char) :
    imports package text = (importLine.occurrences text).filterMap (recorded package) :=
  List.filterMap_filterMap

/-- The edges that the import lines in a stretch of the text record. -/
def edgesIn (package text : List Char) (start stop : Nat) : List Edge :=
  (((importLine.occurrences text).filter (·.meets start stop)).filterMap (recorded package)).filterMap Fact.edge?

/-- The edge to a package, unless it is the unit's own. -/
def edgeTo (package target : List Char) : List Edge :=
  if target = package then [] else [⟨String.ofList package, String.ofList target, "import"⟩]

theorem edgeTo_inj {package target target' : List Char} :
    edgeTo package target = edgeTo package target' ↔ target = target' := by
  refine ⟨fun h ↦ ?_, congrArg _⟩
  by_cases hown : target = package <;> by_cases hown' : target' = package
  · exact hown.trans hown'.symm
  · rw [edgeTo, edgeTo, if_pos hown, if_neg hown'] at h
    exact nomatch h
  · rw [edgeTo, edgeTo, if_neg hown, if_pos hown'] at h
    exact nomatch h
  · rw [edgeTo, edgeTo, if_neg hown, if_neg hown'] at h
    exact String.ofList_injective (Edge.mk.inj (List.singleton_inj.mp h)).2.1

/-- The line that imports all classes of a package. -/
def packageImport (name : List Char) : List Char := "import ".toList ++ (name ++ ".*;".toList)

/-! ## How import lines read -/

/-- A character of a dotted name. -/
def isDottedChar (c : Char) : Bool := Text.isAsciiWord c || c = '.'

theorem isBlank_of_isDottedChar {c : Char} : isDottedChar c = true → Text.isBlank c = false :=
  Text.isBlank_eq_false_of (by decide)

theorem notMem_of_blank {s : List Char} (h : ∀ c ∈ s, Text.isBlank c = true) : ';' ∉ s :=
  fun hmem ↦ absurd (h ';' hmem) (by decide)

/-- The parts of an import line: what comes before the name, of which the last is a blank, the name,
a star, and more blanks. -/
structure ImportParts where
  lead : List Char
  gap : Char
  name : List Char
  star : List Char
  tail : List Char
  notMem_lead : ';' ∉ lead
  isBlank_gap : Text.isBlank gap = true
  isDottedChar_name : ∀ c ∈ name, isDottedChar c = true
  star_eq : star = [] ∨ star = ".*".toList
  isBlank_tail : ∀ c ∈ tail, Text.isBlank c = true

namespace ImportParts

/-- An import line without its semicolon. -/
def text (parts : ImportParts) : List Char :=
  parts.lead ++ parts.gap :: (parts.name ++ (parts.star ++ parts.tail))

theorem notMem_text (parts : ImportParts) : ';' ∉ parts.text := by
  have hgap : ';' ≠ parts.gap := by
    rintro hgap
    exact absurd (hgap ▸ parts.isBlank_gap) (by decide)
  have hname : ';' ∉ parts.name := fun hmem ↦ absurd (parts.isDottedChar_name _ hmem) (by decide)
  have hstar : ';' ∉ parts.star := by
    rcases parts.star_eq with heq | heq <;> rw [heq] <;> decide
  simp [text, parts.notMem_lead, hgap, hname, hstar, notMem_of_blank parts.isBlank_tail]

/-- Read from its end, a line that ends with a star has one name. -/
theorem name_eq (parts : ImportParts) (hne : parts.name ≠ []) {lead name : List Char} {gap : Char}
    (hgap : Text.isBlank gap = true) (hname : ∀ c ∈ name, isDottedChar c = true)
    (h : parts.text = lead ++ gap :: (name ++ ".*".toList)) : parts.name = name := by
  have hlast : (parts.lead ++ parts.gap :: (parts.name ++ parts.star) ++ parts.tail).getLast? = some '*' := by
    have htext : parts.lead ++ parts.gap :: (parts.name ++ parts.star) ++ parts.tail = parts.text := by
      simp [text]
    have hstar : lead ++ gap :: (name ++ ".*".toList) = lead ++ gap :: (name ++ ['.']) ++ ['*'] := by simp
    rw [htext, h, hstar, List.getLast?_concat]
  obtain ⟨htail, hlast⟩ : parts.tail = [] ∧
      (parts.lead ++ [parts.gap] ++ parts.name ++ parts.star).getLast? = some '*' := by
    rw [List.getLast?_append] at hlast
    rcases Option.or_eq_some_iff.mp hlast with htail | ⟨htail, hrest⟩
    · exact absurd (parts.isBlank_tail _ (List.mem_of_getLast? htail)) (by decide)
    · exact ⟨List.getLast?_eq_none_iff.mp htail, by simpa using hrest⟩
  have hstar : parts.star = ".*".toList := by
    refine parts.star_eq.resolve_left fun hstar ↦ ?_
    rw [hstar, List.append_nil, List.getLast?_append] at hlast
    rcases Option.or_eq_some_iff.mp hlast with hlast | ⟨hnil, -⟩
    · exact absurd (parts.isDottedChar_name _ (List.mem_of_getLast? hlast)) (by decide)
    · exact hne (List.getLast?_eq_none_iff.mp hnil)
  have hcut : parts.lead ++ parts.gap :: parts.name = lead ++ gap :: name := by
    rw [text, hstar, htail, List.append_nil, ← List.cons_append, ← List.cons_append, ← List.append_assoc,
      ← List.append_assoc] at h
    exact List.append_cancel_right h
  have hdotted {c : Char} (hc : isDottedChar c = true) : (!isDottedChar c) = false := by
    rw [hc, Bool.not_true]
  have hblank {c : Char} (hc : Text.isBlank c = true) : (!isDottedChar c) = true := by
    rw [Bool.not_eq_true', ← Bool.not_eq_true]
    exact fun hdot ↦ Bool.false_ne_true ((isBlank_of_isDottedChar hdot).symm.trans hc)
  exact (Text.last_sep_unique (fun c hc ↦ hdotted (parts.isDottedChar_name c hc)) (hblank parts.isBlank_gap)
    (fun c hc ↦ hdotted (hname c hc)) (hblank hgap) hcut).2.2

end ImportParts

/-- What stands before the name. -/
def importHead : Pattern := lineIndent ++ "import" ++ blanks1 ++ optional ("static" ++ blanks1)

section Reading

variable {before taken rest : List Char} {marks : Marks}

/-- Blanks of which there must be one end with a blank. -/
theorem takes_blanks1 (h : blanks1.Takes before taken rest marks) :
    marks = [] ∧ ∃ lead c, taken = lead ++ [c] ∧ Text.isBlank c = true ∧ ';' ∉ lead := by
  obtain ⟨hall, hleast, rfl⟩ := takes_run_iff.mp h
  have hne : taken ≠ [] := List.ne_nil_of_length_pos hleast
  refine ⟨rfl, taken.dropLast, taken.getLast hne, (List.dropLast_concat_getLast hne).symm,
    hall _ (List.getLast_mem hne), fun hmem ↦ ?_⟩
  exact notMem_of_blank hall ((List.dropLast_sublist taken).subset hmem)

/-- The head ends with a blank, and it has no semicolon. -/
theorem takes_importHead (h : importHead.Takes before taken rest marks) :
    marks = [] ∧ Anchor.lineStart.holds (.between before (taken ++ rest)) = true ∧
      ∃ lead c, taken = lead ++ [c] ∧ Text.isBlank c = true ∧ ';' ∉ lead := by
  obtain ⟨_, static, _, _, rfl, rfl, h, hstatic⟩ := takes_append_iff.mp h
  obtain ⟨_, gap, _, _, rfl, rfl, h, hgap⟩ := takes_append_iff.mp h
  obtain ⟨_, word, _, _, rfl, rfl, h, hword⟩ := takes_append_iff.mp h
  obtain ⟨_, indent, _, _, rfl, rfl, hstart, hindent⟩ := takes_append_iff.mp h
  obtain ⟨rfl, hline, rfl⟩ := takes_test_iff.mp hstart
  obtain ⟨hblank, -, rfl⟩ := takes_run_iff.mp hindent
  obtain ⟨rfl, rfl⟩ := takes_literal_iff.mp hword
  obtain ⟨rfl, lead, c, rfl, hc, hlead⟩ := takes_blanks1 hgap
  have hopening : ';' ∉ indent ++ ("import".toList ++ lead) :=
    List.not_mem_append (notMem_of_blank hblank) (List.not_mem_append (by decide) hlead)
  rcases takes_optional_iff.mp hstatic with hstatic | ⟨rfl, rfl⟩
  · obtain ⟨_, gap', _, _, rfl, rfl, hword', hgap'⟩ := takes_append_iff.mp hstatic
    obtain ⟨rfl, rfl⟩ := takes_literal_iff.mp hword'
    obtain ⟨rfl, lead', c', rfl, hc', hlead'⟩ := takes_blanks1 hgap'
    refine ⟨rfl, by simpa using hline,
      indent ++ ("import".toList ++ lead) ++ [c] ++ ("static".toList ++ lead'), c', by simp, hc', ?_⟩
    have hne : ';' ∉ [c] := notMem_of_blank (List.forall_mem_singleton.mpr hc)
    exact List.not_mem_append (List.not_mem_append hopening hne) (List.not_mem_append (by decide) hlead')
  · exact ⟨rfl, by simpa using hline, _, c, by simp, hc, hopening⟩

/-- An import line begins a line and ends at its first semicolon, and its name is kept. -/
theorem takes_importLine (h : importLine.Takes before taken rest marks) :
    Anchor.lineStart.holds (.between before (taken ++ rest)) = true ∧
      ∃ parts : ImportParts, taken = parts.text ++ [';'] ∧ parts.name ≠ [] ∧
        ∀ start stop, (Match.mk start stop marks).group? 1 = some parts.name := by
  obtain ⟨_, semicolon, _, _, rfl, rfl, h, hsemicolon⟩ := takes_append_iff.mp h
  obtain ⟨_, tail, _, _, rfl, rfl, h, htail⟩ := takes_append_iff.mp h
  obtain ⟨_, star, _, starMarks, rfl, rfl, h, hstar⟩ := takes_append_iff.mp h
  obtain ⟨_, name, _, _, rfl, rfl, hhead, hgroup⟩ := takes_append_iff.mp h
  obtain ⟨rfl, hline, lead, c, rfl, hc, hlead⟩ := takes_importHead hhead
  obtain ⟨_, hbody, rfl⟩ := takes_group_iff.mp hgroup
  obtain ⟨hname, hleast, rfl⟩ := takes_run_iff.mp hbody
  obtain ⟨hblank, -, rfl⟩ := takes_run_iff.mp htail
  obtain ⟨rfl, rfl⟩ := takes_literal_iff.mp hsemicolon
  obtain ⟨hstar', rfl⟩ : (star = [] ∨ star = ".*".toList) ∧ starMarks = [] := by
    rcases takes_optional_iff.mp hstar with hdone | ⟨rfl, rfl⟩
    · exact (takes_literal_iff.mp hdone).imp_left .inr
    · exact ⟨.inl rfl, rfl⟩
  refine ⟨by simpa using hline, ⟨lead, c, name, star, tail, hlead, hc, hname, hstar', hblank⟩, ?_, ?_, ?_⟩
  · simp [ImportParts.text]
  · exact List.ne_nil_of_length_pos hleast
  · intro start stop
    exact group?_of_marks ..

end Reading

/-! ## What is matched of a line -/

section Line

variable {text before name after : List Char} {m : Match}

/-- The line up to its semicolon. -/
def packageImportBody (name : List Char) : List Char := "import".toList ++ ' ' :: (name ++ ".*".toList)

theorem packageImport_eq (name : List Char) : packageImport name = packageImportBody name ++ [';'] := by
  have hword : "import ".toList = "import".toList ++ [' '] := by decide
  have hstar : ".*;".toList = ".*".toList ++ [';'] := by decide
  have hline (word star : List Char) :
      word ++ [' '] ++ (name ++ (star ++ [';'])) = word ++ ' ' :: (name ++ star) ++ [';'] := by simp
  exact (congrArg₂ (fun word star ↦ word ++ (name ++ star)) hword hstar).trans (hline ..)

theorem newline_notMem_packageImport (hname : ∀ c ∈ name, isDottedChar c = true) :
    '\n' ∉ packageImport name :=
  List.not_mem_append (by decide)
    (List.not_mem_append (fun hmem ↦ absurd (hname _ hmem) (by decide)) (by decide))

theorem lt_of_mem_occurrences (hm : m ∈ importLine.occurrences text) : m.start.offset < m.stop.offset := by
  obtain ⟨b, u, r, -, hstart, hstop, htakes⟩ := Match.isTaken_of_mem_occurrences hm
  obtain ⟨-, parts, rfl, -⟩ := takes_importLine htakes
  rw [hstart, hstop]
  simp [Cursor.between]

/-- Whatever is matched of the line ends with it, and the name that is read is that of the
package. -/
theorem group?_of_meets (htext : text = before ++ (packageImport name ++ after))
    (hname : ∀ c ∈ name, isDottedChar c = true) (hm : m ∈ importLine.occurrences text)
    (hmeets : m.meets before.length (before ++ packageImport name).length = true) :
    m.group? 1 = some name ∧ m.stop.offset = (before ++ packageImport name).length := by
  obtain ⟨b, u, r, htext', hstart, hstop, htakes⟩ := Match.isTaken_of_mem_occurrences hm
  obtain ⟨hbegins, parts, rfl, hne, hgroup⟩ := takes_importLine htakes
  rw [Match.meets, Bool.and_eq_true, decide_eq_true_eq, decide_eq_true_eq, hstart, hstop] at hmeets
  obtain ⟨d, rfl, hrest⟩ := Anchor.exists_before_of_lineStart (newline_notMem_packageImport hname)
    (htext.symm.trans htext') hbegins hmeets.1
  -- Both end with the first semicolon behind the place where the match starts.
  have hbody : ';' ∉ packageImportBody name :=
    List.not_mem_append (by decide) (List.not_mem_cons_of_ne_of_not_mem (by decide)
      (List.not_mem_append (fun hmem ↦ absurd (hname _ hmem) (by decide)) (by decide)))
  have hle : d.length ≤ parts.text.length := by
    have hlt := hmeets.2
    simp only [Cursor.between, List.length_append, List.length_singleton] at hlt
    omega
  rw [packageImport_eq, List.append_assoc, List.append_assoc, List.singleton_append,
    List.singleton_append] at hrest
  obtain ⟨e, heq, hcut⟩ := exists_eq_append hrest.symm hle
  have hnot : ';' ∉ e := fun hmem ↦ parts.notMem_text (heq ▸ List.mem_append_right d hmem)
  obtain ⟨rfl, -, rfl⟩ := Text.first_sep_unique (Text.no_sep_of_notMem hbody) (decide_eq_true rfl)
    (Text.no_sep_of_notMem hnot) (decide_eq_true rfl) hcut
  constructor
  · have hread := parts.name_eq hne (by decide) hname (heq.trans (List.append_assoc ..).symm)
    exact hread ▸ hgroup m.start m.stop
  · simp only [hstop, heq, packageImport_eq, Cursor.between, List.append_assoc]

/-- The line is an import line. -/
theorem canTake_packageImport (after : List Char) (hline : before = [] ∨ before.getLast? = some '\n')
    (hne : name ≠ []) (hname : ∀ c ∈ name, isDottedChar c = true) :
    importLine.CanTake before (packageImport name) after := by
  have hstart (s : List Char) : Anchor.lineStart.holds (.between before s) = true := by
    rcases hline with rfl | hlast
    · rfl
    · simp [Anchor.holds, Cursor.between, hlast]
  have hblanks {b s : List Char} : blanks.CanTake b [] s := canTake_run (List.forall_mem_nil _) (Nat.le_refl 0)
  have hgap {b s : List Char} : blanks1.CanTake b [' '] s :=
    canTake_run (List.forall_mem_singleton.mpr rfl) (Nat.le_refl 1)
  have hgroup {b s : List Char} : (group 1 dottedName).CanTake b name s :=
    (canTake_run hname (List.length_pos_iff.mpr hne)).group 1
  have hhead {s : List Char} : importHead.CanTake before ([] ++ [] ++ "import".toList ++ [' '] ++ []) s :=
    ((((canTake_test (hstart _)).append hblanks).append (canTake_literal "import")).append hgap).append
      canTake_optional_nil
  have htakes : importLine.CanTake before ([] ++ [] ++ "import".toList ++ [' '] ++ [] ++ name ++
      ".*".toList ++ [] ++ ";".toList) after :=
    (((hhead.append hgroup).append (canTake_literal ".*").optional).append hblanks).append
      (canTake_literal ";")
  have hparts (word star stop : List Char) : [] ++ [] ++ word ++ [' '] ++ [] ++ name ++ star ++ [] ++ stop =
      word ++ ' ' :: (name ++ star) ++ stop := by simp
  rw [hparts] at htakes
  rw [packageImport_eq]
  exact htakes

/-- The line is matched. -/
theorem exists_meets (htext : text = before ++ (packageImport name ++ after))
    (hline : before = [] ∨ before.getLast? = some '\n') (hne : name ≠ [])
    (hname : ∀ c ∈ name, isDottedChar c = true) :
    ∃ m ∈ importLine.occurrences text, m.meets before.length (before ++ packageImport name).length = true := by
  obtain ⟨marks, htakes⟩ := canTake_packageImport after hline hne hname
  obtain ⟨m, hm, hstart, hcovers⟩ := exists_mem_occurrences htext htakes
  refine ⟨m, hm, ?_⟩
  have hlt := lt_of_mem_occurrences hm
  rw [Match.meets, Bool.and_eq_true, decide_eq_true_eq, decide_eq_true_eq]
  refine ⟨Nat.lt_of_le_of_lt hstart (by simp [packageImport_eq]), ?_⟩
  rcases hcovers with hstop | heq
  · exact hstop
  · exact heq ▸ hlt

/-- One match lies in the line, and it reads the name of the package. -/
theorem filter_meets (htext : text = before ++ (packageImport name ++ after))
    (hline : before = [] ∨ before.getLast? = some '\n') (hne : name ≠ [])
    (hname : ∀ c ∈ name, isDottedChar c = true) :
    ∃ m ∈ importLine.occurrences text, m.group? 1 = some name ∧
      (importLine.occurrences text).filter (·.meets before.length (before ++ packageImport name).length) = [m] := by
  obtain ⟨m, hm, hmeets⟩ := exists_meets htext hline hne hname
  refine ⟨m, hm, (group?_of_meets htext hname hm hmeets).1, ?_⟩
  exact filter_meets_eq_singleton hm hmeets fun m' hm' hmeets' ↦
    ⟨(group?_of_meets htext hname hm' hmeets').2, lt_of_mem_occurrences hm'⟩

end Line

/-! ## Dotted names -/

/-- Letters and digits of ASCII and underscores, with single dots between them. -/
def IsDottedName (name : List Char) : Prop :=
  ∀ segment ∈ Text.pieces (· = '.') name, segment ≠ [] ∧ ∀ c ∈ segment, Text.isAsciiWord c = true

instance (name : List Char) : Decidable (IsDottedName name) :=
  decidable_of_iff
    ((Text.pieces (· = '.') name).all fun segment ↦ !segment.isEmpty && segment.all Text.isAsciiWord)
    (by simp [IsDottedName])

section DottedName

variable {name : List Char}

theorem IsDottedName.ne_nil (h : IsDottedName name) : name ≠ [] := by
  rintro rfl
  exact (h [] (List.mem_singleton_self [])).1 rfl

theorem IsDottedName.isDottedChar (h : IsDottedName name) : ∀ c ∈ name, isDottedChar c = true := by
  intro c hc
  rw [Java.isDottedChar, Bool.or_eq_true]
  rcases Text.sep_or_mem_pieces (· = '.') hc with hdot | ⟨segment, hsegment, hc⟩
  · exact .inr hdot
  · exact .inl ((h segment hsegment).2 c hc)

/-- A class is owned by what is before the last dot of its name. -/
theorem IsDottedName.owningPackage_eq {before after : List Char} (h : IsDottedName (before ++ '.' :: after))
    (hafter : '.' ∉ after) : owningPackage (before ++ '.' :: after) = before ∧ before ≠ [] := by
  have hne : before ≠ [] := by
    rintro rfl
    rw [List.nil_append, IsDottedName, Text.pieces_cons_of_sep (decide_eq_true rfl)] at h
    exact (h [] List.mem_cons_self).1 rfl
  obtain ⟨c, cs, rfl⟩ := List.exists_cons_of_ne_nil hne
  rw [owningPackage, Text.splitLast?_append_cons (c :: cs) hafter]
  exact ⟨rfl, hne⟩

/-- What owns a class of the name is a package that is not empty, and not the name itself where the
name has a dot. -/
theorem IsDottedName.owningPackage_spec (h : IsDottedName name) :
    owningPackage name ≠ [] ∧ (owningPackage name = name ↔ '.' ∉ name) := by
  cases hsplit : Text.splitLast? '.' name with
  | none =>
    have howner : owningPackage name = name := by rw [owningPackage, hsplit]
    rw [howner]
    exact ⟨h.ne_nil, iff_of_true rfl (Text.splitLast?_eq_none_iff.mp hsplit)⟩
  | some split =>
    obtain ⟨rfl, hafter⟩ := Text.splitLast?_eq_some_iff.mp hsplit
    obtain ⟨howner, hne⟩ := h.owningPackage_eq hafter
    rw [howner]
    refine ⟨hne, iff_of_false (fun hself ↦ ?_) (fun hnot ↦ hnot List.mem_append_cons_self)⟩
    simpa using congrArg List.length hself

end DottedName

/-- What the line records is what is recorded for a class of the name of the package. -/
theorem edgesIn_packageImport {text before name after : List Char} (package : List Char)
    (htext : text = before ++ (packageImport name ++ after))
    (hline : before = [] ∨ before.getLast? = some '\n') (hname : IsDottedName name)
    (hjava : Text.startsWith name "java." = false) (hjavax : Text.startsWith name "javax." = false) :
    edgesIn package text before.length (before ++ packageImport name).length =
      edgeTo package (owningPackage name) := by
  obtain ⟨m, -, hgroup, hfilter⟩ := filter_meets htext hline hname.ne_nil hname.isDottedChar
  have hrecorded : recorded package m = if owningPackage name = package then none
      else some (.depends (String.ofList package) (owningPackage name) "import") := by
    simp [recorded, hgroup, hjava, hjavax]
  rw [edgesIn, hfilter, edgeTo]
  by_cases hown : owningPackage name = package
  · rw [if_pos hown] at hrecorded ⊢
    rw [List.filterMap_cons_none hrecorded]
    rfl
  · rw [if_neg hown] at hrecorded ⊢
    rw [List.filterMap_cons_some hrecorded]
    have htarget : String.ofList (owningPackage name) ≠ "" := fun hnil ↦
      hname.owningPackage_spec.1 (String.ofList_injective hnil)
    exact List.filterMap_cons_some (if_neg htarget)

section

variable [Grammars] (u : SourceUnit) {package : List Char}

/-- What the imports record is recorded for the unit. -/
theorem imports_infix_facts (hpackage : (declarations u.text).packages.head? = some package) :
    imports package u.text <:+: (analyze u).facts := by
  have himports : imports package u.text <:+: (declarations u.text).packages.head?.toList.map Fact.packageOf ++
      Fact.classes (declarations u.text).typeCount ::
        (declarations u.text).packages.head?.toList.flatMap (imports · u.text) := by
    rw [hpackage, Option.toList_some, List.flatMap_singleton]
    exact List.infix_append_of_infix_right (List.suffix_cons ..).isInfix
  rw [analyze]
  iterate 6 refine List.infix_append_of_infix_left ?_
  exact himports

/-- The edges of a match are among those of the unit. -/
theorem edgesIn_infix (hpackage : (declarations u.text).packages.head? = some package) {start stop : Nat}
    {m : Match} (hm : m ∈ importLine.occurrences u.text)
    (hfilter : (importLine.occurrences u.text).filter (·.meets start stop) = [m]) :
    edgesIn package u.text start stop <:+: ((record u).run ∅).2.dependencies := by
  obtain ⟨earlier, later, hoccurrences⟩ := List.append_of_mem hm
  have hmatch : [m] <:+: importLine.occurrences u.text := ⟨earlier, later, by simp [hoccurrences]⟩
  have hfacts := (hmatch.filterMap (recorded package)).trans
    (imports_eq_filterMap package u.text ▸ imports_infix_facts u hpackage)
  have hdependencies : ((record u).run ∅).2.dependencies = (analyze u).facts.filterMap Fact.edge? := by
    rw [(adds_record u).run_empty]
    exact List.nil_append _
  rw [edgesIn, hfilter, hdependencies]
  exact hfacts.filterMap Fact.edge?

/-- A line that imports all classes of a package records an edge to what would own a class of the
package's name, unless that is the unit's own package, by whatever means it was found.  It records the
edge to the package itself, and none from a package to itself, exactly if the name of the package has
no dot. -/
theorem packageImport_edges {before name after : List Char}
    (htext : u.text = before ++ (packageImport name ++ after))
    (hline : before = [] ∨ before.getLast? = some '\n')
    (hpackage : (declarations u.text).packages.head? = some package) (hname : IsDottedName name)
    (hjava : Text.startsWith name "java." = false) (hjavax : Text.startsWith name "javax." = false) :
    let edges := edgesIn package u.text before.length (before ++ packageImport name).length
    edges = edgeTo package (owningPackage name) ∧ (edges = edgeTo package name ↔ '.' ∉ name) ∧
      edges <:+: ((record u).run ∅).2.dependencies := by
  intro edges
  have hedges : edges = edgeTo package (owningPackage name) :=
    edgesIn_packageImport package htext hline hname hjava hjavax
  obtain ⟨m, hm, -, hfilter⟩ := filter_meets htext hline hname.ne_nil hname.isDottedChar
  refine ⟨hedges, ?_, edgesIn_infix u hpackage hm hfilter⟩
  rw [hedges, edgeTo_inj]
  exact hname.owningPackage_spec.2

end

/-- All classes of a package whose name has no dot.  A parser finds the package of the unit below a comment
that a pattern would have taken it from. -/
theorem packageImport_edges_util :
    let u : SourceUnit := ⟨"A.java", .java, "/*\npackage old;\n*/\npackage shop;\n\nimport util.*;\n"⟩
    let build : Grammars := .ofTrees [(.java, u.content, .named "program" u.content
      [.named "package_declaration" "package shop;"
        [.token "package", .named "identifier" "shop" [], .token ";"]])]
    let before := "/*\npackage old;\n*/\npackage shop;\n\n".toList
    let edges := edgesIn "shop".toList u.text before.length (before ++ packageImport "util".toList).length
    firstGroup? packageLine 1 u.text = some "old".toList ∧ edges = [⟨"shop", "util", "import"⟩] ∧
      edges <:+: ((@record build u).run ∅).2.dependencies := by
  intro u build before edges
  have htext : u.text = before ++ (packageImport "util".toList ++ ['\n']) := by decide +kernel
  have hpackage : (@declarations build u.text).packages.head? = some "shop".toList := by decide +kernel
  obtain ⟨-, hiff, hinfix⟩ := @packageImport_edges build u _ _ _ _ htext (.inr (by decide +kernel)) hpackage
    (by decide +kernel) (by decide +kernel) (by decide +kernel)
  have hdot : '.' ∉ "util".toList := by decide
  have hedge : edgeTo "shop".toList "util".toList = [⟨"shop", "util", "import"⟩] := by decide +kernel
  exact ⟨by decide +kernel, (hiff.mpr hdot).trans hedge, hinfix⟩

/-- For a package below another one the other one is recorded, also where the package is the unit's own;
and nothing is recorded where the other one is the unit's own. -/
theorem packageImport_edges_below :
    let name := "com.acme.util".toList
    let edges (content : String) := ((record ⟨"A.java", .java, content⟩).run ∅).2.dependencies
    IsDottedName name ∧
      edges "package com.shop;\n\nimport com.acme.util.*;\n" = [⟨"com.shop", "com.acme", "import"⟩] ∧
      edgeTo "com.shop".toList name = [⟨"com.shop", "com.acme.util", "import"⟩] ∧
      edges "package com.acme.util;\n\nimport com.acme.util.*;\n" =
        [⟨"com.acme.util", "com.acme", "import"⟩] ∧
      edgeTo name name = [] ∧
      edges "package com.acme;\n\nimport com.acme.util.*;\n" = [] ∧
      edgeTo "com.acme".toList name = [⟨"com.acme", "com.acme.util", "import"⟩] := by
  decide +kernel

end Java

end CodeSurvey
