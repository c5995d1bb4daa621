import CodeSurvey.Intake.OutputPath
import CodeSurvey.Proofs.Intake.Resolution

/-!
# Normal forms and where reports go

The normal form of a path is what reading its segments from left to right leaves on a stack, and it
does not matter whether this is done with names or in writing.  A path in normal form is written in one
way only, so that to normalize it again changes nothing, alone or in front of another path.

From this it follows when an output directory is accepted, and that what has been accepted once is
accepted again as it is, from any working directory.
-/

namespace CodeSurvey

namespace Path

/-! ## Reading segments with a stack -/

/-- What a segment does to the names so far, the last of which is on top. -/
def stack (names : List String) (segment : List Char) : List String :=
  if segment = [] ∨ segment = ['.'] then names
  else if segment = ['.', '.'] then names.tail
  else String.ofList segment :: names

/-- The names that are left when the segments of a path have been read from left to right. -/
def stackReading (raw : String) : List String := ((raw.toList.splitOn '/').foldl stack []).reverse

theorem ofList_eq_dots_iff {segment : List Char} : String.ofList segment = ".." ↔ segment = ['.', '.'] := by
  rw [← String.toList_inj, String.toList_ofList]
  rfl

/-- Does a segment tell anything? -/
def tells (segment : List Char) : Bool := segment ≠ [] && segment ≠ ['.']

/-- To enter components one by one is to read the segments that they come from. -/
theorem foldl_enter_eq_stack (segments : List (List Char)) (names : List String) :
    ((segments.filter tells).map String.ofList).foldl enter names.reverse =
      (segments.foldl stack names).reverse := by
  induction segments generalizing names with
  | nil => rfl
  | cons s rest ih =>
    rw [List.foldl_cons, stack]
    by_cases hsilent : s = [] ∨ s = ['.']
    · have hskip : ¬ tells s = true := by
        rcases hsilent with rfl | rfl <;> decide
      rw [if_pos hsilent, List.filter_cons_of_neg hskip, ih]
    · have hkeep : tells s = true := by simpa [tells, not_or] using hsilent
      rw [if_neg hsilent, List.filter_cons_of_pos hkeep, List.map_cons, List.foldl_cons, enter]
      by_cases hup : s = ['.', '.']
      · rw [if_pos hup, if_pos (ofList_eq_dots_iff.mpr hup), ← ih, List.dropLast_reverse]
      · rw [if_neg hup, if_neg (ofList_eq_dots_iff.not.mpr hup), ← ih, List.reverse_cons]

theorem names_normalize (raw : String) : (normalize raw).names = stackReading raw := by
  have hpieces : Text.pieces (· = '/') raw.toList = raw.toList.splitOn '/' := Text.pieces_eq_splitOnP ..
  rw [normalize, components, hpieces]
  exact foldl_enter_eq_stack _ []

/-! ## Normal forms -/

/-- A path from the root that goes down by names only. -/
structure IsNormal (p : Path) : Prop where
  absolute : p.absolute = true
  names : ∀ n ∈ p.names, n ≠ "" ∧ n ≠ "." ∧ n ≠ ".." ∧ '/' ∉ n.toList

theorem isNormal_normalize {raw : String} (h : isAbsolute raw = true) : (normalize raw).IsNormal where
  absolute := h
  names n hn := by
    obtain ⟨hmem, hdots⟩ := (mem_foldl_enter hn).resolve_left List.not_mem_nil
    obtain ⟨-, hempty, hdot⟩ := mem_components.mp hmem
    exact ⟨hempty, hdot, hdots, (isName_of_mem_components hmem).2⟩

section

variable {p : Path}

theorem IsNormal.eq (h : p.IsNormal) : p = ⟨true, p.names⟩ := by
  rw [← h.absolute]

theorem IsNormal.dots_notMem (h : p.IsNormal) : ".." ∉ p.names := fun hmem ↦ (h.names _ hmem).2.2.1 rfl

theorem IsNormal.toList_written (h : p.IsNormal) :
    p.written.toList = '/' :: ("/".intercalate p.names).toList := by
  rw [written, if_pos h.absolute, String.toList_append]
  rfl

theorem IsNormal.isAbsolute_written (h : p.IsNormal) : isAbsolute p.written = true := by
  rw [isAbsolute, h.toList_written]
  rfl

/-- A normal form can be read off what is written. -/
theorem IsNormal.components_written (h : p.IsNormal) : components p.written = p.names := by
  have hslash : components p.written = components ("/".intercalate p.names) := by
    rw [components, h.toList_written, Text.pieces_cons_of_sep (decide_eq_true rfl),
      List.filter_cons_of_neg (by simp), components]
  rw [hslash]
  rcases List.eq_nil_or_concat p.names with hnil | ⟨init, last, hconcat⟩
  · rw [hnil]
    decide
  · refine components_intercalate (by simp [hconcat]) fun n hn ↦ ?_
    obtain ⟨hempty, hdot, -, hno⟩ := h.names n hn
    exact ⟨hempty, hdot, hno⟩

theorem IsNormal.normalize_written (h : p.IsNormal) : normalize p.written = p := by
  rw [normalize, h.isAbsolute_written, h.components_written, foldl_enter h.dots_notMem, List.nil_append,
    ← h.eq]

end

/-- What is put after an absolute base is read on from its normal form. -/
theorem normalize_extend {base : String} (h : isAbsolute base = true) (relative : String) :
    normalize (extend base relative) = ⟨true, (components relative).foldl enter (normalize base).names⟩ := by
  rw [normalize, isAbsolute_extend h, components_extend, List.foldl_append]
  rfl

/-- A base may be brought into normal form before something is put after it. -/
theorem normalize_join_normalize {base : String} (h : isAbsolute base = true) (raw : String) :
    normalize (join (normalize base).written raw) = normalize (join base raw) := by
  have hnormal := isNormal_normalize h
  rw [join, join]
  split
  next => rfl
  next => rw [normalize_extend hnormal.isAbsolute_written, hnormal.normalize_written, normalize_extend h]

theorem isAbsolute_join {base : String} (h : isAbsolute base = true) (raw : String) :
    isAbsolute (join base raw) = true := by
  rw [join]
  split
  next hraw => exact hraw
  next => exact isAbsolute_extend h raw

/-! ## Normalizing in writing -/

/-- The written path of the directory above.  The root is above itself. -/
def parent (place : String) : String :=
  match Text.splitLast? '/' place.toList with
  | some ([], _) => "/"
  | some (above, _) => String.ofList above
  | none => ""

/-- What a component does to a path that has been written so far. -/
def Component.write (place : String) : Component → String
  | root => "/"
  | here => place
  | up => parent place
  | name n => join place n

/-- A path that is written anew, component by component. -/
def rewritten (raw : String) : String := (walk raw).foldl Component.write ""

theorem parent_written {names : List String} (h : ∀ n ∈ names, IsName n) :
    parent (written ⟨true, names⟩) = written ⟨true, names.dropLast⟩ := by
  rcases List.eq_nil_or_concat names with rfl | ⟨init, last, rfl⟩
  · rfl
  have hslash : "/".toList = ['/'] := rfl
  obtain ⟨-, hlast⟩ := h last (by simp)
  rw [List.concat_eq_append, List.dropLast_concat, parent]
  by_cases hinit : init = []
  · subst hinit
    have htext : (written ⟨true, [] ++ [last]⟩).toList = [] ++ '/' :: last.toList := by
      rw [List.nil_append, written, if_pos rfl, String.intercalate_singleton, String.toList_append, hslash]
      rfl
    rw [htext, Text.splitLast?_append_cons [] hlast]
    rfl
  · have htext : (written ⟨true, init ++ [last]⟩).toList =
        (written ⟨true, init⟩).toList ++ '/' :: last.toList := by
      rw [written, if_pos rfl, String.intercalate_append_of_ne_nil hinit (by simp),
        String.intercalate_singleton, written, if_pos rfl]
      simp only [String.toList_append, hslash, List.append_assoc, List.cons_append, List.nil_append]
    have habove : (written ⟨true, init⟩).toList = '/' :: ("/".intercalate init).toList := by
      rw [written, if_pos rfl, String.toList_append, hslash, List.singleton_append]
    rw [htext, Text.splitLast?_append_cons _ hlast, habove]
    dsimp only
    rw [← habove, String.ofList_toList]

/-- Components that are written one after the other are entered one after the other. -/
theorem foldl_write_written {cs names : List String} (hcs : ∀ c ∈ cs, IsName c) (hnames : ∀ n ∈ names, IsName n) :
    (cs.map Component.ofName).foldl Component.write (written ⟨true, names⟩) =
      written ⟨true, cs.foldl enter names⟩ := by
  induction cs generalizing names with
  | nil => rfl
  | cons c rest ih =>
    obtain ⟨hc, hrest⟩ := List.forall_mem_cons.mp hcs
    rw [List.map_cons, List.foldl_cons, List.foldl_cons, Component.ofName, enter]
    by_cases hup : c = ".."
    · rw [if_pos hup, if_pos hup, Component.write, parent_written hnames]
      exact ih hrest fun n hn ↦ hnames n (List.dropLast_subset _ hn)
    · have hrelative : isAbsolute c = false := decide_eq_false fun hhead ↦ hc.2 (List.mem_of_head? hhead)
      rw [if_neg hup, if_neg hup, Component.write, join, hrelative, if_neg Bool.false_ne_true,
        extend_written hnames]
      exact ih hrest (List.forall_mem_append.mpr ⟨hnames, List.forall_mem_singleton.mpr hc⟩)

theorem rewritten_eq_written {raw : String} (h : isAbsolute raw = true) :
    rewritten raw = (normalize raw).written := by
  rw [rewritten, walk_of_isAbsolute h, List.foldl_cons]
  refine (foldl_write_written (fun _ ↦ isName_of_mem_components) (List.forall_mem_nil _)).trans ?_
  rw [normalize, h]

end Path

/-! ## Output directories -/

namespace OutputPath

open CodeSurvey.Path

/-- A path as it is looked at to find out whether it leads to a system directory: in lower case, with
slashes of one kind. -/
def slashed (p : Path) : List Char := Text.lower (Text.replaceChar '\\' '/' p.written.toList)

variable {cwd raw : String} {p : Path}

theorem isSystemDirectory_eq_false_iff :
    isSystemDirectory p = false ↔ ¬ ":/windows".toList <:+ slashed p ∧ ¬ ":/windows/".toList <:+ slashed p := by
  rw [isSystemDirectory, Bool.or_eq_false_iff, Text.endsWith, Text.endsWith, ← Bool.not_eq_true,
    ← Bool.not_eq_true, List.isSuffixOf_iff_suffix, List.isSuffixOf_iff_suffix]
  rfl

/-- What has to hold for a path to be accepted, and what it is accepted as. -/
theorem accept_eq_ok_iff :
    accept cwd raw = .ok p ↔
      (∃ c ∈ raw.toList, Text.isBlank c = false) ∧ '\x00' ∉ raw.toList ∧
        p = normalize (join cwd raw) ∧ p.names ≠ [] ∧
        ¬ ":/windows".toList <:+ slashed p ∧ ¬ ":/windows/".toList <:+ slashed p := by
  have hblank : (Text.trim raw.toList).isEmpty = true ↔ ¬ ∃ c ∈ raw.toList, Text.isBlank c = false := by
    rw [EntryName.isEmpty_trim_iff, UnsafeName.Holds]
    simp
  rw [← isSystemDirectory_eq_false_iff, accept]
  by_cases h₁ : (Text.trim raw.toList).isEmpty = true
  · rw [if_pos h₁]
    exact iff_of_false (by simp) fun h ↦ hblank.mp h₁ h.1
  rw [if_neg h₁]
  by_cases h₂ : '\x00' ∈ raw.toList
  · rw [if_pos h₂]
    exact iff_of_false (by simp) fun h ↦ h.2.1 h₂
  rw [if_neg h₂]
  dsimp only
  by_cases h₃ : (normalize (join cwd raw)).names.isEmpty = true
  · rw [if_pos h₃]
    refine iff_of_false (by simp) ?_
    rintro ⟨-, -, rfl, hne, -⟩
    exact hne (List.isEmpty_iff.mp h₃)
  rw [if_neg h₃]
  cases h₄ : isSystemDirectory (normalize (join cwd raw)) with
  | true =>
    rw [if_pos rfl]
    refine iff_of_false (by simp) ?_
    rintro ⟨-, -, rfl, -, hsystem⟩
    exact Bool.false_ne_true (hsystem.symm.trans h₄)
  | false =>
    rw [if_neg Bool.false_ne_true]
    constructor
    · intro h
      obtain rfl := Except.ok.inj h
      exact ⟨not_not.mp (hblank.not.mp h₁), h₂, rfl, fun hnil ↦ h₃ (List.isEmpty_iff.mpr hnil), h₄⟩
    · rintro ⟨-, -, rfl, -, -⟩
      rfl

/-- What is asked for at a working directory brings no character that neither of them has. -/
theorem nul_notMem_of_mem_normalize (hcwd : '\x00' ∉ cwd.toList) (hraw : '\x00' ∉ raw.toList) {n : String}
    (h : n ∈ (normalize (join cwd raw)).names) : '\x00' ∉ n.toList := by
  have hin {text : String} (htext : '\x00' ∉ text.toList) (hmem : n ∈ components text) : '\x00' ∉ n.toList :=
    fun hc ↦ htext ((Text.infix_of_mem_pieces (mem_components.mp hmem).1).subset hc)
  obtain ⟨hmem, -⟩ := (mem_foldl_enter h).resolve_left List.not_mem_nil
  rw [join] at hmem
  split at hmem
  next => exact hin hraw hmem
  next =>
    rw [components_extend] at hmem
    exact (List.mem_append.mp hmem).elim (hin hcwd) (hin hraw)

theorem nul_notMem_written (hp : p.IsNormal) (h : ∀ n ∈ p.names, '\x00' ∉ n.toList) :
    '\x00' ∉ p.written.toList := by
  intro hnul
  rcases Text.sep_or_mem_pieces (· = '/') hnul with hsep | ⟨piece, hpiece, hmem⟩
  · exact absurd hsep (by decide)
  · -- A piece with such a character tells something, so that it is one of the names.
    have hname : String.ofList piece ∈ components p.written := by
      refine mem_components.mpr ⟨by rwa [String.toList_ofList], ?_, ?_⟩
      · intro heq
        rw [← String.toList_inj, String.toList_ofList] at heq
        rw [heq] at hmem
        exact nomatch hmem
      · intro heq
        rw [← String.toList_inj, String.toList_ofList] at heq
        rw [heq] at hmem
        exact absurd hmem (by decide)
    rw [hp.components_written] at hname
    exact h _ hname (by rwa [String.toList_ofList])

/-- A path that is accepted is accepted again as it is written, wherever one is then. -/
theorem accept_written (hcwd : isAbsolute cwd = true) (hnul : '\x00' ∉ cwd.toList)
    (h : accept cwd raw = .ok p) (cwd' : String) : accept cwd' p.written = .ok p := by
  obtain ⟨-, hraw, rfl, hne, hsystem⟩ := accept_eq_ok_iff.mp h
  have hnormal := isNormal_normalize (isAbsolute_join hcwd raw)
  refine accept_eq_ok_iff.mpr ⟨⟨'/', ?_, by decide⟩, ?_, ?_, hne, hsystem⟩
  · rw [hnormal.toList_written]
    exact List.mem_cons_self
  · exact nul_notMem_written hnormal fun _ ↦ nul_notMem_of_mem_normalize hnul hraw
  · have hjoin : join cwd' (normalize (join cwd raw)).written = (normalize (join cwd raw)).written :=
      if_pos hnormal.isAbsolute_written
    rw [hjoin, hnormal.normalize_written]

/-- Below an absolute base, normalizing gives a path from the root that goes down by names: those that
are left on a stack, or written out, when the segments are read one by one.  The base may be
normalized before.  An output directory is accepted exactly if it is not blank, has no NUL,
and its normal form has a name and does not end in the system directory of a drive; this normal form is
then accepted as it is. -/
theorem accept_normal_form :
    (∀ base raw, isAbsolute base = true →
      normalize (join base raw) = normalize (join (normalize base).written raw) ∧
      (normalize (join base raw)).IsNormal ∧
      (normalize (join base raw)).names = stackReading (join base raw) ∧
      (normalize (join base raw)).written = rewritten (join base raw)) ∧
    ∀ cwd raw, isAbsolute cwd = true → '\x00' ∉ cwd.toList → ∀ p,
      (accept cwd raw = .ok p ↔
        (∃ c ∈ raw.toList, Text.isBlank c = false) ∧ '\x00' ∉ raw.toList ∧
          p = normalize (join cwd raw) ∧ p.names ≠ [] ∧
          ¬ ":/windows".toList <:+ slashed p ∧ ¬ ":/windows/".toList <:+ slashed p) ∧
      (accept cwd raw = .ok p → ∀ cwd', accept cwd' p.written = .ok p) := by
  refine ⟨fun base raw hbase ↦ ?_, fun cwd raw hcwd hnul p ↦ ⟨accept_eq_ok_iff, accept_written hcwd hnul⟩⟩
  have habsolute := isAbsolute_join hbase raw
  exact ⟨(normalize_join_normalize hbase raw).symm, isNormal_normalize habsolute, names_normalize _,
    (rewritten_eq_written habsolute).symm⟩

/-- More steps upwards than there are names, and a directory below what only looks like a drive. -/
theorem accept_normal_form_upwards :
    let raw := "../../../out//./C:\\Windows/x/.."
    accept "/home/user" raw = .error .systemDirectory ∧
      accept "/home/user" (raw ++ "/reports") = .ok ⟨true, ["out", "C:\\Windows", "reports"]⟩ ∧
      accept "/" "/out/C:\\Windows/reports" = .ok ⟨true, ["out", "C:\\Windows", "reports"]⟩ ∧
      stackReading (join "/home/user" raw) = ["out", "C:\\Windows"] := by
  intro raw
  obtain ⟨hnormal, haccept⟩ := accept_normal_form
  have hok : accept "/home/user" (raw ++ "/reports") = .ok ⟨true, ["out", "C:\\Windows", "reports"]⟩ := by
    decide +kernel
  have hagain := (haccept "/home/user" (raw ++ "/reports") (by decide) (by decide) _).2 hok "/"
  have hread := (hnormal "/home/user" raw (by decide)).2.2.1
  refine ⟨by decide +kernel, hok, ?_, ?_⟩
  · exact hagain
  · rw [← hread]
    decide +kernel

end OutputPath

end CodeSurvey
