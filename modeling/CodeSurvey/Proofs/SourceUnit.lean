import CodeSurvey.Proofs.Analyzer.Manifests
import CodeSurvey.Proofs.Path

/-!
# The names of a unit

A unit is known by parts of its path: the directory up to the last slash, the file name behind it,
and the file name without its extension.  Put together again they give the path, whatever
characters it has.  Where the path is made of names to go down by, the parts agree with the reading of
the path by its components.
-/

namespace CodeSurvey

/-! ## Directory and file name -/

namespace SourceUnit

variable {u : SourceUnit}

/-- A path is cut at its last slash. -/
theorem names_of_slash {before after : List Char} (hpath : u.path.toList = before ++ '/' :: after)
    (h : '/' ∉ after) : u.directory.toList = before ∧ u.fileName.toList = after := by
  constructor
  · rw [directory, hpath, Text.splitLast?_append_cons before h]
    exact String.toList_ofList
  · rw [fileName, String.toList_ofList, hpath,
      Text.lastPiece_append_cons (decide_eq_true rfl) before (Text.no_sep_of_notMem h)]

theorem names_of_no_slash (h : '/' ∉ u.path.toList) : u.directory = "" ∧ u.fileName = u.path := by
  constructor
  · rw [directory, Text.splitLast?_eq_none_iff.mpr h]
  · rw [fileName, Text.lastPiece_of_no_sep (Text.no_sep_of_notMem h), String.ofList_toList]

/-- The directory, the slash behind it and the file name make up the path. -/
theorem path_eq (h : '/' ∈ u.path.toList) : u.path = u.directory ++ "/" ++ u.fileName := by
  rcases Text.eq_append_or_notMem '/' u.path.toList with hnone | ⟨before, after, hpath, hafter⟩
  · exact absurd h hnone
  · obtain ⟨hdirectory, hname⟩ := names_of_slash hpath hafter
    have hslash : "/".toList = ['/'] := rfl
    rw [← String.toList_inj, String.toList_append, String.toList_append, hdirectory, hname, hpath, hslash,
      List.append_assoc, List.singleton_append]

theorem slash_notMem_fileName (u : SourceUnit) : '/' ∉ u.fileName.toList := by
  rcases Text.eq_append_or_notMem '/' u.path.toList with hnone | ⟨before, after, hpath, hafter⟩
  · rwa [(names_of_no_slash hnone).2]
  · rwa [(names_of_slash hpath hafter).2]

/-! ## The unit name -/

/-- A file name is that of its unit if it has no dot behind its first character.  Otherwise an extension
without dots is taken off, and something is left. -/
theorem unitName_cases (u : SourceUnit) :
    (u.unitName = u.fileName ∧ '.' ∉ u.fileName.toList.tail) ∨
      (u.unitName ≠ "" ∧ ∃ ext : String, '.' ∉ ext.toList ∧ u.fileName = u.unitName ++ "." ++ ext) := by
  rw [unitName]
  cases hsplit : Text.splitLast? '.' u.fileName.toList with
  | none =>
    have hnone := Text.splitLast?_eq_none_iff.mp hsplit
    exact .inl ⟨rfl, fun hmem ↦ hnone (List.mem_of_mem_tail hmem)⟩
  | some split =>
    obtain ⟨stem, ext⟩ := split
    obtain ⟨hname, hext⟩ := Text.splitLast?_eq_some_iff.mp hsplit
    cases stem with
    | nil => exact .inl ⟨rfl, by rwa [hname]⟩
    | cons c cs =>
      have hdot : ".".toList = ['.'] := rfl
      refine .inr ⟨by simp, String.ofList ext, by rwa [String.toList_ofList], ?_⟩
      rw [← String.toList_inj, String.toList_append, String.toList_append, hdot, String.toList_ofList,
        String.toList_ofList, hname, List.append_assoc, List.singleton_append]

theorem fileName_eq_empty (h : u.unitName = "") : u.fileName = "" := by
  rcases u.unitName_cases with ⟨heq, -⟩ | ⟨hne, -⟩
  · exact heq.symm.trans h
  · exact absurd h hne

end SourceUnit

/-! ## Paths made of components -/

namespace Path

/-- A component that says where to go down. -/
def IsComponent (n : String) : Prop := n ≠ "" ∧ n ≠ "." ∧ n ≠ ".." ∧ '/' ∉ n.toList

instance : DecidablePred IsComponent := fun n ↦
  inferInstanceAs (Decidable (n ≠ "" ∧ n ≠ "." ∧ n ≠ ".." ∧ '/' ∉ n.toList))

theorem toList_intercalate_concat {above : List String} (h : above ≠ []) (last : String) :
    ("/".intercalate (above ++ [last])).toList = ("/".intercalate above).toList ++ '/' :: last.toList := by
  have hslash : "/".toList = ['/'] := rfl
  rw [String.intercalate_append_of_ne_nil h (List.cons_ne_nil last []), String.intercalate_singleton,
    String.toList_append, String.toList_append, hslash, List.append_assoc, List.singleton_append]

/-- What is behind the last slash is the last name. -/
theorem lastPiece_intercalate {last : String} (hlast : '/' ∉ last.toList) (above : List String) :
    Text.lastPiece (· = '/') ("/".intercalate (above ++ [last])).toList = last.toList := by
  have hnone := Text.no_sep_of_notMem hlast
  by_cases habove : above = []
  · rw [habove, List.nil_append, String.intercalate_singleton, Text.lastPiece_of_no_sep hnone]
  · rw [toList_intercalate_concat habove, Text.lastPiece_append_cons (decide_eq_true rfl) _ hnone]

end Path

section Components

variable {u : SourceUnit} {above : List String} {last : String}

theorem SourceUnit.directory_of_components (hlast : '/' ∉ last.toList)
    (hpath : u.path = "/".intercalate (above ++ [last])) : u.directory = "/".intercalate above := by
  by_cases habove : above = []
  · rw [habove, List.nil_append, String.intercalate_singleton] at hpath
    rw [(SourceUnit.names_of_no_slash (hpath ▸ hlast)).1, habove]
    rfl
  · rw [← String.toList_inj]
    refine (SourceUnit.names_of_slash ?_ hlast).1
    rw [hpath, Path.toList_intercalate_concat habove]

/-- The innermost directory is that of the last name above. -/
theorem parentModule_intercalate (h : ∀ n ∈ above, n ≠ "" ∧ '/' ∉ n.toList) :
    parentModule ("/".intercalate above) = above.getLast?.getD "root" := by
  induction above using List.reverseRecOn with
  | nil => rfl
  | append_singleton above parent =>
    obtain ⟨hne, hslash⟩ := h parent (by simp)
    rw [parentModule, Path.lastPiece_intercalate hslash, List.getLast?_concat, Option.getD_some]
    split
    next hnil => exact absurd (String.toList_eq_nil_iff.mp hnil) hne
    next => exact String.ofList_toList

end Components

/-- The names of a unit decompose its path.  A path is its directory, a slash and its file name, or a
file name only; there is no slash in the file name, which is the unit name, or the unit name with
an extension.  If the path is made of components, the file name tells the language that the path
tells, and the innermost directory is the last component but one. -/
theorem SourceUnit.names_decompose (u : SourceUnit) :
    (if '/' ∈ u.path.toList then u.path = u.directory ++ "/" ++ u.fileName
      else u.directory = "" ∧ u.fileName = u.path) ∧
    '/' ∉ u.fileName.toList ∧
    ((u.unitName = u.fileName ∧ '.' ∉ u.fileName.toList.tail) ∨
      (u.unitName ≠ "" ∧ ∃ ext : String, '.' ∉ ext.toList ∧ u.fileName = u.unitName ++ "." ++ ext)) ∧
    (u.unitName = "" → u.fileName = "") ∧
    ∀ (above : List String) (last : String), (∀ n ∈ above ++ [last], Path.IsComponent n) →
      u.path = "/".intercalate (above ++ [last]) →
        u.fileName = last ∧ Language.ofPath u.path = Language.ofFileName u.fileName ∧
          parentModule u.directory = above.getLast?.getD "root" := by
  refine ⟨?_, u.slash_notMem_fileName, u.unitName_cases, fileName_eq_empty, ?_⟩
  · split
    next hslash => exact path_eq hslash
    next hslash => exact names_of_no_slash hslash
  · intro above last hnames hpath
    obtain ⟨hempty, hdot, hdots, hslash⟩ := hnames last (by simp)
    have hpiece := Path.lastPiece_intercalate hslash above
    rw [← hpath] at hpiece
    have hname : u.fileName = last := by rw [fileName, hpiece, String.ofList_toList]
    refine ⟨hname, ?_, ?_⟩
    · rw [Language.ofPath, Path.fileName?_eq_of_lastPiece hpiece hempty hdot hdots, hname]
    · rw [directory_of_components hslash hpath]
      refine parentModule_intercalate fun n hn ↦ ?_
      obtain ⟨hne, -, -, hslash⟩ := hnames n (List.mem_append_left _ hn)
      exact ⟨hne, hslash⟩

/-- A hidden file with two more dots, two directories below the root. -/
theorem SourceUnit.names_decompose_hidden :
    let u : SourceUnit := ⟨"shop/web/.app.test.ts", .typescript, ""⟩
    u.path = u.directory ++ "/" ++ u.fileName ∧ u.unitName = ".app.test" ∧ u.fileName = ".app.test.ts" ∧
      Language.ofPath u.path = Language.ofFileName u.fileName ∧ parentModule u.directory = "web" := by
  intro u
  obtain ⟨hpath, -, -, -, hcomponents⟩ := names_decompose u
  have hnames : ∀ n ∈ ["shop", "web"] ++ [".app.test.ts"], Path.IsComponent n := by decide
  obtain ⟨hname, hlanguage, hparent⟩ := hcomponents ["shop", "web"] ".app.test.ts" hnames rfl
  rw [if_pos (by decide)] at hpath
  exact ⟨hpath, by decide +kernel, hname, hlanguage, hparent⟩

end CodeSurvey
