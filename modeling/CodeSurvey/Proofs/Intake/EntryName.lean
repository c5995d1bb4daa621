import CodeSurvey.Intake.EntryName
import CodeSurvey.Proofs.Text.Pieces

/-!
# Names that lead downwards

The names that an accepted entry goes down by are names in the sense of a file
system: none of them is empty, stands for the directory itself or the one above,
or holds a slash or a NUL.
-/

namespace CodeSurvey

/-- A name that leads from a directory to something in it. -/
structure SafeName (name : String) : Prop where
  ne_empty : name ≠ ""
  ne_dot : name ≠ "."
  ne_dots : name ≠ ".."
  no_slash : '/' ∉ name.toList
  no_nul : '\x00' ∉ name.toList

instance (name : String) : Decidable (SafeName name) :=
  decidable_of_iff (name ≠ "" ∧ name ≠ "." ∧ name ≠ ".." ∧ '/' ∉ name.toList ∧ '\x00' ∉ name.toList)
    ⟨fun ⟨hempty, hdot, hdots, hslash, hnul⟩ ↦ ⟨hempty, hdot, hdots, hslash, hnul⟩,
      fun h ↦ ⟨h.ne_empty, h.ne_dot, h.ne_dots, h.no_slash, h.no_nul⟩⟩

/-- A name that leads down is one piece. -/
theorem SafeName.pieces_eq {name : String} (h : SafeName name) :
    Text.pieces (· = '/') name.toList = [name.toList] :=
  Text.pieces_of_no_sep (Text.no_sep_of_notMem h.no_slash)

namespace Path

theorem mem_components {raw name : String} :
    name ∈ components raw ↔
      name.toList ∈ Text.pieces (· = '/') raw.toList ∧ name ≠ "" ∧ name ≠ "." := by
  rw [components, List.mem_map]
  constructor
  · rintro ⟨p, hp, rfl⟩
    obtain ⟨hmem, hne⟩ := List.mem_filter.mp hp
    have hkept : p ≠ [] ∧ p ≠ ['.'] := by simpa using hne
    refine ⟨by rw [String.toList_ofList]; exact hmem, ?_, ?_⟩
    · intro h
      exact hkept.1 (by rw [← String.toList_ofList (l := p), h]; rfl)
    · intro h
      exact hkept.2 (by rw [← String.toList_ofList (l := p), h]; rfl)
  · rintro ⟨hmem, hempty, hdot⟩
    refine ⟨name.toList, List.mem_filter.mpr ⟨hmem, ?_⟩, String.ofList_toList⟩
    have hkept : name.toList ≠ ['.'] := fun h ↦ hdot (String.toList_inj.mp h)
    simpa using ⟨hempty, hkept⟩

/-- The components of names with slashes between them are these names. -/
theorem components_intercalate {names : List String} (hne : names ≠ [])
    (h : ∀ n ∈ names, n ≠ "" ∧ n ≠ "." ∧ '/' ∉ n.toList) :
    components ("/".intercalate names) = names := by
  have hpieces : Text.pieces (· = '/') ("/".intercalate names).toList = names.map String.toList := by
    have hslash : "/".toList = ['/'] := rfl
    rw [String.toList_intercalate, hslash]
    refine Text.pieces_intercalate (by simp) (by simpa using hne) ?_
    rintro p hp
    obtain ⟨n, hn, rfl⟩ := List.mem_map.mp hp
    exact Text.no_sep_of_notMem (h n hn).2.2
  have hkept : (names.map String.toList).filter (fun p ↦ p ≠ [] && p ≠ ['.']) =
      names.map String.toList := by
    refine List.filter_eq_self.mpr ?_
    rintro p hp
    obtain ⟨n, hn, rfl⟩ := List.mem_map.mp hp
    have hdot : n.toList ≠ ['.'] := fun heq ↦ (h n hn).2.1 (String.toList_inj.mp heq)
    simpa using ⟨(h n hn).1, hdot⟩
  rw [components, hpieces, hkept, List.map_map]
  exact List.map_id'' (fun n ↦ String.ofList_toList) names

end Path

namespace EntryName

/-- What has to hold of an entry's name for it to be accepted. -/
theorem components_eq_ok_iff {name : String} {names : List String} :
    components name = .ok names ↔
      (Text.trim name.toList).isEmpty = false ∧ '\x00' ∉ name.toList ∧
        name.toList.head? ≠ some '/' ∧ name.toList.head? ≠ some '\\' ∧
        startsWithDrive name.toList = false ∧ Text.contains name.toList ".." = false ∧
        Path.components name ≠ [] ∧ names = Path.components name := by
  unfold components
  dsimp only
  by_cases h₁ : (Text.trim name.toList).isEmpty = true
  · simp [h₁]
  by_cases h₂ : '\x00' ∈ name.toList
  · simp [h₁, h₂]
  by_cases h₃ : name.toList.head? = some '/' ∨ name.toList.head? = some '\\'
  · rcases h₃ with h₃ | h₃ <;> simp [h₁, h₂, h₃]
  rw [not_or] at h₃
  by_cases h₄ : startsWithDrive name.toList = true
  · simp [h₁, h₂, h₃, h₄]
  by_cases h₅ : Text.contains name.toList ".." = true
  · simp [h₁, h₂, h₃, h₄, h₅]
  cases h : Path.components name with
  | nil => simp [h₁, h₂, h₃, h₄, h₅]
  | cons n ns => simp [h₁, h₂, h₃, h₄, h₅, eq_comm]

theorem ne_nil_of_components {name : String} {names : List String}
    (h : components name = .ok names) : names ≠ [] := by
  obtain ⟨-, -, -, -, -, -, hne, rfl⟩ := components_eq_ok_iff.mp h
  exact hne

/-- An accepted entry goes down by safe names only. -/
theorem safeName_of_components {name : String} {names : List String}
    (h : components name = .ok names) : ∀ n ∈ names, SafeName n := by
  obtain ⟨-, hnul, -, -, -, hdots, -, rfl⟩ := components_eq_ok_iff.mp h
  intro n hn
  obtain ⟨hmem, hempty, hdot⟩ := Path.mem_components.mp hn
  have hin : n.toList <:+: name.toList := Text.infix_of_mem_pieces hmem
  refine ⟨hempty, hdot, ?_, ?_, fun hc ↦ hnul (hin.subset hc)⟩
  · rintro rfl
    rw [Text.contains, Text.hasInfix_iff.mpr hin] at hdots
    exact nomatch hdots
  · intro hc
    simpa using Text.not_sep_of_mem_pieces hmem hc

end EntryName

end CodeSurvey
