import CodeSurvey.Path
import CodeSurvey.Proofs.Intake.EntryName

/-!
# Paths in normal form

What is put after a base adds its components to those of the base.  As long as none of
them leads upwards, the normal form of both together is that of the base with these
components after it, and to write it is to put one name after the other.
-/

namespace CodeSurvey.Path

theorem components_of_safeName {n : String} (h : SafeName n) : components n = [n] := by
  have hempty : n.toList ≠ [] := by simpa using h.ne_empty
  have hdot : n.toList ≠ ['.'] := fun heq ↦ h.ne_dot (String.toList_inj.mp heq)
  rw [components, h.pieces_eq]
  simp [hempty, hdot]

/-- An extended path has the components of both parts. -/
theorem components_extend (base relative : String) :
    components (extend base relative) = components base ++ components relative := by
  by_cases hbase : base = ""
  · subst hbase
    have hextend : extend "" relative = relative := by simp [extend]
    have hnone : components "" = [] := by decide
    rw [hextend, hnone, List.nil_append]
  · by_cases hlast : base.toList.getLast? = some '/'
    · obtain ⟨before, hbefore⟩ := List.getLast?_eq_some_iff.mp hlast
      have hextend : (extend base relative).toList = before ++ '/' :: relative.toList := by
        rw [extend, if_pos (by simp [hlast]), String.toList_append, hbefore, List.append_assoc]
        rfl
      rw [components, components, components, hextend, hbefore, Text.pieces_append_cons (by simp),
        Text.pieces_append_cons (by simp)]
      simp [Text.pieces]
    · have hslash : "/".toList = ['/'] := rfl
      have hextend : (extend base relative).toList = base.toList ++ '/' :: relative.toList := by
        rw [extend, if_neg (by simp [hbase, hlast]), String.toList_append, String.toList_append,
          List.append_assoc, hslash]
        rfl
      rw [components, components, components, hextend, Text.pieces_append_cons (by simp),
        List.filter_append, List.map_append]

theorem components_foldl_extend {names : List String} (h : ∀ n ∈ names, SafeName n) (base : String) :
    components (names.foldl extend base) = components base ++ names := by
  induction names generalizing base with
  | nil => exact (List.append_nil _).symm
  | cons n rest ih =>
    rw [List.foldl_cons, ih (fun m hm ↦ h m (List.mem_cons_of_mem _ hm)), components_extend,
      components_of_safeName (h n List.mem_cons_self), List.append_assoc, List.singleton_append]

theorem isAbsolute_extend {base : String} (h : isAbsolute base = true) (relative : String) :
    isAbsolute (extend base relative) = true := by
  have hhead : base.toList.head? = some '/' := of_decide_eq_true h
  obtain ⟨rest, hrest⟩ := List.head?_eq_some_iff.mp hhead
  rw [isAbsolute, extend]
  split <;> simp [hrest]

theorem isAbsolute_foldl_extend {base : String} (h : isAbsolute base = true) (names : List String) :
    isAbsolute (names.foldl extend base) = true := by
  induction names generalizing base with
  | nil => exact h
  | cons n rest ih => exact ih (isAbsolute_extend h n)

/-! ## Normal forms -/

/-- Where nothing leads upwards, the components are names to go down by. -/
theorem foldl_enter {cs : List String} (h : ".." ∉ cs) (names : List String) :
    cs.foldl enter names = names ++ cs := by
  induction cs generalizing names with
  | nil => exact (List.append_nil _).symm
  | cons c rest ih =>
    obtain ⟨hc, hrest⟩ := List.ne_and_not_mem_of_not_mem_cons h
    rw [List.foldl_cons, enter, if_neg (Ne.symm hc), ih hrest, List.append_assoc, List.singleton_append]

/-- What leads only downwards goes behind the names of the base. -/
theorem normalize_join {base relative : String} (hbase : isAbsolute base = true)
    (hrelative : isAbsolute relative = false) (hdots : ".." ∉ components relative) :
    normalize (join base relative) = ⟨true, (normalize base).names ++ components relative⟩ := by
  rw [join, hrelative, if_neg Bool.false_ne_true, normalize, isAbsolute_extend hbase, components_extend,
    List.foldl_append, foldl_enter hdots]
  rfl

/-- The names of a normal form are components of the path that do not lead upwards. -/
theorem mem_foldl_enter {cs names : List String} {n : String} (h : n ∈ cs.foldl enter names) :
    n ∈ names ∨ n ∈ cs ∧ n ≠ ".." := by
  induction cs generalizing names with
  | nil => exact .inl h
  | cons c rest ih =>
    rcases ih h with hmem | ⟨hmem, hdots⟩
    · rw [enter] at hmem
      split at hmem
      next => exact .inl (List.dropLast_subset _ hmem)
      next hc =>
        rcases List.mem_append.mp hmem with hmem | hmem
        · exact .inl hmem
        · obtain rfl := List.mem_singleton.mp hmem
          exact .inr ⟨List.mem_cons_self, hc⟩
    · exact .inr ⟨List.mem_cons_of_mem _ hmem, hdots⟩

/-- A name without slashes, of at least one letter. -/
def IsName (n : String) : Prop := n ≠ "" ∧ '/' ∉ n.toList

theorem isName_of_mem_components {raw n : String} (h : n ∈ components raw) : IsName n := by
  obtain ⟨hmem, hempty, -⟩ := mem_components.mp h
  exact ⟨hempty, fun hslash ↦ by simpa using Text.not_sep_of_mem_pieces hmem hslash⟩

theorem isName_of_mem_normalize {raw n : String} (h : n ∈ (normalize raw).names) : IsName n :=
  (mem_foldl_enter h).elim (fun hmem ↦ nomatch hmem) fun hmem ↦ isName_of_mem_components hmem.1

theorem getLast?_intercalate {names : List String} {last : String} (hne : last ≠ "")
    (h : names.getLast? = some last) :
    ("/".intercalate names).toList.getLast? = last.toList.getLast? := by
  obtain ⟨init, rfl⟩ := List.getLast?_eq_some_iff.mp h
  have hlast : last.toList ≠ [] := by simpa using hne
  by_cases hinit : init = []
  · subst hinit
    rfl
  · rw [String.intercalate_append_of_ne_nil hinit (by simp), String.intercalate_singleton,
      String.toList_append, List.getLast?_append, Option.or_of_isSome (List.getLast?_isSome.mpr hlast)]

/-- To put a name after a written path is to write one more name. -/
theorem extend_written {names : List String} (h : ∀ m ∈ names, IsName m) (n : String) :
    extend (written ⟨true, names⟩) n = written ⟨true, names ++ [n]⟩ := by
  rcases hnames : names.getLast? with _ | last
  · obtain rfl := List.getLast?_eq_none_iff.mp hnames
    rfl
  · obtain ⟨init, rfl⟩ := List.getLast?_eq_some_iff.mp hnames
    obtain ⟨hempty, hslash⟩ := h last (by simp)
    have hlast : last.toList ≠ [] := by simpa using hempty
    have hends : (written ⟨true, init ++ [last]⟩).toList.getLast? = last.toList.getLast? := by
      rw [written, if_pos rfl, String.toList_append, List.getLast?_append,
        getLast?_intercalate hempty List.getLast?_concat,
        Option.or_of_isSome (List.getLast?_isSome.mpr hlast)]
    have hslashed : ¬ (written ⟨true, init ++ [last]⟩ = "" ||
        (written ⟨true, init ++ [last]⟩).toList.getLast? = some '/') = true := by
      have hne : written ⟨true, init ++ [last]⟩ ≠ "" := by simp [written]
      have hends' : last.toList.getLast? ≠ some '/' := fun heq ↦ hslash (List.mem_of_getLast? heq)
      simp [hne, hends, hends']
    rw [extend, if_neg hslashed, written, written, if_pos rfl,
      String.intercalate_append_of_ne_nil (l := init ++ [last]) (by simp) (by simp),
      String.intercalate_singleton]
    simp only [String.append_assoc]

theorem foldl_extend_written {names more : List String} (h : ∀ m ∈ names, IsName m)
    (hmore : ∀ m ∈ more, IsName m) :
    more.foldl extend (written ⟨true, names⟩) = written ⟨true, names ++ more⟩ := by
  induction more generalizing names with
  | nil => rw [List.append_nil, List.foldl_nil]
  | cons n rest ih =>
    obtain ⟨hn, hrest⟩ := List.forall_mem_cons.mp hmore
    rw [List.foldl_cons, extend_written h, ih (List.forall_mem_append.mpr ⟨h, by simpa using hn⟩) hrest,
      List.append_assoc, List.singleton_append]

end CodeSurvey.Path
