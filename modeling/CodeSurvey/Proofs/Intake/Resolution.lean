import CodeSurvey.Intake.EntryName
import CodeSurvey.Proofs.Path

/-!
# Where an entry is put

The name of an entry is accepted exactly if it has none of six faults; else the first of
them, in a fixed order, is the reason to refuse it.  An accepted entry goes down from the
root by the segments of its name, and this is where normalizing both together leads.  To
read the name component by component, with an answer ready for components that lead
upwards or to the root, comes to the same: no such component is left once the name has
none of the faults that show before.
-/

namespace CodeSurvey

/-! ## Faults of a name -/

namespace UnsafeName

/-- The faults, the one that is told first in front. -/
def all : List UnsafeName := [empty, nulByte, absolute, driveLetter, parentSegment, escapesRoot]

/-- What a fault says of a name. -/
def Holds (name : List Char) : UnsafeName → Prop
  | empty => ∀ c ∈ name, Text.isBlank c = true
  | nulByte => '\x00' ∈ name
  | absolute => name.head? = some '/' ∨ name.head? = some '\\'
  | driveLetter => ∃ letter rest, letter.isAlpha = true ∧ name = letter :: ':' :: rest
  | parentSegment => ['.', '.'] <:+: name
  | escapesRoot => ∀ segment ∈ name.splitOn '/', segment = [] ∨ segment = ['.']

/-- The faults that are told before another one. -/
def before (fault : UnsafeName) : List UnsafeName := all.takeWhile (· ≠ fault)

/-- The first fault of a name. -/
def IsFirst (name : List Char) (fault : UnsafeName) : Prop :=
  fault.Holds name ∧ ∀ earlier ∈ fault.before, ¬ earlier.Holds name

theorem eq_or_mem_before (fault other : UnsafeName) :
    fault = other ∨ fault ∈ other.before ∨ other ∈ fault.before := by
  cases fault <;> cases other <;> decide

theorem eq_or_mem_before_escapesRoot (fault : UnsafeName) :
    fault = escapesRoot ∨ fault ∈ escapesRoot.before := by
  cases fault <;> decide

theorem IsFirst.eq {name : List Char} {fault other : UnsafeName} (h : IsFirst name fault)
    (h' : IsFirst name other) : fault = other := by
  rcases eq_or_mem_before fault other with heq | hmem | hmem
  · exact heq
  · exact absurd h.1 (h'.2 fault hmem)
  · exact absurd h'.1 (h.2 other hmem)

end UnsafeName

namespace EntryName

open UnsafeName (Holds IsFirst)

/-- The segments of a name between slashes, without those that say nothing. -/
def segments (name : String) : List String :=
  ((name.toList.splitOn '/').filter fun segment ↦ segment ≠ [] ∧ segment ≠ ['.']).map String.ofList

theorem segments_eq (name : String) : segments name = Path.components name := by
  have hpieces : Text.pieces (· = '/') name.toList = name.toList.splitOn '/' := Text.pieces_eq_splitOnP ..
  rw [segments, Path.components, hpieces]
  simp

variable {name : String} {s : List Char}

theorem isEmpty_trim_iff : (Text.trim s).isEmpty = true ↔ Holds s .empty := by
  rw [List.isEmpty_iff, Text.trim, Text.trimEnd, List.reverse_eq_nil_iff, List.dropWhile_eq_nil_iff,
    Text.trimStart]
  simp only [List.mem_reverse]
  constructor
  · intro h
    -- What is left at the start would begin with a character that is not blank.
    have hnone : s.dropWhile Text.isBlank = [] := by
      by_contra hne
      have hhead := List.head_dropWhile_not Text.isBlank hne
      rw [h _ (List.head_mem hne)] at hhead
      exact nomatch hhead
    exact List.dropWhile_eq_nil_iff.mp hnone
  · intro h
    rw [List.dropWhile_eq_nil_iff.mpr h]
    exact List.forall_mem_nil _

theorem head?_iff : (s.head? = some '/' || s.head? = some '\\') = true ↔ Holds s .absolute := by
  simp [Holds]

theorem startsWithDrive_iff : startsWithDrive s = true ↔ Holds s .driveLetter := by
  constructor
  · intro h
    rw [startsWithDrive.eq_def] at h
    split at h
    next letter rest => exact ⟨letter, rest, h, rfl⟩
    next => exact nomatch h
  · rintro ⟨letter, rest, hletter, rfl⟩
    exact hletter

theorem contains_dots_iff : Text.contains s ".." = true ↔ Holds s .parentSegment := Text.hasInfix_iff

theorem segments_eq_nil_iff : segments name = [] ↔ Holds name.toList .escapesRoot := by
  rw [segments, List.map_eq_nil_iff, List.filter_eq_nil_iff]
  refine forall₂_congr fun segment _ ↦ ?_
  rw [decide_eq_true_iff]
  tauto

/-- The first of the faults that a name shows before its components are read. -/
def shownFault? (s : List Char) : Option UnsafeName :=
  if (Text.trim s).isEmpty then some .empty
  else if '\x00' ∈ s then some .nulByte
  else if s.head? = some '/' || s.head? = some '\\' then some .absolute
  else if startsWithDrive s then some .driveLetter
  else if Text.contains s ".." then some .parentSegment
  else none

/-- A fault that shows is the first one, and if none shows there is at most one that does not. -/
theorem shownFault?_cases (s : List Char) :
    (∃ e ∈ UnsafeName.escapesRoot.before, shownFault? s = some e ∧ IsFirst s e) ∨
      shownFault? s = none ∧ ∀ e ∈ UnsafeName.escapesRoot.before, ¬ Holds s e := by
  unfold shownFault?
  by_cases h₁ : (Text.trim s).isEmpty = true
  · rw [if_pos h₁]
    exact .inl ⟨.empty, by decide, rfl, isEmpty_trim_iff.mp h₁, List.forall_mem_nil _⟩
  have hbefore₁ : ∀ e ∈ UnsafeName.nulByte.before, ¬ Holds s e :=
    List.forall_mem_singleton.mpr (isEmpty_trim_iff.not.mp h₁)
  rw [if_neg h₁]
  by_cases h₂ : '\x00' ∈ s
  · rw [if_pos h₂]
    exact .inl ⟨.nulByte, by decide, rfl, h₂, hbefore₁⟩
  have hbefore₂ : ∀ e ∈ UnsafeName.absolute.before, ¬ Holds s e :=
    List.forall_mem_append.mpr ⟨hbefore₁, List.forall_mem_singleton.mpr (show ¬ Holds s .nulByte from h₂)⟩
  rw [if_neg h₂]
  by_cases h₃ : (s.head? = some '/' || s.head? = some '\\') = true
  · rw [if_pos h₃]
    exact .inl ⟨.absolute, by decide, rfl, head?_iff.mp h₃, hbefore₂⟩
  have hbefore₃ : ∀ e ∈ UnsafeName.driveLetter.before, ¬ Holds s e :=
    List.forall_mem_append.mpr ⟨hbefore₂, List.forall_mem_singleton.mpr (head?_iff.not.mp h₃)⟩
  rw [if_neg h₃]
  by_cases h₄ : startsWithDrive s = true
  · rw [if_pos h₄]
    exact .inl ⟨.driveLetter, by decide, rfl, startsWithDrive_iff.mp h₄, hbefore₃⟩
  have hbefore₄ : ∀ e ∈ UnsafeName.parentSegment.before, ¬ Holds s e :=
    List.forall_mem_append.mpr ⟨hbefore₃, List.forall_mem_singleton.mpr (startsWithDrive_iff.not.mp h₄)⟩
  rw [if_neg h₄]
  by_cases h₅ : Text.contains s ".." = true
  · rw [if_pos h₅]
    exact .inl ⟨.parentSegment, by decide, rfl, contains_dots_iff.mp h₅, hbefore₄⟩
  rw [if_neg h₅]
  exact .inr ⟨rfl, List.forall_mem_append.mpr
    ⟨hbefore₄, List.forall_mem_singleton.mpr (contains_dots_iff.not.mp h₅)⟩⟩

theorem shownFault?_eq_none_iff :
    shownFault? s = none ↔ ∀ e ∈ UnsafeName.escapesRoot.before, ¬ Holds s e := by
  rcases shownFault?_cases s with ⟨e, hmem, hshown, hfirst⟩ | ⟨hshown, hbefore⟩
  · rw [hshown]
    exact ⟨nofun, fun h ↦ absurd hfirst.1 (h e hmem)⟩
  · exact ⟨fun _ ↦ hbefore, fun _ ↦ hshown⟩

/-- A name is refused for the fault that shows, and else if it has no segments. -/
theorem components_eq (name : String) :
    components name =
      match shownFault? name.toList with
      | some e => .error e
      | none => if segments name = [] then .error .escapesRoot else .ok (segments name) := by
  rw [components, shownFault?, segments_eq]
  iterate 5 (split; · rfl)
  cases Path.components name <;> rfl

/-- A name is refused for its first fault, or it has none and goes down by its segments. -/
theorem components_cases (name : String) :
    (∃ e, components name = .error e ∧ IsFirst name.toList e) ∨
      components name = .ok (segments name) ∧ ∀ e, ¬ Holds name.toList e := by
  rw [components_eq]
  rcases shownFault?_cases name.toList with ⟨e, -, hshown, hfirst⟩ | ⟨hshown, hbefore⟩
  · rw [hshown]
    exact .inl ⟨e, rfl, hfirst⟩
  · rw [hshown]
    dsimp only
    by_cases hnone : segments name = []
    · rw [if_pos hnone]
      exact .inl ⟨.escapesRoot, rfl, segments_eq_nil_iff.mp hnone, hbefore⟩
    · rw [if_neg hnone]
      refine .inr ⟨rfl, fun e he ↦ ?_⟩
      rcases UnsafeName.eq_or_mem_before_escapesRoot e with rfl | hmem
      · exact hnone (segments_eq_nil_iff.mpr he)
      · exact hbefore e hmem he

/-! ## Names read component by component -/

end EntryName

namespace Path

/-- What a component of a path says. -/
inductive Component where
  | root
  | here
  | up
  | name (n : String)
deriving DecidableEq, Repr

/-- What a component says that is neither a slash nor a single dot. -/
def Component.ofName (n : String) : Component := if n = ".." then up else name n

/-- All components of a path, with the slash or the single dot that it begins with. -/
def walk (raw : String) : List Component :=
  (if isAbsolute raw then [.root]
    else if (raw.toList.splitOn '/').head? = some ['.'] then [.here]
    else []) ++ (components raw).map .ofName

theorem walk_of_isAbsolute {raw : String} (h : isAbsolute raw = true) :
    walk raw = .root :: (components raw).map .ofName := by
  rw [walk, if_pos h, List.singleton_append]

/-- What lies below an absolute path has its components, and then others. -/
theorem walk_foldl_extend {root : String} (h : isAbsolute root = true) {names : List String}
    (hnames : ∀ n ∈ names, SafeName n) :
    walk (names.foldl extend root) = walk root ++ names.map .ofName := by
  rw [walk_of_isAbsolute h, walk_of_isAbsolute (isAbsolute_foldl_extend h names),
    components_foldl_extend hnames, List.map_append]
  rfl

theorem isAbsolute_of_safeName {n : String} (h : SafeName n) : isAbsolute n = false :=
  decide_eq_false fun hhead ↦ h.no_slash (List.mem_of_head? hhead)

theorem foldl_join {names : List String} (h : ∀ n ∈ names, SafeName n) (base : String) :
    names.foldl join base = names.foldl extend base := by
  induction names generalizing base with
  | nil => rfl
  | cons n rest ih =>
    obtain ⟨hn, hrest⟩ := List.forall_mem_cons.mp h
    have hjoin : join base n = extend base n := by
      rw [join, isAbsolute_of_safeName hn, if_neg Bool.false_ne_true]
    rw [List.foldl_cons, List.foldl_cons, hjoin, ih hrest]

end Path

namespace EntryName

open UnsafeName (Holds IsFirst)

/-- Goes down from a place by names, and refuses to go anywhere else. -/
def follow (base : String) : List Path.Component → Except UnsafeName String
  | [] => .ok base
  | .name n :: rest => follow (Path.join base n) rest
  | .here :: rest => follow base rest
  | .up :: _ => .error .parentSegment
  | .root :: _ => .error .absolute

/-- Resolves a name by reading it component by component, and looks at where this has led. -/
def followedResolve (root name : String) : Except UnsafeName String :=
  match shownFault? name.toList with
  | some e => .error e
  | none =>
    match follow root (Path.walk name) with
    | .error e => .error e
    | .ok place =>
      if Path.walk place = Path.walk root || !(Path.walk root).isPrefixOf (Path.walk place) then
        .error .escapesRoot
      else .ok place

variable {name : String}

theorem follow_names (names : List String) (base : String) :
    follow base (names.map .name) = .ok (names.foldl Path.join base) := by
  induction names generalizing base with
  | nil => rfl
  | cons n rest ih => exact ih (Path.join base n)

/-- Without a fault that shows, the segments of a name are safe names. -/
theorem safeName_of_shownFault (h : shownFault? name.toList = none) : ∀ n ∈ segments name, SafeName n := by
  intro n hn
  have hne : segments name ≠ [] := List.ne_nil_of_mem hn
  have hok : components name = .ok (segments name) := by
    rw [components_eq, h]
    exact if_neg hne
  exact safeName_of_components hok n hn

theorem isAbsolute_of_shownFault (h : shownFault? name.toList = none) : Path.isAbsolute name = false := by
  exact decide_eq_false fun hhead ↦ shownFault?_eq_none_iff.mp h .absolute (by decide) (.inl hhead)

/-- Without a fault that shows, a name has no components but its segments and perhaps a dot in
front. -/
theorem walk_of_shownFault (h : shownFault? name.toList = none) :
    Path.walk name = (segments name).map .name ∨
      Path.walk name = .here :: (segments name).map .name := by
  have hnames : (Path.components name).map Path.Component.ofName = (segments name).map .name := by
    rw [← segments_eq]
    exact List.map_congr_left fun n hn ↦ if_neg (safeName_of_shownFault h n hn).ne_dots
  rw [Path.walk, isAbsolute_of_shownFault h, if_neg Bool.false_ne_true, hnames]
  split
  · exact .inr rfl
  · exact .inl rfl

theorem follow_walk (h : shownFault? name.toList = none) (root : String) :
    follow root (Path.walk name) = .ok ((segments name).foldl Path.extend root) := by
  rw [← Path.foldl_join (safeName_of_shownFault h), ← follow_names]
  rcases walk_of_shownFault h with hwalk | hwalk
  · rw [hwalk]
  · rw [hwalk, follow]

/-- Reading a name component by component leads to the same place. -/
theorem followedResolve_eq {root : String} (hroot : Path.isAbsolute root = true) (name : String) :
    followedResolve root name = resolve root name := by
  rw [followedResolve, resolve, components_eq]
  cases hshown : shownFault? name.toList with
  | some e => rfl
  | none =>
    dsimp only
    rw [follow_walk hshown]
    dsimp only
    have hsafe := safeName_of_shownFault hshown
    rw [Path.walk_foldl_extend hroot hsafe]
    by_cases hnone : segments name = []
    · rw [hnone]
      simp [Except.map]
    · have hne : Path.walk root ++ (segments name).map Path.Component.ofName ≠ Path.walk root := by
        simpa using hnone
      have hprefix : (Path.walk root).isPrefixOf
          (Path.walk root ++ (segments name).map Path.Component.ofName) = true := by simp
      rw [if_neg hnone]
      simp [hne, hprefix, Except.map]

/-! ## The place below the root -/

/-- A name without faults is resolved to the normal form of the root and the name together. -/
theorem foldl_extend_eq_written {root : String} (hroot : Path.isAbsolute root = true)
    (hnormal : (Path.normalize root).written = root) (h : shownFault? name.toList = none) :
    (segments name).foldl Path.extend root =
      (⟨true, (Path.normalize root).names ++ segments name⟩ : Path).written := by
  have hpath : Path.normalize root = ⟨true, (Path.normalize root).names⟩ := by
    rw [← hroot]
    rfl
  rw [hpath] at hnormal
  have hnames : ∀ n ∈ segments name, Path.IsName n := fun n hn ↦
    ⟨(safeName_of_shownFault h n hn).ne_empty, (safeName_of_shownFault h n hn).no_slash⟩
  rw [← Path.foldl_extend_written (fun _ ↦ Path.isName_of_mem_normalize) hnames, hnormal]

theorem normalize_join_eq {root : String} (hroot : Path.isAbsolute root = true)
    (h : shownFault? name.toList = none) :
    Path.normalize (Path.join root name) = ⟨true, (Path.normalize root).names ++ segments name⟩ := by
  rw [Path.normalize_join hroot (isAbsolute_of_shownFault h), segments_eq]
  rw [← segments_eq]
  exact fun hdots ↦ (safeName_of_shownFault h _ hdots).ne_dots rfl

theorem not_mem_walk (h : shownFault? name.toList = none) :
    .up ∉ Path.walk name ∧ .root ∉ Path.walk name := by
  rcases walk_of_shownFault h with hwalk | hwalk <;> simp [hwalk]

/-- Below an absolute root without double dots, a name is resolved exactly if it has no fault,
and else refused for its first one.  The place of an accepted name is below the root by the
segments of the name, of which there is at least one, and it is the normal form of both
together; also in writing, if the root is written in normal form.  To read the name component
by component leads to the same, and a name that gets as far as that has no component that
leads upwards or to the root. -/
theorem resolve_exact {root : String} (hroot : Path.isAbsolute root = true)
    (hdots : ".." ∉ Path.components root) (name : String) :
    (∀ place, resolve root name = .ok place ↔
      (∀ fault, ¬ Holds name.toList fault) ∧ place = (segments name).foldl Path.extend root) ∧
    (∀ fault, resolve root name = .error fault ↔ IsFirst name.toList fault) ∧
    (∀ place, resolve root name = .ok place →
      Path.components place = Path.components root ++ segments name ∧ segments name ≠ [] ∧
      Path.normalize (Path.join root name) = ⟨true, Path.components place⟩ ∧
      ((Path.normalize root).written = root → place = (Path.normalize (Path.join root name)).written)) ∧
    followedResolve root name = resolve root name ∧
    ((∀ fault ∈ UnsafeName.escapesRoot.before, ¬ Holds name.toList fault) →
      .up ∉ Path.walk name ∧ .root ∉ Path.walk name) := by
  have hresolve : resolve root name = (components name).map (·.foldl Path.extend root) := rfl
  refine ⟨fun place ↦ ?_, fun fault ↦ ?_, fun place hplace ↦ ?_, followedResolve_eq hroot name,
    fun hbefore ↦ not_mem_walk (shownFault?_eq_none_iff.mpr hbefore)⟩
  · rcases components_cases name with ⟨e, herror, hfirst⟩ | ⟨hok, hnone⟩
    · rw [hresolve, herror]
      exact ⟨nofun, fun h ↦ absurd hfirst.1 (h.1 e)⟩
    · rw [hresolve, hok]
      exact ⟨fun h ↦ ⟨hnone, (Except.ok.inj h).symm⟩, fun h ↦ congrArg Except.ok h.2.symm⟩
  · rcases components_cases name with ⟨e, herror, hfirst⟩ | ⟨hok, hnone⟩
    · rw [hresolve, herror]
      exact ⟨fun h ↦ Except.error.inj h ▸ hfirst, fun h ↦ congrArg Except.error (hfirst.eq h)⟩
    · rw [hresolve, hok]
      exact ⟨nofun, fun h ↦ absurd h.1 (hnone fault)⟩
  · rcases components_cases name with ⟨e, herror, -⟩ | ⟨hok, hnone⟩
    · rw [hresolve, herror] at hplace
      exact nomatch hplace
    obtain rfl : (segments name).foldl Path.extend root = place := by
      rw [hresolve, hok] at hplace
      exact Except.ok.inj hplace
    have hshown := shownFault?_eq_none_iff.mpr fun e (_ : e ∈ UnsafeName.escapesRoot.before) ↦ hnone e
    have hcomponents := Path.components_foldl_extend (safeName_of_shownFault hshown) root
    have hnames : (Path.normalize root).names = Path.components root := Path.foldl_enter hdots []
    refine ⟨hcomponents, fun hnil ↦ hnone .escapesRoot (segments_eq_nil_iff.mp hnil), ?_, fun hnormal ↦ ?_⟩
    · rw [normalize_join_eq hroot hshown, hcomponents, hnames]
    · rw [normalize_join_eq hroot hshown, foldl_extend_eq_written hroot hnormal hshown]

/-- A name with dots, double slashes and a backslash, and one whose double dots lead nowhere. -/
theorem resolve_exact_dots :
    resolve "/sandbox/ws" "./app//src/.\\/Main.java/." = .ok "/sandbox/ws/app/src/.\\/Main.java" ∧
      IsFirst "c/...".toList .parentSegment ∧
      Path.normalize (Path.join "/sandbox/ws" "./app//src/.\\/Main.java/.") =
        ⟨true, ["sandbox", "ws", "app", "src", ".\\", "Main.java"]⟩ := by
  have hroot : Path.isAbsolute "/sandbox/ws" = true := by decide
  have hdots : ".." ∉ Path.components "/sandbox/ws" := by decide +kernel
  obtain ⟨-, -, hplace, -⟩ := resolve_exact hroot hdots "./app//src/.\\/Main.java/."
  obtain ⟨-, hfault, -⟩ := resolve_exact hroot hdots "c/..."
  have hok : resolve "/sandbox/ws" "./app//src/.\\/Main.java/." =
      .ok "/sandbox/ws/app/src/.\\/Main.java" := by decide +kernel
  have herror : resolve "/sandbox/ws" "c/..." = .error .parentSegment := by decide +kernel
  refine ⟨hok, (hfault _).mp herror, (hplace _ hok).2.2.1.trans ?_⟩
  decide +kernel

end EntryName

end CodeSurvey
