import CodeSurvey.Model.Modules
import CodeSurvey.Proofs.SortedMap
import CodeSurvey.Proofs.Text.Pieces

/-!
# Modules partition the packages

A package belongs to the module of its last segment, and to no other one.  The modules are
put together in one pass over the packages, in their order: after any part of the pass,
what is kept under a name tells how many of the packages so far end in this name, and
which of them came first.  The packages come in increasing order, so the first one is the
least.
-/

namespace CodeSurvey

/-! ## Last segments -/

/-- The last segment of a package: it stands at the end or before separators that go up to the end, and
at the start or after a separator. -/
structure EndsIn (package segment : String) : Prop where
  ne_empty : segment ≠ ""
  no_separator : ∀ c ∈ segment.toList, isSegmentSeparator c = false
  split : ∃ before behind, package.toList = before ++ (segment.toList ++ behind) ∧
    (∀ c ∈ before.getLast?, isSegmentSeparator c = true) ∧ ∀ c ∈ behind, isSegmentSeparator c = true

/-- Is a package made of separators only? -/
def onlySeparators (package : String) : Bool := package.toList.all isSegmentSeparator

/-- Separators at the end do not matter. -/
theorem filter_pieces_append {behind : List Char} (h : ∀ c ∈ behind, isSegmentSeparator c = true)
    (s : List Char) : (Text.pieces isSegmentSeparator (s ++ behind)).filter (· ≠ []) =
      (Text.pieces isSegmentSeparator s).filter (· ≠ []) := by
  induction behind using List.reverseRecOn with
  | nil => rw [List.append_nil]
  | append_singleton behind c ih =>
    obtain ⟨hbehind, hc⟩ := List.forall_mem_append.mp h
    rw [← List.append_assoc, Text.pieces_append_cons (hc c (List.mem_singleton_self c)), List.filter_append,
      ih hbehind]
    exact List.append_nil _

theorem EndsIn.lastSegment?_eq {package segment : String} (h : EndsIn package segment) :
    lastSegment? package = some segment := by
  obtain ⟨before, behind, hpackage, hbefore, hbehind⟩ := h.split
  have hne : segment.toList ≠ [] := by simpa using h.ne_empty
  have hsegment : [segment.toList].filter (· ≠ []) = [segment.toList] := by simp [hne]
  rw [lastSegment?, hpackage, ← List.append_assoc, filter_pieces_append hbehind]
  cases before using List.reverseRecOn with
  | nil =>
    rw [List.nil_append, Text.pieces_of_no_sep h.no_separator, hsegment]
    exact congrArg some String.ofList_toList
  | append_singleton before sep =>
    have hsep : isSegmentSeparator sep = true := hbefore sep (by simp)
    rw [List.append_assoc, List.singleton_append, Text.pieces_append_cons hsep,
      Text.pieces_of_no_sep h.no_separator, List.filter_append, hsegment, List.getLast?_concat]
    exact congrArg some String.ofList_toList

theorem EndsIn.unique {package segment segment' : String} (h : EndsIn package segment)
    (h' : EndsIn package segment') : segment = segment' :=
  Option.some.inj (h.lastSegment?_eq.symm.trans h'.lastSegment?_eq)

/-- Whatever is not made of separators only has a last segment. -/
theorem exists_endsIn {package : String} (h : onlySeparators package = false) : ∃ segment, EndsIn package segment := by
  rcases Text.eq_append_or_no_sep (!isSegmentSeparator ·) package.toList with
    hall | ⟨start, last, behind, hpackage, hlast, hbehind⟩
  · have honly : onlySeparators package = true := List.all_eq_true.mpr (by simpa using hall)
    exact absurd (h.symm.trans honly) Bool.false_ne_true
  have hlast : isSegmentSeparator last = false := by simpa using hlast
  have hbehind : ∀ c ∈ behind, isSegmentSeparator c = true := by simpa using hbehind
  rcases Text.eq_append_or_no_sep isSegmentSeparator (start ++ [last]) with
    hnone | ⟨before, sep, segment, hstart, hsep, hsegment⟩
  · refine ⟨String.ofList (start ++ [last]), ?_, ?_, [], behind, ?_, by simp, hbehind⟩
    · simp
    · rwa [String.toList_ofList]
    · simp [hpackage]
  · -- The last character of the part is none of the separators, so it belongs to the segment.
    have hne : segment ≠ [] := by
      rintro rfl
      obtain rfl : last = sep := by
        simpa using congrArg List.getLast? hstart
      exact Bool.false_ne_true (hlast.symm.trans hsep)
    refine ⟨String.ofList segment, ?_, ?_, before ++ [sep], behind, ?_, ?_, hbehind⟩
    · simpa using hne
    · rwa [String.toList_ofList]
    · rw [hpackage, String.toList_ofList, List.append_cons, hstart]
      simp
    · simpa using hsep

theorem lastSegment?_eq_none_iff {package : String} :
    lastSegment? package = none ↔ onlySeparators package = true := by
  cases honly : onlySeparators package with
  | true =>
    have hpieces : (Text.pieces isSegmentSeparator ([] ++ package.toList)).filter (· ≠ []) = [] :=
      filter_pieces_append (List.all_eq_true.mp honly) []
    refine iff_of_true ?_ rfl
    rw [lastSegment?, ← List.nil_append package.toList, hpieces]
    rfl
  | false =>
    obtain ⟨segment, hsegment⟩ := exists_endsIn honly
    exact iff_of_false (by rw [hsegment.lastSegment?_eq]; exact nofun) Bool.false_ne_true

theorem lastSegment?_eq_some_iff {package segment : String} :
    lastSegment? package = some segment ↔ EndsIn package segment := by
  refine ⟨fun h ↦ ?_, EndsIn.lastSegment?_eq⟩
  have honly : onlySeparators package = false := by
    rw [Bool.eq_false_iff, ne_eq, ← lastSegment?_eq_none_iff, h]
    exact nofun
  obtain ⟨other, hother⟩ := exists_endsIn honly
  obtain rfl : other = segment := Option.some.inj (hother.lastSegment?_eq.symm.trans h)
  exact hother

instance (package segment : String) : Decidable (EndsIn package segment) :=
  decidable_of_iff _ lastSegment?_eq_some_iff

/-! ## The pass over the packages -/

/-- The packages that end in a segment, in their order. -/
def endingIn (segment : String) (packages : List String) : List String :=
  packages.filter (EndsIn · segment)

/-- The module that packages with a common last segment make up, if there are any. -/
def moduleOf? (segment : String) (packages : List String) : Option Module :=
  (endingIn segment packages).head?.map fun first ↦ ⟨segment, first, (endingIn segment packages).length⟩

theorem name_of_moduleOf? {segment : String} {packages : List String} {g : Module}
    (h : moduleOf? segment packages = some g) : g.name = segment := by
  obtain ⟨first, -, rfl⟩ := Option.map_eq_some_iff.mp h
  rfl

/-- One more package is counted in the module of its last segment, or it makes up one. -/
theorem moduleOf?_concat_of_endsIn {segment package : String} (h : EndsIn package segment)
    (packages : List String) :
    moduleOf? segment (packages ++ [package]) =
      some (match moduleOf? segment packages with
        | none => ⟨segment, package, 1⟩
        | some m => { m with packageCount := m.packageCount + 1 }) := by
  have hending : endingIn segment (packages ++ [package]) = endingIn segment packages ++ [package] := by
    simp [endingIn, h]
  rw [moduleOf?, moduleOf?, hending]
  cases endingIn segment packages with
  | nil => rfl
  | cons first rest => simp

theorem moduleOf?_concat_of_not_endsIn {segment package : String} (h : ¬EndsIn package segment)
    (packages : List String) : moduleOf? segment (packages ++ [package]) = moduleOf? segment packages := by
  have hending : endingIn segment (packages ++ [package]) = endingIn segment packages := by
    simp [endingIn, h]
  rw [moduleOf?, moduleOf?, hending]

/-- After any part of the pass, every name has the module of the packages so far. -/
theorem Model.get?_foldl_addToModule (packages : List String) (segment : String) :
    (packages.foldl addToModule ∅).get? segment = moduleOf? segment packages := by
  induction packages using List.reverseRecOn with
  | nil => rfl
  | append_singleton packages package ih =>
    rw [List.foldl_append, List.foldl_cons, List.foldl_nil, addToModule]
    cases hlast : lastSegment? package with
    | none =>
      have hends : ¬EndsIn package segment := fun h ↦ nomatch hlast.symm.trans h.lastSegment?_eq
      rw [moduleOf?_concat_of_not_endsIn hends]
      exact ih
    | some name =>
      have hname : EndsIn package name := lastSegment?_eq_some_iff.mp hlast
      dsimp only
      rw [SortedMap.get?_alter]
      split
      next heq =>
        rewrite [heq, moduleOf?_concat_of_endsIn hname, ← heq, ih]
        rfl
      next hne =>
        have hends : ¬EndsIn package segment := fun h ↦
          hne (Option.some.inj (h.lastSegment?_eq.symm.trans hlast))
        rw [moduleOf?_concat_of_not_endsIn hends, ih]

/-- After any part of the pass, what the modules count are the packages so far that have a last segment. -/
theorem Model.sum_foldl_addToModule (packages : List String) :
    ((packages.foldl addToModule ∅).values.map Module.packageCount).sum +
      packages.countP onlySeparators = packages.length := by
  induction packages using List.reverseRecOn with
  | nil => rfl
  | append_singleton packages package ih =>
    rw [List.foldl_append, List.foldl_cons, List.foldl_nil, addToModule, List.countP_append,
      List.length_append, List.length_singleton, List.countP_singleton]
    cases hlast : lastSegment? package with
    | none =>
      rw [if_pos (lastSegment?_eq_none_iff.mp hlast), ← Nat.add_assoc, ih]
    | some name =>
      have honly : ¬onlySeparators package = true := by
        rw [← lastSegment?_eq_none_iff, hlast]
        exact nofun
      dsimp only
      rw [if_neg honly, SortedMap.sum_weights_alter Module.packageCount (n := 1) rfl fun _ ↦ rfl]
      omega

namespace Model

variable {m : Model} {g : Module} {package : String}

theorem mem_entries_modules_iff {name : String} :
    (name, g) ∈ (m.packages.keys.foldl addToModule ∅).entries ↔ moduleOf? name m.packages.keys = some g := by
  rw [SortedMap.mem_entries, get?_foldl_addToModule]

/-- The modules are those of all the packages. -/
theorem mem_modules_iff : g ∈ m.modules ↔ moduleOf? g.name m.packages.keys = some g := by
  rw [modules, SortedMap.values, List.mem_map, ← mem_entries_modules_iff]
  constructor
  · rintro ⟨⟨name, _⟩, hentry, rfl⟩
    rwa [name_of_moduleOf? (mem_entries_modules_iff.mp hentry)]
  · intro h
    exact ⟨(g.name, g), h, rfl⟩

/-- A module is there if a package ends in its name. -/
theorem exists_mem_modules (hmem : package ∈ m.packages.keys) {segment : String}
    (hends : EndsIn package segment) : ∃ g ∈ m.modules, g.name = segment := by
  have hending : package ∈ endingIn segment m.packages.keys :=
    List.mem_filter.mpr ⟨hmem, decide_eq_true hends⟩
  obtain ⟨first, rest, heq⟩ := List.exists_cons_of_ne_nil (List.ne_nil_of_mem hending)
  refine ⟨⟨segment, first, (endingIn segment m.packages.keys).length⟩, mem_modules_iff.mpr ?_, rfl⟩
  rw [moduleOf?, heq]
  rfl

/-- A module tells how many packages end in its name, and which of them is the least. -/
theorem spec_of_mem_modules (h : g ∈ m.modules) :
    g.packageCount = m.packages.keys.countP (EndsIn · g.name) ∧
      g.firstPackage ∈ m.packages.keys ∧ EndsIn g.firstPackage g.name ∧
      ∀ package ∈ m.packages.keys, EndsIn package g.name → package = g.firstPackage ∨ g.firstPackage < package := by
  obtain ⟨first, hfirst, heq⟩ := Option.map_eq_some_iff.mp (mem_modules_iff.mp h)
  obtain ⟨rest, hrest⟩ := List.head?_eq_some_iff.mp hfirst
  have hspec {package : String} : package ∈ endingIn g.name m.packages.keys ↔
      package ∈ m.packages.keys ∧ EndsIn package g.name := by
    rw [endingIn, List.mem_filter, decide_eq_true_iff]
  have hsorted : (endingIn g.name m.packages.keys).Pairwise (· < ·) :=
    (List.pairwise_map.mpr m.packages.sorted).filter _
  have hname : g.firstPackage = first := by rw [← heq]
  have hcount : g.packageCount = (endingIn g.name m.packages.keys).length := by rw [← heq]
  rw [hrest] at hspec hsorted
  rw [hname, hcount, endingIn, ← List.countP_eq_length_filter]
  obtain ⟨hmem, hends⟩ := hspec.mp List.mem_cons_self
  refine ⟨rfl, hmem, hends, fun package hpackage hpackageEnds ↦ ?_⟩
  rcases List.mem_cons.mp (hspec.mpr ⟨hpackage, hpackageEnds⟩) with heq | hrest
  · exact .inl heq
  · exact .inr (List.rel_of_pairwise_cons hsorted hrest)

theorem name_of_mem_modules (h : g ∈ m.modules) :
    g.name ≠ "" ∧ ∀ c ∈ ['.', '/', '\\', ':'], c ∉ g.name.toList := by
  obtain ⟨-, -, hends, -⟩ := spec_of_mem_modules h
  refine ⟨hends.ne_empty, fun c hc hmem ↦ ?_⟩
  have hsep : ['.', '/', '\\', ':'].all isSegmentSeparator = true := by decide
  exact Bool.false_ne_true ((hends.no_separator c hmem).symm.trans (List.all_eq_true.mp hsep c hc))

/-- Modules are listed in the order of their names. -/
theorem pairwise_modules (m : Model) : m.modules.Pairwise (·.name < ·.name) := by
  refine List.pairwise_map.mpr ((SortedMap.sorted _).imp_of_mem fun {a b} ha hb hlt ↦ ?_)
  rwa [name_of_moduleOf? (mem_entries_modules_iff.mp ha), name_of_moduleOf? (mem_entries_modules_iff.mp hb)]

/-- The modules of a model partition its packages.  They are listed by increasing names, which are
not empty and have no separator.  A package that has more than separators belongs to one module, that of
its last segment.  Each module counts its packages and knows the least of them, and only packages of
separators are not counted.  All this depends on the packages alone. -/
theorem modules_partition (m : Model) :
    m.modules.Pairwise (·.name < ·.name) ∧
    (∀ g ∈ m.modules, g.name ≠ "" ∧ ∀ c ∈ ['.', '/', '\\', ':'], c ∉ g.name.toList) ∧
    (∀ package ∈ m.packages.keys, onlySeparators package = false →
      ∃! g, g ∈ m.modules ∧ EndsIn package g.name) ∧
    (∀ g ∈ m.modules, g.packageCount = m.packages.keys.countP (EndsIn · g.name) ∧
      g.firstPackage ∈ m.packages.keys ∧ EndsIn g.firstPackage g.name ∧
      ∀ package ∈ m.packages.keys, EndsIn package g.name →
        package = g.firstPackage ∨ g.firstPackage < package) ∧
    (m.modules.map Module.packageCount).sum + m.packages.keys.countP onlySeparators = m.packages.size ∧
    ∀ n : Model, n.packages = m.packages → n.modules = m.modules := by
  refine ⟨pairwise_modules m, fun g ↦ name_of_mem_modules, ?_, fun g ↦ spec_of_mem_modules, ?_, ?_⟩
  · intro package hpackage honly
    obtain ⟨segment, hsegment⟩ := exists_endsIn honly
    obtain ⟨g, hg, rfl⟩ := exists_mem_modules hpackage hsegment
    refine ⟨g, ⟨hg, hsegment⟩, fun other ⟨hother, hends⟩ ↦ ?_⟩
    have hname : other.name = g.name := hends.unique hsegment
    have hmodule := mem_modules_iff.mp hother
    rw [hname, mem_modules_iff.mp hg] at hmodule
    exact (Option.some.inj hmodule).symm
  · rw [modules, sum_foldl_addToModule, SortedMap.keys, List.length_map]
    rfl
  · intro n hpackages
    rw [modules, modules, hpackages]

example : (ofFacts [.package "org.other.service", .package "com.example.service", .package "serde::de",
    .package "::"]).modules = [⟨"de", "serde::de", 1⟩, ⟨"service", "com.example.service", 2⟩] := by
  decide +kernel

end Model

end CodeSurvey
