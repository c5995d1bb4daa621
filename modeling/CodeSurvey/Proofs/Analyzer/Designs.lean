import CodeSurvey.Proofs.Analyzer.Plain
import Mathlib.Data.List.Nodup

/-!
# What design patterns a reading shows

An analyzer tells design patterns in two ways: by the rules of a catalogue, and by signs of
its own.  Neither way shows a pattern twice.  Where both know a pattern under one name, the
second one stands back if the first one has spoken.  There are two exceptions: strategies in
Java, and components in JavaScript and TypeScript.
-/

namespace CodeSurvey

/-! ## The names of design patterns -/

/-- The names of the design patterns that facts show, from first to last. -/
def designNames (facts : List Fact) : List String := (facts.filterMap Fact.pattern?).map Prod.fst

section DesignNames

variable {facts rest : List Fact} {f : Fact} {name : String}

@[simp] theorem designNames_append (facts rest : List Fact) :
    designNames (facts ++ rest) = designNames facts ++ designNames rest := by
  rw [designNames, List.filterMap_append, List.map_append, designNames, designNames]

@[simp] theorem designNames_of_plain (h : Plain facts) : designNames facts = [] := by
  have hnone : facts.filterMap Fact.pattern? = [] :=
    List.filterMap_eq_nil_iff.mpr fun f hf ↦ Fact.pattern?_of_isPlain (h f hf)
  rw [designNames, hnone, List.map_nil]

@[simp] theorem designNames_cons_of_plain (h : Plain [f]) (rest : List Fact) :
    designNames (f :: rest) = designNames rest := by
  rw [← List.singleton_append, designNames_append, designNames_of_plain h, List.nil_append]

@[simp] theorem mem_designNames_onlyIf {condition : Bool} {design unit : String} :
    name ∈ designNames (Fact.onlyIf condition (.pattern design unit)) ↔
      condition = true ∧ name = design := by
  cases condition <;> simp [designNames, Fact.onlyIf, Fact.pattern?]

theorem sublist_onlyIf {condition : Bool} {design unit : String} :
    (designNames (Fact.onlyIf condition (.pattern design unit))).Sublist [design] := by
  cases condition <;> simp [designNames, Fact.onlyIf, Fact.pattern?]

/-- Does a file name, in any case, or a text show a design pattern by a rule? -/
def DesignRule.fires (r : DesignRule) (fileName : String) (text : List Char) : Bool :=
  Text.containsAny (Text.lower fileName.toList) r.nameHints || Text.containsAny text r.markers

theorem designNames_designsIn (fileName unitName : String) (text : List Char) (rules : List DesignRule) :
    designNames (designsIn fileName unitName text rules) =
      (rules.filter (·.fires fileName text)).map DesignRule.name := by
  rw [designNames, designsIn, List.filterMap_map, List.map_filterMap]
  exact congrFun List.filterMap_eq_map _

@[simp] theorem mem_designNames_designsIn {fileName unitName : String} {text : List Char}
    {rules : List DesignRule} :
    name ∈ designNames (designsIn fileName unitName text rules) ↔
      ∃ r ∈ rules, r.fires fileName text = true ∧ r.name = name := by
  simp only [designNames_designsIn, List.mem_map, List.mem_filter, and_assoc]

theorem sublist_designsIn (fileName unitName : String) (text : List Char) (rules : List DesignRule) :
    (designNames (designsIn fileName unitName text rules)).Sublist (rules.map DesignRule.name) := by
  rw [designNames_designsIn]
  exact List.filter_sublist.map _

end DesignNames

/-! ## Two ways to show a pattern -/

/-- Design patterns are named once each; or, if that is said, some of them are named twice. -/
structure NamedOnce (names : List String) (twice : Bool) : Prop where
  nodup_iff : names.Nodup ↔ twice = false
  count_le_two : ∀ name, names.count name ≤ 2

namespace NamedOnce

variable {names : List String} {twice : Bool}

theorem of_nodup (h : names.Nodup) : NamedOnce names false where
  nodup_iff := iff_of_true h rfl
  count_le_two name := Nat.le_succ_of_le (List.nodup_iff_count_le_one.mp h name)

/-- The rules of a catalogue and some signs show design patterns, each way those it knows and
none of them twice. Only names that both know can be there twice. -/
theorem of_catalogue (u : SourceUnit) (rules : List DesignRule) (specials : List Fact)
    {known shared : List String}
    (hnames : names =
      designNames (designsIn u.fileName u.unitName u.text rules) ++ designNames specials)
    (hspecials : (designNames specials).Sublist known) (hrules : (rules.map DesignRule.name).Nodup)
    (hknown : known.Nodup) (hshared : (rules.map DesignRule.name).filter (· ∈ known) = shared)
    (h : (∃ name ∈ shared, name ∈ designNames (designsIn u.fileName u.unitName u.text rules) ∧
      name ∈ designNames specials) ↔ twice = true) :
    NamedOnce names twice := by
  have hdesigns := sublist_designsIn u.fileName u.unitName u.text rules
  subst hnames
  constructor
  case nodup_iff =>
    rw [List.nodup_append, ← Bool.not_eq_true, ← h]
    constructor
    · rintro ⟨-, -, hne⟩ ⟨name, -, hmem, hmem'⟩
      exact hne name hmem name hmem' rfl
    · intro hnone
      refine ⟨hrules.sublist hdesigns, hknown.sublist hspecials, ?_⟩
      rintro name hmem _ hmem' rfl
      refine hnone ⟨name, ?_, hmem, hmem'⟩
      rw [← hshared, List.mem_filter]
      exact ⟨hdesigns.subset hmem, decide_eq_true (hspecials.subset hmem')⟩
  case count_le_two =>
    intro name
    rw [List.count_append]
    exact Nat.add_le_add (List.nodup_iff_count_le_one.mp (hrules.sublist hdesigns) name)
      (List.nodup_iff_count_le_one.mp (hknown.sublist hspecials) name)

/-- Signs with a name each show no design pattern twice. -/
theorem of_signs (signs : List (String × Bool)) (unit : String)
    (hnames : names = designNames ((signs.filter (·.2)).map fun (name, _) ↦ .pattern name unit))
    (hsigns : (signs.map Prod.fst).Nodup) : NamedOnce names false := by
  have hshown : names = (signs.filter (·.2)).map Prod.fst := by
    rw [hnames, designNames, List.filterMap_map, List.map_filterMap]
    exact congrFun List.filterMap_eq_map _
  rw [hshown]
  exact .of_nodup (hsigns.sublist (List.filter_sublist.map _))

end NamedOnce

/-! ## The analyzers -/

namespace C

/-- The usual spelling of a callback is left to the catalogue. -/
theorem namedOnce [Grammars] (u : SourceUnit) : NamedOnce (designNames (analyze u).facts) false := by
  have hspecials : (designNames (specialDesigns u u.text)).Sublist
      ["Singleton", "Factory", "Observer/Callback", "State Machine", "Header Guard / Module"] := by
    simp only [specialDesigns, designNames_append]
    exact sublist_onlyIf.append sublist_onlyIf |>.append sublist_onlyIf |>.append sublist_onlyIf
      |>.append sublist_onlyIf
  refine .of_catalogue u designs (specialDesigns u u.text) (by simp [analyze]) hspecials
    (by decide) (by decide) (by decide : _ = ["Observer/Callback"]) ?_
  cases hcallback : Text.contains u.text "(*callback)" <;>
    simp +contextual [specialDesigns, designs, DesignRule.fires, Text.containsAny, hcallback]

end C

namespace Cpp

/-- A file that is named after a factory is left to the catalogue. -/
theorem namedOnce [Grammars] (u : SourceUnit) : NamedOnce (designNames (analyze u).facts) false := by
  have hspecials : (designNames (specialDesigns u u.text)).Sublist
      ["Singleton", "Factory", "Command", "PIMPL (Pointer to Implementation)",
        "CRTP (Template Pattern)", "Header Guard / Module"] := by
    simp only [specialDesigns, designNames_append]
    exact sublist_onlyIf.append sublist_onlyIf |>.append sublist_onlyIf |>.append sublist_onlyIf
      |>.append sublist_onlyIf |>.append sublist_onlyIf
  refine .of_catalogue u designs (specialDesigns u u.text) (by simp [analyze]) hspecials
    (by decide) (by decide) (by decide : _ = ["Factory"]) ?_
  simp +contextual [specialDesigns, designs, DesignRule.fires, Text.containsAny]

end Cpp

namespace CSharp

theorem namedOnce (u : SourceUnit) : NamedOnce (designNames (analyze u).facts) false :=
  .of_catalogue u designs (specialDesigns u.unitName u.text) (by simp [analyze]) sublist_onlyIf
    (by decide) (by decide) (by decide : _ = []) (by simp)

end CSharp

namespace Java

/-- Is a strategy shown by the name of the file and then again by the text? -/
def repeatsStrategy (u : SourceUnit) : Bool :=
  Text.contains (Text.lower u.fileName.toList) "strategy" && Text.contains u.text "interface" &&
    Text.contains (Text.lower u.text) "execute"

theorem namedOnce [Grammars] (u : SourceUnit) :
    NamedOnce (designNames (analyze u).facts) (repeatsStrategy u) := by
  have hspecials :
      (designNames (specialDesigns u.unitName u.text)).Sublist ["Singleton", "Strategy"] := by
    simp only [specialDesigns, designNames_append]
    exact sublist_onlyIf.append sublist_onlyIf
  refine .of_catalogue u designs (specialDesigns u.unitName u.text) (by simp [analyze]) hspecials
    (by decide) (by decide) (by decide : _ = ["Strategy"]) ?_
  simp [specialDesigns, designs, DesignRule.fires, Text.containsAny, repeatsStrategy, and_assoc]

end Java

namespace JavaScript

/-- Is a component shown by a decorator and then again by a function that is exported? -/
def repeatsComponent (u : SourceUnit) : Bool :=
  Text.contains u.text "@Component" && component.occursIn u.text &&
    !Text.contains (Text.lower u.fileName.toList) "component"

/-- A file that is named after a middleware is left to the catalogue, and so is one that is
named after a component. But the catalogue knows components by their decorator as well. -/
theorem namedOnce [Grammars] (typed : Bool) (u : SourceUnit) :
    NamedOnce (designNames (analyze typed u).facts) (repeatsComponent u) := by
  have hspecials : (designNames (specialDesigns u u.text)).Sublist
      ["Singleton", "Component", "Custom Hook", "Middleware"] := by
    simp only [specialDesigns, designNames_append]
    exact sublist_onlyIf.append sublist_onlyIf |>.append sublist_onlyIf |>.append sublist_onlyIf
  refine .of_catalogue u designs (specialDesigns u u.text) (by simp [analyze]) hspecials
    (by decide) (by decide) (by decide : _ = ["Component", "Middleware"]) ?_
  cases hfile : Text.contains (Text.lower u.fileName.toList) "component" <;>
    simp +contextual [specialDesigns, designs, DesignRule.fires, Text.containsAny, repeatsComponent,
      hfile]

end JavaScript

namespace Jsp

theorem namedOnce (u : SourceUnit) : NamedOnce (designNames (analyze u).facts) false :=
  .of_signs (designSigns u.text (Text.lower u.text)) u.unitName (by simp [analyze, designs])
    (by simp [designSigns])

end Jsp

namespace Kotlin

/-- A file that is named after a singleton is left to the catalogue. -/
theorem namedOnce (u : SourceUnit) : NamedOnce (designNames (analyze u).facts) false := by
  have hspecials : (designNames (specialDesigns u u.text)).Sublist
      ["Singleton (object)", "Factory", "Coroutine Service"] := by
    simp only [specialDesigns, designNames_append]
    exact sublist_onlyIf.append sublist_onlyIf |>.append sublist_onlyIf
  refine .of_catalogue u designs (specialDesigns u u.text) (by simp [analyze]) hspecials
    (by decide) (by decide) (by decide : _ = ["Singleton (object)"]) ?_
  simp +contextual [specialDesigns, designs, DesignRule.fires, Text.containsAny]

end Kotlin

namespace Php

theorem namedOnce (u : SourceUnit) : NamedOnce (designNames (analyze u).facts) false := by
  rw [analyze]
  split
  · exact .of_nodup (by simp)
  · exact .of_signs (designSigns u.text) u.unitName (by simp [designs]) (by simp [designSigns])

end Php

namespace Python

theorem namedOnce [Grammars] (u : SourceUnit) : NamedOnce (designNames (analyze u).facts) false := by
  have hspecials : (designNames (specialDesigns u u.text)).Sublist ["Decorator", "Template Method"] := by
    simp only [specialDesigns, designNames_append]
    exact sublist_onlyIf.append sublist_onlyIf
  rw [analyze]
  split
  · exact .of_nodup (by simp)
  · exact .of_catalogue u designs (specialDesigns u u.text) (by simp) hspecials
      (by decide) (by decide) (by decide : _ = []) (by simp)

end Python

namespace Ruby

theorem namedOnce (u : SourceUnit) : NamedOnce (designNames (analyze u).facts) false := by
  have hspecials : (designNames (specialDesigns u u.text)).Sublist
      ["Factory", "Builder", "Command", "Service Object"] := by
    simp only [specialDesigns, designNames_append]
    exact sublist_onlyIf.append sublist_onlyIf |>.append sublist_onlyIf |>.append sublist_onlyIf
  rw [analyze]
  split
  · exact .of_nodup (by simp)
  · exact .of_catalogue u designs (specialDesigns u u.text) (by simp) hspecials
      (by decide) (by decide) (by decide : _ = []) (by simp)

end Ruby

namespace Rust

theorem namedOnce [Grammars] (u : SourceUnit) : NamedOnce (designNames (analyze u).facts) false := by
  have hspecials : (designNames (specialDesigns u u.text)).Sublist ["State / Typestate", "Factory"] := by
    simp only [specialDesigns, designNames_append]
    exact sublist_onlyIf.append sublist_onlyIf
  rw [analyze]
  split
  · exact .of_nodup (by simp)
  · exact .of_catalogue u designs (specialDesigns u u.text) (by simp) hspecials
      (by decide) (by decide) (by decide : _ = []) (by simp)

end Rust

/-- Does a unit show some design pattern twice? -/
def Language.repeatsDesign : Language → SourceUnit → Bool
  | .java, u => Java.repeatsStrategy u
  | .javascript, u | .typescript, u => JavaScript.repeatsComponent u
  | _, _ => false

/-- A reading names each design pattern once, but for strategies and components. -/
theorem Language.namedOnce [Grammars] {l : Language} {analyze : SourceUnit → Reading}
    (h : l.analyzer? = some analyze) (u : SourceUnit) :
    NamedOnce (designNames (analyze u).facts) (l.repeatsDesign u) := by
  cases l with
  | unknown => exact nomatch h
  | java => exact Option.some.inj h ▸ Java.namedOnce u
  | csharp => exact Option.some.inj h ▸ CSharp.namedOnce u
  | javascript => exact Option.some.inj h ▸ JavaScript.namedOnce false u
  | typescript => exact Option.some.inj h ▸ JavaScript.namedOnce true u
  | c => exact Option.some.inj h ▸ C.namedOnce u
  | cpp => exact Option.some.inj h ▸ Cpp.namedOnce u
  | ruby => exact Option.some.inj h ▸ Ruby.namedOnce u
  | rust => exact Option.some.inj h ▸ Rust.namedOnce u
  | kotlin => exact Option.some.inj h ▸ Kotlin.namedOnce u
  | python => exact Option.some.inj h ▸ Python.namedOnce u
  | php => exact Option.some.inj h ▸ Php.namedOnce u
  | jsp => exact Option.some.inj h ▸ Jsp.namedOnce u

end CodeSurvey
