import CodeSurvey.Analyzer

/-!
# Plain facts

Most of what an analyzer reports is plain: it shows no design pattern, and it does not
say that a file was read.  Every part of a reading is plain but for the one about design
patterns, so what is true of design patterns in a reading is decided in that part alone.
Nearly every plain part is also bare: it reports no framework either.  Parts about tables
and endpoints report nothing but mentions of these.
-/

namespace CodeSurvey

namespace Fact

/-- Does a fact neither show a design pattern nor say that a file was read? -/
def isPlain : Fact → Bool
  | pattern .. | file _ => false
  | _ => true

/-- Is a fact plain, and not a framework? -/
def isBare : Fact → Bool
  | pattern .. | file _ | framework _ => false
  | _ => true

/-- Is a fact one that mentions a schema or an endpoint? -/
def isMention : Fact → Bool
  | schema _ | endpoint _ => true
  | _ => false

@[simp] theorem isPlain_framework (name : String) : (framework name).isPlain = true := rfl

@[simp] theorem isBare_package (name : String) : (package name).isBare = true := rfl

@[simp] theorem isBare_dependency (edge : Edge) : (dependency edge).isBare = true := rfl

@[simp] theorem isMention_schema (mention : String) : (schema mention).isMention = true := rfl

@[simp] theorem isMention_endpoint (mention : String) : (endpoint mention).isMention = true := rfl

@[simp] theorem isBare_classes (count : Nat) : (classes count).isBare = true := rfl

@[simp] theorem isBare_packageOf (name : List Char) : (packageOf name).isBare = true := rfl

@[simp] theorem isBare_depends (source : String) (target : List Char) (kind : String) :
    (depends source target kind).isBare = true := rfl

@[simp] theorem isMention_table (name : List Char) (origin : String) :
    (table name origin).isMention = true := rfl

@[simp] theorem isMention_route (method path : List Char) (server : String) :
    (route method path server).isMention = true := rfl

theorem isBare_of_isMention {f : Fact} (h : f.isMention = true) : f.isBare = true := by
  cases f with
  | schema | endpoint => rfl
  | _ => exact nomatch h

theorem isPlain_of_isBare {f : Fact} (h : f.isBare = true) : f.isPlain = true := by
  cases f with
  | pattern | file | framework => exact nomatch h
  | _ => rfl

theorem language?_of_isPlain {f : Fact} (h : f.isPlain = true) : f.language? = none := by
  cases f with
  | file l => exact nomatch h
  | _ => rfl

theorem pattern?_of_isPlain {f : Fact} (h : f.isPlain = true) : f.pattern? = none := by
  cases f with
  | pattern name unit => exact nomatch h
  | _ => rfl

theorem framework?_of_isBare {f : Fact} (h : f.isBare = true) : f.framework? = none := by
  cases f with
  | framework name => exact nomatch h
  | _ => rfl

end Fact

/-- All of the facts pass a test. -/
def Every (p : Fact → Bool) (facts : List Fact) : Prop := ∀ f ∈ facts, p f = true

namespace Every

variable {α : Type} {p : Fact → Bool} {facts rest : List Fact}

@[simp] theorem nil : Every p [] := nofun

@[simp] theorem cons {f : Fact} : Every p (f :: rest) ↔ p f = true ∧ Every p rest :=
  List.forall_mem_cons

@[simp] theorem append : Every p (facts ++ rest) ↔ Every p facts ∧ Every p rest :=
  List.forall_mem_append

@[simp] theorem onlyIf {condition : Bool} {f : Fact} :
    Every p (Fact.onlyIf condition f) ↔ (condition = true → p f = true) := by
  cases condition <;> simp [Fact.onlyIf]

@[simp] theorem map {g : α → Fact} {xs : List α} :
    Every p (xs.map g) ↔ ∀ x ∈ xs, p (g x) = true :=
  List.forall_mem_map

@[simp] theorem filterMap {g : α → Option Fact} {xs : List α} :
    Every p (xs.filterMap g) ↔ ∀ x ∈ xs, ∀ f, g x = some f → p f = true := by
  simp only [Every, List.mem_filterMap]
  grind

@[simp] theorem flatMap {g : α → List Fact} {xs : List α} :
    Every p (xs.flatMap g) ↔ ∀ x ∈ xs, Every p (g x) := by
  simp only [Every, List.mem_flatMap]
  grind

@[simp] theorem ite {c : Prop} [Decidable c] :
    Every p (if c then facts else rest) ↔ (c → Every p facts) ∧ (¬ c → Every p rest) := by
  by_cases h : c <;> simp [h]

theorem imp {q : Fact → Bool} (h : Every p facts) (hpq : ∀ f, p f = true → q f = true) : Every q facts :=
  fun f hf ↦ hpq f (h f hf)

end Every

/-- All of the facts are plain. -/
abbrev Plain (facts : List Fact) : Prop := Every Fact.isPlain facts

/-- All of the facts are plain, and none is a framework. -/
abbrev Bare (facts : List Fact) : Prop := Every Fact.isBare facts

/-- All of the facts are mentions. -/
abbrev Mentions (facts : List Fact) : Prop := Every Fact.isMention facts

@[simp 1100] theorem Bare.of_mentions {facts : List Fact} (h : Mentions facts) : Bare facts :=
  h.imp fun _ ↦ Fact.isBare_of_isMention

@[simp 1100] theorem Plain.of_bare {facts : List Fact} (h : Bare facts) : Plain facts :=
  h.imp fun _ ↦ Fact.isPlain_of_isBare

-- Simplification does not go through two such steps when it proves a side condition.
@[simp 1100] theorem Plain.of_mentions {facts : List Fact} (h : Mentions facts) : Plain facts :=
  .of_bare (.of_mentions h)

@[simp] theorem plain_frameworksIn (text : List Char) (rules : List FrameworkRule) :
    Plain (frameworksIn text rules) := by
  simp [frameworksIn]

@[simp] theorem mentions_tablesIn (p : Pattern) (text : List Char) (origin : String) :
    Mentions (tablesIn p text origin) := by
  simp [tablesIn]

@[simp] theorem mentions_pathRoutesIn (p : Pattern) (text : List Char) (label framework : String) :
    Mentions (pathRoutesIn p text label framework) := by
  simp [pathRoutesIn]

@[simp] theorem mentions_methodRoutesIn (p : Pattern) (text : List Char) (framework : String) :
    Mentions (methodRoutesIn p text framework) := by
  simp only [methodRoutesIn, Every.filterMap, Option.bind_eq_bind, Option.bind_eq_some_iff]
  rintro m - f ⟨method, -, path, -, hf⟩
  exact Option.some.inj hf ▸ rfl

/-! ## The parts of readings -/

namespace C

@[simp] theorem bare_includes (module : String) (text : List Char) : Bare (includes module text) := by
  simp [includes]

@[simp] theorem mentions_tables (text : List Char) : Mentions (tables text) := by
  simp [tables]

@[simp] theorem mentions_endpoints (text : List Char) : Mentions (endpoints text) := by
  simp [endpoints]

end C

namespace Cpp

@[simp] theorem bare_namespaces (declared : List (List Char)) : Bare (namespaces declared) := by
  simp [namespaces]

@[simp] theorem plain_specialFrameworks (text : List Char) : Plain (specialFrameworks text) := by
  simp [specialFrameworks]

@[simp] theorem mentions_tables (text : List Char) : Mentions (tables text) := by
  simp [tables]

@[simp] theorem mentions_endpoints (text : List Char) : Mentions (endpoints text) := by
  simp [endpoints]

end Cpp

namespace CSharp

@[simp] theorem bare_usings (space text : List Char) : Bare (usings space text) := by
  simp [usings]

@[simp] theorem mentions_entityTable (text : List Char) : Mentions (entityTable text) := by
  unfold entityTable
  split
  · split <;> simp
  · simp

@[simp] theorem mentions_endpoints (text : List Char) : Mentions (endpoints text) := by
  simp only [endpoints, Every.filterMap, Option.bind_eq_bind, Option.bind_eq_some_iff]
  rintro m - f ⟨method, -, hf⟩
  exact Option.some.inj hf ▸ rfl

end CSharp

namespace Java

@[simp] theorem bare_imports (package text : List Char) : Bare (imports package text) := by
  simp only [imports, Every.filterMap]
  intro imported _ f hf
  split at hf
  · exact nomatch hf
  · split at hf
    · exact nomatch hf
    · exact Option.some.inj hf ▸ rfl

@[simp] theorem mentions_entityTable (text : List Char) : Mentions (entityTable text) := by
  unfold entityTable
  split
  · split
    · simp
    · split <;> simp
  · simp

theorem mentions_mappedEndpoints (base : List Char) (lines : List (List Char)) :
    Mentions (mappedEndpoints base lines) := by
  induction lines with
  | nil => exact Every.nil
  | cons line following ih =>
    rw [mappedEndpoints]
    split
    · exact ih
    · split
      · exact Every.cons.mpr ⟨rfl, ih⟩
      · exact ih

@[simp] theorem mentions_endpoints (text : List Char) : Mentions (endpoints text) :=
  mentions_mappedEndpoints _ _

end Java

namespace JavaScript

@[simp] theorem bare_references (module : String) (p : Pattern) (kind : String) (text : List Char) :
    Bare (references module p kind text) := by
  simp [references]

@[simp] theorem mentions_schemas (text : List Char) : Mentions (schemas text) := by
  simp [schemas]

@[simp] theorem mentions_endpoints (text : List Char) : Mentions (endpoints text) := by
  simp [endpoints]

end JavaScript

namespace Jsp

@[simp] theorem bare_imports (page : String) (text : List Char) : Bare (imports page text) := by
  simp [imports]

@[simp] theorem bare_taglibs (text : List Char) : Bare (taglibs text) := by
  simp only [taglibs, Every.filterMap, Option.bind_eq_bind, Option.bind_eq_some_iff]
  rintro m - f ⟨uri, -, mark, -, hf⟩
  exact Option.some.inj hf ▸ rfl

@[simp] theorem bare_pages (text : List Char) : Bare (pages text) := by
  simp only [pages, Every.append, Every.map, Every.filterMap, Option.bind_eq_bind,
    Option.bind_eq_some_iff]
  constructor
  · intro file _
    rfl
  · rintro m - f ⟨kind, -, page, -, hf⟩
    exact Option.some.inj hf ▸ rfl

@[simp] theorem mentions_endpoints (text : List Char) : Mentions (endpoints text) := by
  simp [endpoints]

@[simp] theorem mentions_schemas (text : List Char) : Mentions (schemas text) := by
  simp [schemas]

@[simp] theorem bare_classes (text : List Char) : Bare (classes text) := by
  simp [classes]

@[simp] theorem bare_expressions (page : String) (text : List Char) :
    Bare (expressions page text) := by
  simp [expressions]

end Jsp

namespace Kotlin

@[simp] theorem bare_imports (package : String) (text : List Char) : Bare (imports package text) := by
  simp [imports]

@[simp] theorem mentions_endpoints (text : List Char) : Mentions (endpoints text) := by
  simp [endpoints]

@[simp] theorem mentions_tables (text : List Char) : Mentions (tables text) := by
  simp [tables]

end Kotlin

namespace Php

@[simp] theorem plain_manifest (u : SourceUnit) (text : List Char) : Plain (manifest u text) :=
  Every.append.mpr ⟨Plain.of_bare (by simp), plain_frameworksIn text frameworks⟩

@[simp] theorem bare_uses (source : String) (text : List Char) : Bare (uses source text) := by
  simp [uses]

@[simp] theorem mentions_endpoints (text : List Char) : Mentions (endpoints text) := by
  simp [endpoints]

@[simp] theorem mentions_tables (text : List Char) : Mentions (tables text) := by
  simp [tables]

end Php

namespace Python

@[simp] theorem bare_imports (module : String) (p : Pattern) (kind : String) (text : List Char) :
    Bare (imports module p kind text) := by
  simp [imports]

@[simp] theorem mentions_endpoints (text : List Char) : Mentions (endpoints text) := by
  simp [endpoints]

@[simp] theorem mentions_tables (text : List Char) : Mentions (tables text) := by
  simp [tables]

end Python

namespace Ruby

@[simp] theorem plain_manifest (text : List Char) : Plain (manifest text) :=
  Every.append.mpr ⟨Plain.of_bare (by simp), by simp⟩

@[simp] theorem bare_requires (module : String) (text : List Char) : Bare (requires module text) := by
  simp [requires]

@[simp] theorem mentions_schemas (text : List Char) : Mentions (schemas text) := by
  simp [schemas]

@[simp] theorem mentions_endpoints (text : List Char) : Mentions (endpoints text) := by
  simp [endpoints]

end Ruby

namespace Rust

@[simp] theorem bare_manifest (text : List Char) : Bare (manifest text) := by
  simp [manifest]

@[simp] theorem bare_uses (crate : String) (text : List Char) : Bare (uses crate text) := by
  simp [uses]

@[simp] theorem mentions_endpoints (text : List Char) : Mentions (endpoints text) := by
  simp [endpoints]

@[simp] theorem mentions_schemas (text : List Char) : Mentions (schemas text) := by
  simp [schemas]

end Rust

end CodeSurvey
