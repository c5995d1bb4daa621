import CodeSurvey.Proofs.Analyzer.Plain

/-!
# Readings count no files

What an analyzer reports is about the text of a unit.  That a file was read is for the
survey to say, so no reading says it: however a unit is read, it leaves the counts of
files as they are.
-/

namespace CodeSurvey

/-- None of the facts is that a file was read. -/
def CountNoFiles (facts : List Fact) : Prop := ∀ f ∈ facts, f.language? = none

namespace CountNoFiles

variable {α : Type} {facts rest : List Fact}

@[simp] theorem of_plain (h : Plain facts) : CountNoFiles facts := fun f hf ↦
  Fact.language?_of_isPlain (h f hf)

@[simp] theorem cons {f : Fact} : CountNoFiles (f :: rest) ↔ f.language? = none ∧ CountNoFiles rest :=
  List.forall_mem_cons

@[simp] theorem append : CountNoFiles (facts ++ rest) ↔ CountNoFiles facts ∧ CountNoFiles rest :=
  List.forall_mem_append

@[simp] theorem onlyIf {condition : Bool} {f : Fact} :
    CountNoFiles (Fact.onlyIf condition f) ↔ (condition = true → f.language? = none) := by
  cases condition <;> simp [Fact.onlyIf, CountNoFiles]

@[simp] theorem map {g : α → Fact} {xs : List α} :
    CountNoFiles (xs.map g) ↔ ∀ x ∈ xs, (g x).language? = none :=
  List.forall_mem_map

@[simp] theorem designsIn (fileName unitName : String) (text : List Char) (rules : List DesignRule) :
    CountNoFiles (CodeSurvey.designsIn fileName unitName text rules) := by
  simp [CodeSurvey.designsIn, Fact.language?]

end CountNoFiles

/-! ## The analyzers -/

theorem C.countNoFiles [Grammars] (u : SourceUnit) : CountNoFiles (C.analyze u).facts := by
  simp [C.analyze, Fact.language?, C.specialDesigns]

theorem Cpp.countNoFiles [Grammars] (u : SourceUnit) : CountNoFiles (Cpp.analyze u).facts := by
  simp [Cpp.analyze, Fact.language?, Cpp.specialDesigns]

theorem Kotlin.countNoFiles (u : SourceUnit) : CountNoFiles (Kotlin.analyze u).facts := by
  simp [Kotlin.analyze, Fact.language?, Kotlin.specialDesigns]

theorem JavaScript.countNoFiles [Grammars] (typed : Bool) (u : SourceUnit) :
    CountNoFiles (JavaScript.analyze typed u).facts := by
  simp [JavaScript.analyze, Fact.language?, JavaScript.specialDesigns]

theorem CSharp.countNoFiles (u : SourceUnit) : CountNoFiles (CSharp.analyze u).facts := by
  simp [CSharp.analyze, Fact.language?, CSharp.specialDesigns]

theorem Jsp.countNoFiles (u : SourceUnit) : CountNoFiles (Jsp.analyze u).facts := by
  simp [Jsp.analyze, Fact.language?, Jsp.designs]

theorem Java.countNoFiles [Grammars] (u : SourceUnit) : CountNoFiles (Java.analyze u).facts := by
  simp [Java.analyze, Fact.language?, Java.specialDesigns]

theorem Ruby.countNoFiles (u : SourceUnit) : CountNoFiles (Ruby.analyze u).facts := by
  rw [Ruby.analyze]
  split <;> simp [Fact.language?, Ruby.specialDesigns]

theorem Rust.countNoFiles [Grammars] (u : SourceUnit) : CountNoFiles (Rust.analyze u).facts := by
  rw [Rust.analyze]
  split <;> simp [Fact.language?, Rust.specialDesigns]

theorem Php.countNoFiles (u : SourceUnit) : CountNoFiles (Php.analyze u).facts := by
  rw [Php.analyze]
  split <;> simp [Fact.language?, Php.designs]

theorem Python.countNoFiles [Grammars] (u : SourceUnit) : CountNoFiles (Python.analyze u).facts := by
  rw [Python.analyze]
  split <;> simp [Fact.language?, Python.specialDesigns]

/-- No analyzer reports that a file was read. -/
theorem Language.countNoFiles [Grammars] {l : Language} {analyze : SourceUnit → Reading}
    (h : l.analyzer? = some analyze) (u : SourceUnit) : CountNoFiles (analyze u).facts := by
  cases l with
  | unknown => exact nomatch h
  | java => exact Option.some.inj h ▸ Java.countNoFiles u
  | csharp => exact Option.some.inj h ▸ CSharp.countNoFiles u
  | javascript => exact Option.some.inj h ▸ JavaScript.countNoFiles false u
  | typescript => exact Option.some.inj h ▸ JavaScript.countNoFiles true u
  | c => exact Option.some.inj h ▸ C.countNoFiles u
  | cpp => exact Option.some.inj h ▸ Cpp.countNoFiles u
  | ruby => exact Option.some.inj h ▸ Ruby.countNoFiles u
  | rust => exact Option.some.inj h ▸ Rust.countNoFiles u
  | kotlin => exact Option.some.inj h ▸ Kotlin.countNoFiles u
  | python => exact Option.some.inj h ▸ Python.countNoFiles u
  | php => exact Option.some.inj h ▸ Php.countNoFiles u
  | jsp => exact Option.some.inj h ▸ Jsp.countNoFiles u

end CodeSurvey
