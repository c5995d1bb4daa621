import CodeSurvey.Proofs.Analyzer.Checked.Compiled
import CodeSurvey.Proofs.Analyzer.Checked.Scripted
import CodeSurvey.Proofs.Model.Contribution

/-!
# Analyzers do not stop the program

A file that somebody made for the purpose cannot stop a survey of other files.  No match
lacks a group that its analyzer takes for granted, no slice is cut outside of its text or
through a character, and so the checked readings are the readings.
-/

namespace CodeSurvey

namespace Language

/-- The analyzers with everything that could stop the program. -/
def checkedAnalyzer? [Grammars] : Language → Option (SourceUnit → Option Reading)
  | java => some Java.checkedAnalyze
  | csharp => some CSharp.checkedAnalyze
  | javascript => some (JavaScript.checkedAnalyze false)
  | typescript => some (JavaScript.checkedAnalyze true)
  | c => some C.checkedAnalyze
  | cpp => some Cpp.checkedAnalyze
  | ruby => some Ruby.checkedAnalyze
  | rust => some Rust.checkedAnalyze
  | kotlin => some Kotlin.checkedAnalyze
  | python => some Python.checkedAnalyze
  | php => some Php.checkedAnalyze
  | jsp => some Jsp.checkedAnalyze
  | unknown => none

/-- The groups that the analyzer of a language takes for granted. -/
def grantedGroups : Language → List (Pattern × Nat)
  | java => [(Java.importLine, 1), (Java.mapping, 1), (Java.mapping, 2), (Java.methodName, 1)]
  | csharp => [(CSharp.httpAttribute, 1), (CSharp.usingLine, 1)]
  | javascript | typescript =>
    [(JavaScript.importLine, 1), (JavaScript.requireCall, 1), (JavaScript.mongooseSchema, 1),
      (JavaScript.entity, 1)]
  | c => [(C.localInclude, 1), (C.curlUrl, 1)]
  | cpp =>
    [(Cpp.namespaceOpening, 1), (Cpp.templateBase, 1), (Cpp.templateBase, 2), (C.localInclude, 1),
      (Cpp.crowRoute, 1), (Cpp.pistacheRoute, 1), (Cpp.pistacheRoute, 2)]
  | ruby =>
    [(Ruby.gemLine, 1), (Ruby.mongoidClass, 1), (Ruby.grapeRoute, 1), (Ruby.grapeRoute, 2),
      (Ruby.verbRoute, 1), (Ruby.verbRoute, 2), (Ruby.resources, 1), (Ruby.definition, 1),
      (Ruby.definition, 2), (Ruby.requireLine, 1), (Ruby.requireRelativeLine, 1)]
  | rust =>
    [(Rust.tableHeader, 1), (Rust.manifestKey, 1), (Rust.attributeRoute, 1), (Rust.attributeRoute, 2),
      (Rust.axumRoute, 1), (Rust.axumRoute, 2), (Rust.warpPath, 1), (Rust.dieselTable, 1),
      (Rust.sqlTable, 1), (Rust.modLine, 1), (Rust.useLine, 1), (Rust.externCrate, 1)]
  | kotlin =>
    [(Kotlin.packageLine, 1), (Kotlin.importLine, 1), (Kotlin.springMapping, 1),
      (Kotlin.springMapping, 2), (Kotlin.ktorRoute, 1), (Kotlin.ktorRoute, 2), (Kotlin.retrofitRoute, 1),
      (Kotlin.retrofitRoute, 2)]
  | python =>
    [(Python.flaskRoute, 1), (Python.verbDecorator, 1), (Python.verbDecorator, 2),
      (Python.djangoUrl, 1), (Python.aiohttpRoute, 1), (Python.sqlTable, 1), (Python.importLine, 1),
      (Python.fromImport, 1), (Python.tomlSection, 1)]
  | php =>
    [(Php.packageEntry, 1), (Php.laravelRoute, 1), (Php.symfonyRoute, 1), (Php.slimRoute, 1),
      (Php.eloquentModel, 1), (Php.namespaceLine, 1), (Php.useLine, 1)]
  | jsp =>
    [(Jsp.pageDirective, 1), (Jsp.pageImport, 1), (Jsp.taglib, 1), (Jsp.taglib, 2),
      (Jsp.includeDirective, 1), (Jsp.action, 1), (Jsp.action, 2), (Jsp.formAction, 1)]
  | unknown => []

/-- No way through one of these patterns goes around the group. -/
theorem hasGroup_of_mem_grantedGroups {l : Language} {site : Pattern × Nat} (h : site ∈ l.grantedGroups) :
    site.1.hasGroup site.2 = true := by
  have hall : (l.grantedGroups.all fun site ↦ site.1.hasGroup site.2) = true := by cases l <;> rfl
  exact List.all_eq_true.mp hall site h

theorem checkedAnalyzer?_eq [Grammars] (l : Language) :
    l.checkedAnalyzer? = l.analyzer?.map fun analyze u ↦ some (analyze u) := by
  cases l with
  | java => exact congrArg some (funext Java.checkedAnalyze_eq)
  | csharp => exact congrArg some (funext CSharp.checkedAnalyze_eq)
  | javascript => exact congrArg some (funext (JavaScript.checkedAnalyze_eq false))
  | typescript => exact congrArg some (funext (JavaScript.checkedAnalyze_eq true))
  | c => exact congrArg some (funext C.checkedAnalyze_eq)
  | cpp => exact congrArg some (funext Cpp.checkedAnalyze_eq)
  | ruby => exact congrArg some (funext Ruby.checkedAnalyze_eq)
  | rust => exact congrArg some (funext Rust.checkedAnalyze_eq)
  | kotlin => exact congrArg some (funext Kotlin.checkedAnalyze_eq)
  | python => exact congrArg some (funext Python.checkedAnalyze_eq)
  | php => exact congrArg some (funext Php.checkedAnalyze_eq)
  | jsp => exact congrArg some (funext Jsp.checkedAnalyze_eq)
  | unknown => rfl

end Language

/-- No file stops the program.  Whatever its path and text are, the checked reading of it is
the reading: no group that the analyzer takes for granted is missing from a match, and no
slice of a name, of the text or of its lines is out of range or cuts a character.  These
groups take part in every match of any text, and the slices that tell a language, or an
allowed file, from its name exist for any name. -/
theorem analyze_unstopped [Grammars] :
    (∀ l ∈ Language.all, ∃ analyze checkedAnalyze, l.analyzer? = some analyze ∧
      l.checkedAnalyzer? = some checkedAnalyze ∧ ∀ u, checkedAnalyze u = some (analyze u)) ∧
    (∀ l : Language, ∀ site ∈ l.grantedGroups, ∀ text, ∀ m ∈ site.1.occurrences text,
      (m.group? site.2).isSome) ∧
    (∀ name, Language.checkedOfFileName name = some (Language.ofFileName name)) ∧
    ∀ name, checkedIsWhitelisted name = some (isWhitelisted name) := by
  refine ⟨fun l hl ↦ ?_, fun l site hsite text m hm ↦ ?_, Language.checkedOfFileName_eq,
    checkedIsWhitelisted_eq⟩
  · obtain ⟨record, analyze, -, hanalyze, -⟩ := Language.exists_recorder (Language.isKnown_of_mem_all hl)
    refine ⟨analyze, fun u ↦ some (analyze u), hanalyze, ?_, fun u ↦ rfl⟩
    rw [Language.checkedAnalyzer?_eq, hanalyze]
    rfl
  · exact Pattern.isSome_group?_of_mem_occurrences (Language.hasGroup_of_mem_grantedGroups hsite) hm

/-- A mapping in the last line of a file has no lines after it to look ahead to. -/
theorem analyze_unstopped_last_line :
    let u : SourceUnit := ⟨"web/Größe.v1.java", .java, "class Größe \x7b\n  @GetMapping(\"/größe\")"⟩
    ∃ reading, Java.checkedAnalyze u = some reading ∧
      .endpoint "GET /größe (unknown)" ∈ reading.facts := by
  intro u
  obtain ⟨analyze, checkedAnalyze, hanalyze, hchecked, hunstopped⟩ :=
    analyze_unstopped.1 .java (by decide)
  obtain rfl : Java.analyze = analyze := Option.some.inj hanalyze
  obtain rfl : Java.checkedAnalyze = checkedAnalyze := Option.some.inj hchecked
  exact ⟨Java.analyze u, hunstopped u, by decide +kernel⟩

/-- The path of an attribute is not taken for granted, as this would stop the program. -/
example : (CSharp.httpAttribute, 2) ∉ Language.csharp.grantedGroups ∧
    CSharp.httpAttribute.checkedGroupIn 2 "[HttpGet]".toList = none := by decide +kernel

end CodeSurvey
