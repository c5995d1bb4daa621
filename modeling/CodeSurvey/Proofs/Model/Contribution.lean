import CodeSurvey.Analyzer
import CodeSurvey.Proofs.Grammar
import CodeSurvey.Proofs.Recorder.Compiled
import CodeSurvey.Proofs.Recorder.Scripted
import CodeSurvey.Proofs.SortedMap

/-!
# Recordings as contributions

A recorder may be handed a model that already holds something.  Since it adds the
same facts to any model, this is the same as merging in the model that it makes of
nothing, and how a unit was read never depends on the model it is read into.  This
is what makes it legitimate to read every file into a model of its own and to merge
afterwards.
-/

namespace CodeSurvey

namespace Language

theorem ctorIdx_inj {a b : Language} (h : a.ctorIdx = b.ctorIdx) : a = b := by
  rw [← ofNat_ctorIdx a, h, ofNat_ctorIdx]

instance : Std.Irrefl (α := Language) (· < ·) := ⟨fun l ↦ Nat.lt_irrefl l.ctorIdx⟩

instance : Std.Trichotomous (α := Language) (· < ·) where
  trichotomous _ _ hab hba := ctorIdx_inj (Nat.le_antisymm (Nat.le_of_not_lt hba) (Nat.le_of_not_lt hab))

end Language

namespace Model

/-! ## Adding goes past merging -/

/-- Counting one more adds to the later of two counts as well as to their sum. -/
theorem countUp_merge (a b : Option UInt64) :
    some (countUp (a.merge (· + ·) b)) = a.merge (· + ·) (some (countUp b)) := by
  cases a with
  | none => simp
  | some x =>
    cases b with
    | none => simp [countUp]
    | some y => simp [countUp, UInt64.add_assoc]

/-- A unit at the end of the later of two lists is at the end of the whole. -/
theorem append_merge (unit : String) (a b : Option (List String)) :
    some ((a.merge (· ++ ·) b).getD [] ++ [unit]) =
      a.merge (· ++ ·) (some (b.getD [] ++ [unit])) := by
  cases a with
  | none => simp
  | some x => cases b <;> simp

theorem merge_empty (m : Model) : m.merge ∅ = m := by
  change (⟨m.packages, m.dependencies ++ [], m.frameworks, m.patterns, m.schemas ++ [],
    m.endpoints ++ [], m.languageFiles, m.classCount + 0⟩ : Model) = m
  simp

/-- Facts that are added to a merged model may be added to the later part of it. -/
theorem addAll_merge (m n : Model) (facts : List Fact) :
    (m.merge n).addAll facts = m.merge (n.addAll facts) := by
  unfold addAll merge
  congr 1
  · exact SortedMap.foldl_alter_mergeWith id (fun _ a b ↦ by cases a <;> cases b <;> rfl) ..
  · exact List.append_assoc ..
  · exact SortedMap.foldl_alter_mergeWith id (fun _ ↦ countUp_merge) ..
  · exact SortedMap.foldl_alter_mergeWith Prod.fst (fun x ↦ append_merge x.2) ..
  · exact List.append_assoc ..
  · exact List.append_assoc ..
  · exact SortedMap.foldl_alter_mergeWith id (fun _ ↦ countUp_merge) ..
  · exact UInt64.add_assoc ..

/-- Adding facts is merging in the model of these facts. -/
theorem addAll_eq_merge_ofFacts (m : Model) (facts : List Fact) :
    m.addAll facts = m.merge (ofFacts facts) := by
  rw [ofFacts, ← addAll_merge, merge_empty]

end Model

namespace Language

theorem isKnown_of_mem_all {l : Language} (h : l ∈ all) : l.isKnown = true := by
  revert l
  decide

variable [Grammars] {l : Language}

/-- Every language that can be surveyed has an analyzer, and a recorder that adds what the analyzer
reports. -/
theorem exists_recorder (h : l.isKnown = true) :
    ∃ record analyze, l.recorder? = some record ∧ l.analyzer? = some analyze ∧
      ∀ u, Adds (record u) (analyze u).fidelity (analyze u).facts := by
  cases l with
  | java => exact ⟨_, _, rfl, rfl, Java.adds_record⟩
  | csharp => exact ⟨_, _, rfl, rfl, CSharp.adds_record⟩
  | javascript => exact ⟨_, _, rfl, rfl, JavaScript.adds_record false⟩
  | typescript => exact ⟨_, _, rfl, rfl, JavaScript.adds_record true⟩
  | c => exact ⟨_, _, rfl, rfl, C.adds_record⟩
  | cpp => exact ⟨_, _, rfl, rfl, Cpp.adds_record⟩
  | ruby => exact ⟨_, _, rfl, rfl, Ruby.adds_record⟩
  | rust => exact ⟨_, _, rfl, rfl, Rust.adds_record⟩
  | kotlin => exact ⟨_, _, rfl, rfl, Kotlin.adds_record⟩
  | python => exact ⟨_, _, rfl, rfl, Python.adds_record⟩
  | php => exact ⟨_, _, rfl, rfl, Php.adds_record⟩
  | jsp => exact ⟨_, _, rfl, rfl, Jsp.adds_record⟩
  | unknown => exact absurd h (by decide)

variable {record : SourceUnit → StateM Model Fidelity}

theorem isKnown_of_recorder? (h : l.recorder? = some record) : l.isKnown = true := by
  cases l with
  | unknown => exact nomatch h
  | _ => rfl

theorem exists_analyzer_of_recorder? (h : l.recorder? = some record) :
    ∃ analyze, l.analyzer? = some analyze ∧
      ∀ u, Adds (record u) (analyze u).fidelity (analyze u).facts := by
  obtain ⟨record', analyze, hrecord, hanalyze, hadds⟩ := exists_recorder (isKnown_of_recorder? h)
  obtain rfl := Option.some.inj (h.symm.trans hrecord)
  exact ⟨analyze, hanalyze, hadds⟩

end Language

/-- Every language that can be surveyed has a recorder.  Handed any model, it ends as if it
had been handed none and the outcome had been merged in, and it reads the unit in the same
way. -/
theorem record_eq_merge_record [Grammars] :
    ∀ l ∈ Language.all, ∃ record, l.recorder? = some record ∧
      ∀ (u : SourceUnit) (m : Model),
        ((record u).run m).2 = m.merge ((record u).run ∅).2 ∧
          ((record u).run m).1 = ((record u).run ∅).1 := by
  intro l hl
  obtain ⟨record, analyze, hrecord, -, hadds⟩ := Language.exists_recorder (Language.isKnown_of_mem_all hl)
  refine ⟨record, hrecord, fun u m ↦ ?_⟩
  rw [(hadds u).run_eq m, (hadds u).run_eq ∅]
  exact ⟨m.addAll_eq_merge_ofFacts (analyze u).facts, rfl⟩

/-- A class in a package, and a build that parses it. -/
def shopClass : SourceUnit := ⟨"shop/Pay.java", .java, "package shop;\nclass Pay \x7b\x7d\n"⟩

@[reducible]
def shopGrammars : Grammars :=
  .ofTrees [(.java, shopClass.content, .named "program" shopClass.content
    [.named "package_declaration" "package shop;"
      [.token "package", .named "identifier" "shop" [], .token ";"],
    .named "class_declaration" "class Pay \x7b\x7d"
      [.token "class", (SyntaxNode.named "identifier" "Pay" []).inField "name",
        (SyntaxNode.named "class_body" "\x7b\x7d" [.token "\x7b", .token "\x7d"]).inField "body"]])]

/-- The class read into a model that holds a package and two classes, by its grammar; and a list of
requirements read into a model in which one of its frameworks has been counted before. -/
theorem record_eq_merge_record_shop :
    let m : Model := .ofFacts [.package "app", .classes 2]
    let read := (@Java.record shopGrammars shopClass).run m
    let u : SourceUnit := ⟨"requirements.txt", .python, "flask==2.0\n# later\nredis"⟩
    let n : Model := .ofFacts [.framework "Flask"]
    read.2 = m.merge ((@Java.record shopGrammars shopClass).run ∅).2 ∧ read.1 = .structured ∧
      read.2.packages.keys = ["app", "shop"] ∧ read.2.classCount = 3 ∧
      ((@Python.record shopGrammars u).run n).2 = n.merge ((@Python.record shopGrammars u).run ∅).2 ∧
      ((@Python.record shopGrammars u).run n).2.frameworkCount "Flask" = 2 := by
  intro m read u n
  obtain ⟨record, hrecord, hjava⟩ := @record_eq_merge_record shopGrammars .java (by decide)
  obtain rfl : @Java.record shopGrammars = record := Option.some.inj hrecord
  obtain ⟨record, hrecord, hpython⟩ := @record_eq_merge_record shopGrammars .python (by decide)
  obtain rfl : @Python.record shopGrammars = record := Option.some.inj hrecord
  have hread : read.1 = .structured ∧ read.2.packages.keys = ["app", "shop"] ∧ read.2.classCount = 3 := by
    decide +kernel
  refine ⟨(hjava shopClass m).1, hread.1, hread.2.1, hread.2.2, (hpython u n).1, ?_⟩
  decide +kernel

end CodeSurvey
