import CodeSurvey.Proofs.Model.Counts
import CodeSurvey.Proofs.Model.Merging
import CodeSurvey.Proofs.Text.Trimming

/-!
# How models grow

A model starts out empty.  It is told facts, recorders read units into it, and other
models are merged in that came about in the same way.  However this is done, the model
ends up as if it had been told, from first to last, all facts that were told anywhere
on the way.  So two things hold of whatever is made so:

* it is well formed: no package is blank or has blanks around its name, no reference
  leads nowhere, and nothing is counted or listed that was never met;
* every step only adds.  Packages stay and lists go on from where they were.

Counters move on by the number of times that something was told.  They have the width of
a machine word: a count is lower than before, or zero, only if its counter was moved past
the end of the word.
-/

namespace CodeSurvey

/-! ## Single facts -/

/-- A package is recorded under a tidy name. -/
theorem Fact.isTidy_of_package? {fact : Fact} {name : String} (h : fact.package? = some name) :
    Text.IsTidy name.toList := by
  cases fact with
  | package raw =>
    rw [package?] at h
    split at h
    next => exact nomatch h
    next hne =>
      obtain rfl := Option.some.inj h
      have htrim : Text.trim raw.toList ≠ [] := fun hnil ↦ hne (by rw [hnil])
      rw [String.toList_ofList]
      exact Text.isTidy_trim htrim
  | _ => exact nomatch h

theorem Fact.target_ne_empty_of_edge? {fact : Fact} {e : Edge} (h : fact.edge? = some e) : e.target ≠ "" := by
  cases fact with
  | dependency e' =>
    rw [edge?] at h
    split at h
    next => exact nomatch h
    next hne => exact Option.some.inj h ▸ hne
  | _ => exact nomatch h

namespace Model

/-! ## Well-formed models -/

/-- In a model that was told these facts, packages have tidy names, references lead somewhere,
and what is counted or listed is there at least once. -/
structure IsWellFormed (facts : List Fact) (m : Model) : Prop where
  packages : ∀ name ∈ m.packages.keys, Text.IsTidy name.toList
  dependencies : ∀ e ∈ m.dependencies, e.target ≠ ""
  patterns : ∀ units ∈ m.patterns.values, units ≠ []
  /-- Too many tellings may have brought a counter back to zero. -/
  frameworks : ∀ name count, m.frameworks.get? name = some count →
    1 ≤ count ∨ 2 ^ 64 ≤ facts.count (.framework name)
  languageFiles : ∀ l count, m.languageFiles.get? l = some count →
    1 ≤ count ∨ 2 ^ 64 ≤ facts.count (.file l)

theorem mem_packages_merge {m n : Model} {name : String} :
    name ∈ (m.merge n).packages.keys ↔ name ∈ m.packages.keys ∨ name ∈ n.packages.keys := by
  rw [Model.merge, SortedMap.mem_keys_mergeWith]

/-- What holds of the empty model, and of a merged model if it does of its parts and of each
single fact, holds of all models of facts. -/
theorem ofFacts_induction {motive : Model → Prop} (empty : motive ∅)
    (single : ∀ fact, motive (ofFacts [fact])) (merge : ∀ m n, motive m → motive n → motive (m.merge n))
    (facts : List Fact) : motive (ofFacts facts) := by
  have hall : ∀ m, motive m → motive (m.addAll facts) := by
    induction facts with
    | nil => exact fun m hm ↦ (addAll_nil m).symm ▸ hm
    | cons fact rest ih =>
      intro m hm
      rw [addAll_cons, add, addAll_eq_merge_ofFacts m]
      exact ih _ (merge _ _ hm (single fact))
  exact hall ∅ empty

theorem isTidy_of_mem_packages {facts : List Fact} :
    ∀ name ∈ (ofFacts facts).packages.keys, Text.IsTidy name.toList := by
  refine ofFacts_induction (motive := fun m ↦ ∀ name ∈ m.packages.keys, Text.IsTidy name.toList)
    (fun _ h ↦ nomatch h) (fun fact name hname ↦ ?_) (fun m n hm hn name hname ↦ ?_) facts
  · have hkeys : (ofFacts [fact]).packages.keys = fact.package?.toList := by
      rw [ofFacts, addAll, List.filterMap_cons]
      cases fact.package? <;> rfl
    rw [hkeys, Option.mem_toList] at hname
    exact Fact.isTidy_of_package? hname
  · exact (mem_packages_merge.mp hname).elim (hm name) (hn name)

theorem target_ne_empty_of_mem_dependencies {facts : List Fact} :
    ∀ e ∈ (ofFacts facts).dependencies, e.target ≠ "" := by
  intro e he
  obtain ⟨fact, -, hfact⟩ := List.mem_filterMap.mp he
  exact Fact.target_ne_empty_of_edge? hfact

theorem ne_nil_of_mem_patterns {facts : List Fact} : ∀ units ∈ (ofFacts facts).patterns.values, units ≠ [] := by
  refine ofFacts_induction (motive := fun m ↦ ∀ units ∈ m.patterns.values, units ≠ [])
    (fun _ h ↦ nomatch h) (fun fact ↦ ?_) (fun m n hm hn ↦ ?_) facts
  · cases fact with
    | pattern name unit => exact List.forall_mem_singleton.mpr (List.cons_ne_nil unit [])
    | _ => exact List.forall_mem_nil _
  · exact SortedMap.forall_mem_values_mergeWith (fun _ _ ha _ ↦ List.append_ne_nil_of_left_ne_nil ha _) hm hn

/-- A positive number is a positive machine word unless it does not fit into one. -/
theorem one_le_ofNat_or {told : Nat} (h : 1 ≤ told) : 1 ≤ UInt64.ofNat told ∨ 2 ^ 64 ≤ told := by
  rcases Nat.lt_or_ge told (2 ^ 64) with hlt | hge
  · left
    rw [UInt64.le_iff_toNat_le, UInt64.toNat_ofNat', Nat.mod_eq_of_lt hlt]
    exact h
  · exact .inr hge

theorem isWellFormed_ofFacts (facts : List Fact) : IsWellFormed facts (ofFacts facts) where
  packages := isTidy_of_mem_packages
  dependencies := target_ne_empty_of_mem_dependencies
  patterns := ne_nil_of_mem_patterns
  frameworks name count h := by
    rw [get?_frameworks_ofFacts, Option.ite_none_right_eq_some, Option.some.injEq] at h
    obtain ⟨hmem, rfl⟩ := h
    exact one_le_ofNat_or (List.count_pos_iff.mpr hmem)
  languageFiles l count h := by
    rw [get?_languageFiles_ofFacts, Option.ite_none_right_eq_some, Option.some.injEq] at h
    obtain ⟨hmem, rfl⟩ := h
    exact one_le_ofNat_or (List.count_pos_iff.mpr hmem)

/-! ## Larger models -/

/-- A counter that stood at `old` has been moved on `told` times and stands at `new`. It is not lower
than before unless it was moved past the end of a machine word. -/
structure MovesOn (old told new : Nat) : Prop where
  eq_mod : new = (old + told) % 2 ^ 64
  le_or : old ≤ new ∨ 2 ^ 64 ≤ old + told

theorem movesOn_of_eq_mod {old told new : Nat} (h : new = (old + told) % 2 ^ 64) :
    MovesOn old told new where
  eq_mod := h
  le_or := by omega

/-- All that `m` holds is in `n` too: no package is missing, and every list of `n` begins with that
of `m`. The counters have moved on by the facts that were told in between. -/
structure Extends (m : Model) (facts : List Fact) (n : Model) : Prop where
  packages : m.packages.keys ⊆ n.packages.keys
  dependencies : m.dependencies <+: n.dependencies
  patterns : ∀ design, m.unitsOf design <+: n.unitsOf design
  schemas : m.schemas <+: n.schemas
  endpoints : m.endpoints <+: n.endpoints
  frameworks : ∀ name, MovesOn (m.frameworkCount name) (facts.count (.framework name)) (n.frameworkCount name)
  languageFiles : ∀ l, MovesOn (m.fileCount l) (facts.count (.file l)) (n.fileCount l)
  classCount : MovesOn m.classCount.toNat (facts.map (·.classCount.toNat)).sum n.classCount.toNat

theorem extends_addAll (m : Model) (facts : List Fact) : Extends m facts (m.addAll facts) where
  packages := by
    rw [addAll_eq_merge_ofFacts]
    exact fun name h ↦ mem_packages_merge.mpr (.inl h)
  dependencies := List.prefix_append ..
  patterns design := by
    rw [addAll_eq_merge_ofFacts, unitsOf_merge]
    exact List.prefix_append ..
  schemas := List.prefix_append ..
  endpoints := List.prefix_append ..
  frameworks name := movesOn_of_eq_mod (frameworkCount_addAll facts m name)
  languageFiles l := movesOn_of_eq_mod (fileCount_addAll facts m l)
  classCount := movesOn_of_eq_mod (classCount_addAll facts m)

/-! ## Models that come about -/

/-- A model becomes another one by any number of operations, in the course of which the facts are
told.  A model that is merged in has come about by such operations from the empty one. -/
inductive Reaches [Grammars] : Model → List Fact → Model → Prop
  /-- Nothing is done. -/
  | refl (m : Model) : Reaches m [] m
  /-- A fact is told: a package, a reference, a framework, a design pattern, a schema, an endpoint, a
  number of classes, or a file that was read. -/
  | add {m n : Model} {facts : List Fact} (fact : Fact) :
      Reaches m facts n → Reaches m (facts ++ [fact]) (n.add fact)
  /-- The recorder of a language reads a unit, and so tells what the analyzer finds in it. -/
  | read {m n : Model} {facts : List Fact} {l : Language} {record : SourceUnit → StateM Model Fidelity}
      {analyze : SourceUnit → Reading} (u : SourceUnit) :
      l.recorder? = some record → l.analyzer? = some analyze → Reaches m facts n →
        Reaches m (facts ++ (analyze u).facts) ((record u).run n).2
  | merge {m n k : Model} {facts more : List Fact} :
      Reaches m facts n → Reaches ∅ more k → Reaches m (facts ++ more) (n.merge k)

/-- In the end all is as if the facts had been told one after the other. -/
theorem Reaches.eq_addAll [Grammars] {m n : Model} {facts : List Fact} (h : Reaches m facts n) :
    n = m.addAll facts := by
  induction h with
  | refl => exact (addAll_nil _).symm
  | add fact _ ih => rw [ih, addAll_append, Model.add]
  | read u hrecord hanalyze _ ih =>
    obtain ⟨analyze, hanalyze', hadds⟩ := Language.exists_analyzer_of_recorder? hrecord
    obtain rfl := Option.some.inj (hanalyze.symm.trans hanalyze')
    rw [(hadds u).run_eq, ih, addAll_append]
  | merge _ _ ih ihk =>
    rw [ih, ihk, addAll_append]
    exact (addAll_eq_merge_ofFacts ..).symm

/-- Whatever comes about from the empty model is well formed, and no operation on any model takes
anything away from it, except that counters wrap around. -/
theorem wellFormed_and_extends [Grammars] :
    (∀ facts m, Reaches ∅ facts m → IsWellFormed facts m) ∧
      ∀ m facts n, Reaches m facts n → Extends m facts n := by
  constructor
  · intro facts m h
    rw [h.eq_addAll]
    exact isWellFormed_ofFacts facts
  · intro m facts n h
    rw [h.eq_addAll]
    exact extends_addAll m facts

/-- A page that includes another one by a name with blanks, read into a model with a blank package, and
a model with a reference to nothing merged in after that. -/
theorem wellFormed_and_extends_blanks :
    let told : Model := (∅ : Model).add (.package "  ")
    let page : SourceUnit := ⟨"a.jsp", .jsp, "<%@ include file=\" b.jsp \" %>"⟩
    let read : Model := ((Jsp.record page).run told).2
    let more : List Fact := [.dependency ⟨"a", "", "use"⟩, .framework "JSTL"]
    let merged : Model := read.merge ((Model.add ∅ (.dependency ⟨"a", "", "use"⟩)).add (.framework "JSTL"))
    merged.packages.keys = ["include: b.jsp"] ∧ merged.dependencies = [] ∧
      IsWellFormed ([.package "  "] ++ (Jsp.analyze page).facts ++ more) merged ∧
      Extends read more merged := by
  intro told page read more merged
  have hread : Reaches ∅ ([.package "  "] ++ (Jsp.analyze page).facts) read :=
    .read (l := .jsp) page rfl rfl (.add _ (.refl ∅))
  have hmerged : Reaches ∅ ([.package "  "] ++ (Jsp.analyze page).facts ++ more) merged :=
    .merge hread (.add _ (.add _ (.refl ∅)))
  have hmore : Reaches read more merged := .merge (.refl read) (.add _ (.add _ (.refl ∅)))
  have hheld : merged.packages.keys = ["include: b.jsp"] ∧ merged.dependencies = [] := by decide +kernel
  exact ⟨hheld.1, hheld.2, wellFormed_and_extends.1 _ merged hmerged,
    wellFormed_and_extends.2 read more merged hmore⟩

/-- A model merged with itself, and the outcome with itself again, so many times. -/
def doubled (m : Model) : Nat → Model
  | 0 => m
  | k + 1 => (m.doubled k).merge (m.doubled k)

theorem exists_reaches_doubled [Grammars] {m : Model} {facts : List Fact} (h : Reaches ∅ facts m) (k : Nat) :
    ∃ facts, Reaches ∅ facts (m.doubled k) := by
  induction k with
  | zero => exact ⟨facts, h⟩
  | succ k ih =>
    obtain ⟨told, htold⟩ := ih
    exact ⟨told ++ told, .merge htold htold⟩

theorem get?_frameworks_doubled {m : Model} {name : String} (h : m.frameworks.get? name = some 1) (k : Nat) :
    (m.doubled k).frameworks.get? name = some (.ofNat (2 ^ k)) := by
  induction k with
  | zero => exact h
  | succ k ih =>
    rw [doubled, Model.merge, SortedMap.get?_mergeWith, ih, Nat.pow_succ, Nat.mul_two, UInt64.ofNat_add]
    rfl

/-- A model with as many classes as can be counted, and one class more: nothing is left of them. And a
model with a framework in it, merged with itself until its count is zero. -/
theorem not_counts_kept :
    let most : Fact := .classes (2 ^ 64 - 1)
    let m : Model := (∅ : Model).add most
    let n : Model := m.add (.classes 1)
    let zero : Model := ((∅ : Model).add (.framework "JSTL")).doubled 64
    (Reaches ∅ [most] m ∧ Reaches m [.classes 1] n ∧ m.classCount.toNat = 2 ^ 64 - 1 ∧ n.classCount = 0) ∧
      (∃ facts, Reaches ∅ facts zero) ∧ zero.frameworks.get? "JSTL" = some 0 := by
  intro most m n zero
  have hjstl : Reaches ∅ [.framework "JSTL"] ((∅ : Model).add (.framework "JSTL")) := .add _ (.refl ∅)
  refine ⟨⟨.add most (.refl ∅), .add _ (.refl m), ?_, ?_⟩, exists_reaches_doubled hjstl 64, ?_⟩
  · decide +kernel
  · decide +kernel
  · rw [get?_frameworks_doubled (by decide +kernel)]
    rfl

end Model

end CodeSurvey
