import CodeSurvey.Recorder.Basic
import Mathlib.Data.List.Basic

/-!
# What recorders add

A recorder is handed a model and could do anything with it.  All recorders here do one thing only: whatever
the model, they add the same facts to it and come to the same end.  Programs of which this is known may be
put together in any way, and the facts that they add are put together alike.
-/

namespace CodeSurvey

/-- Whatever model it is handed, the program ends with `a` and has added `facts`. -/
structure Adds {α : Type} (p : StateM Model α) (a : α) (facts : List Fact) : Prop where
  run_eq : ∀ m : Model, p.run m = (a, m.addAll facts)

namespace Adds

variable {α : Type} {p : StateM Model α} {a : α} {facts more : List Fact}

/-- What comes of it if the model is empty at first. -/
theorem run_empty (h : Adds p a facts) : p.run ∅ = (a, .ofFacts facts) := h.run_eq ∅

theorem tell (fact : Fact) : Adds (tell fact) () [fact] := ⟨fun _ ↦ rfl⟩

theorem pure (a : α) : Adds (pure a) a [] := ⟨fun m ↦ congrArg (a, ·) (Model.addAll_nil m).symm⟩

/-- One program after the other. -/
theorem seq {p : StateM Model Unit} {q : StateM Model α} (hp : Adds p () facts) (hq : Adds q a more) :
    Adds (p >>= fun _ ↦ q) a (facts ++ more) where
  run_eq m := by
    rw [StateT.run_bind, hp.run_eq m, Model.addAll_append, ← hq.run_eq]
    rfl

theorem congr (h : Adds p a facts) (heq : facts = more) : Adds p a more := heq ▸ h

theorem ite {c : Prop} [Decidable c] {q : StateM Model α} (hp : Adds p a facts) (hq : Adds q a more) :
    Adds (if c then p else q) a (if c then facts else more) := by
  split
  · exact hp
  · exact hq

theorem when {p : StateM Model Unit} (c : Bool) (h : Adds p () facts) :
    Adds (when c p) () (if c then facts else []) :=
  h.ite (pure ())

theorem tellWhen (c : Bool) (fact : Fact) :
    Adds (CodeSurvey.when c (CodeSurvey.tell fact)) () (Fact.onlyIf c fact) :=
  (tell fact).when c

/-- One program for each item of a list, from first to last. -/
theorem forM {xs : List α} {q : α → StateM Model Unit} {found : α → List Fact}
    (h : ∀ x, Adds (q x) () (found x)) : Adds (xs.forM q) () (xs.flatMap found) := by
  induction xs with
  | nil => exact pure ()
  | cons x xs ih => exact (h x).seq ih

theorem option {o : Option α} {q : α → StateM Model Unit} {found : α → List Fact}
    (h : ∀ x, Adds (q x) () (found x)) : Adds (o.forM q) () (o.toList.flatMap found) := by
  cases o with
  | none => exact pure ()
  | some x => exact (h x).congr (List.append_nil _).symm

/-- One fact for each item of a list. -/
theorem each {xs : List α} {found : α → Fact} :
    Adds (xs.forM fun x ↦ CodeSurvey.tell (found x)) () (xs.map found) :=
  (forM fun x ↦ tell (found x)).congr List.map_eq_flatMap.symm

theorem tellSome {o : Option α} {found : α → Fact} :
    Adds (o.forM fun x ↦ CodeSurvey.tell (found x)) () (o.toList.map found) :=
  (option fun x ↦ tell (found x)).congr List.map_eq_flatMap.symm

/-- One fact where two things are found, and none where either is missing. -/
theorem tellBoth {β : Type} {o : Option α} {o' : Option β} {found : α → β → Fact} :
    Adds (o.forM fun x ↦ o'.forM fun y ↦ CodeSurvey.tell (found x y)) ()
      (do let x ← o; let y ← o'; return found x y : Option Fact).toList := by
  refine (option fun _ ↦ option fun _ ↦ tell _).congr ?_
  cases o <;> cases o' <;> rfl

/-- At most one fact for each item of a list. -/
theorem eachSome {xs : List α} {q : α → StateM Model Unit} {found? : α → Option Fact}
    (h : ∀ x, Adds (q x) () (found? x).toList) : Adds (xs.forM q) () (xs.filterMap found?) :=
  (forM h).congr (List.filterMap_eq_flatMap_toList ..).symm

/-- One fact for each item of a list that passes a test. -/
theorem filtered {xs : List α} {c : α → Bool} {found : α → Fact} :
    Adds (xs.forM fun x ↦ CodeSurvey.when (c x) (CodeSurvey.tell (found x))) () ((xs.filter c).map found) := by
  refine (forM fun x ↦ tellWhen (c x) (found x)).congr ?_
  induction xs with
  | nil => rfl
  | cons x xs ih =>
    rw [List.flatMap_cons, ih, List.filter_cons]
    cases c x <;> rfl

end Adds

section

variable (text : List Char)

theorem adds_recordFrameworks (rules : List FrameworkRule) :
    Adds (recordFrameworks text rules) () (frameworksIn text rules) :=
  .filtered

theorem adds_recordDesigns (fileName unitName : String) (rules : List DesignRule) :
    Adds (recordDesigns fileName unitName text rules) () (designsIn fileName unitName text rules) :=
  .filtered

theorem adds_recordSigns (unitName : String) (signs : List (String × Bool)) :
    Adds (recordSigns unitName signs) () ((signs.filter (·.2)).map fun (name, _) ↦ .pattern name unitName) :=
  .filtered

theorem adds_recordTables (p : Pattern) (origin : String) :
    Adds (recordTables p text origin) () (tablesIn p text origin) :=
  .each

theorem adds_recordMethodRoutes (p : Pattern) (framework : String) :
    Adds (recordMethodRoutes p text framework) () (methodRoutesIn p text framework) :=
  .eachSome fun _ ↦ .tellBoth

theorem adds_recordPathRoutes (p : Pattern) (label framework : String) :
    Adds (recordPathRoutes p text label framework) () (pathRoutesIn p text label framework) :=
  .each

end

end CodeSurvey
