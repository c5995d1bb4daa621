import CodeSurvey.Model.Modules
import CodeSurvey.Proofs.Model.Contribution
import Mathlib.Data.List.Perm.Basic

/-!
# Merging many models

Models are merged one after the other, from the empty one on.  Merging is associative,
so it does not matter how they are put into groups; and what is a set or a count in a
model does not depend on their order either.  A list of the outcome is made up of the
lists of the models in their order, so another order only rearranges it.
-/

namespace CodeSurvey.Model

theorem add_right_comm_counts (a b c : UInt64) : a + b + c = a + c + b := by
  rw [UInt64.add_assoc, UInt64.add_comm b, ← UInt64.add_assoc]

/-! ## Two models -/

instance : Std.Associative fun _ _ : Unit ↦ () := ⟨fun _ _ _ ↦ rfl⟩

instance : Std.Commutative fun _ _ : Unit ↦ () := ⟨fun _ _ ↦ rfl⟩

theorem empty_merge (m : Model) : (∅ : Model).merge m = m := by
  change (⟨(∅ : SortedSet String).mergeWith _ m.packages, [] ++ m.dependencies,
    (∅ : SortedMap String UInt64).mergeWith _ m.frameworks,
    (∅ : SortedMap String (List String)).mergeWith _ m.patterns, [] ++ m.schemas,
    [] ++ m.endpoints, (∅ : SortedMap Language UInt64).mergeWith _ m.languageFiles,
    0 + m.classCount⟩ : Model) = m
  simp

theorem merge_assoc (l m n : Model) : (l.merge m).merge n = l.merge (m.merge n) := by
  unfold merge
  congr 1
  · exact SortedMap.mergeWith_assoc ..
  · exact List.append_assoc ..
  · exact SortedMap.mergeWith_assoc ..
  · exact SortedMap.mergeWith_assoc ..
  · exact List.append_assoc ..
  · exact List.append_assoc ..
  · exact SortedMap.mergeWith_assoc ..
  · exact UInt64.add_assoc ..

/-- The units that are listed for a design pattern. -/
def unitsOf (design : String) (m : Model) : List String := (m.patterns.get? design).getD []

theorem unitsOf_merge (design : String) (m n : Model) :
    (m.merge n).unitsOf design = m.unitsOf design ++ n.unitsOf design := by
  rw [unitsOf, merge, SortedMap.get?_mergeWith, unitsOf, unitsOf]
  cases m.patterns.get? design <;> cases n.patterns.get? design <;> simp

/-- Is a design pattern listed at all? -/
def lists (design : String) (m : Model) : Bool := (m.patterns.get? design).isSome

theorem lists_merge (design : String) (m n : Model) :
    (m.merge n).lists design = (m.lists design || n.lists design) := by
  rw [lists, merge, SortedMap.get?_mergeWith, Option.isSome_merge]
  rfl

/-! ## Many models -/

/-- Models merged from first to last. -/
def merged (ms : List Model) : Model := ms.foldl merge ∅

/-- A part of a model that merging puts together in a way that allows any order does not
depend on the order of the models. -/
theorem part_merged_perm {α : Type} {part : Model → α} {join : α → α → α}
    (hpart : ∀ m n, part (m.merge n) = join (part m) (part n))
    (hjoin : ∀ a b c, join (join a b) c = join (join a c) b) {ms ns : List Model}
    (h : ms.Perm ns) : part (merged ms) = part (merged ns) := by
  have hfold : ∀ ls : List Model,
      part (merged ls) = ls.foldl (fun a m ↦ join a (part m)) (part ∅) :=
    fun _ ↦ (List.foldl_hom part fun m n ↦ (hpart m n).symm).symm
  rw [hfold, hfold]
  exact h.foldl_eq' (fun m _ n _ a ↦ hjoin a (part m) (part n)) _

/-- A part of a model that merging appends is what the models have of it, one after the
other. -/
theorem part_merged_eq_flatMap {α : Type} {part : Model → List α} (hnil : part ∅ = [])
    (hpart : ∀ m n, part (m.merge n) = part m ++ part n) (ms : List Model) :
    part (merged ms) = ms.flatMap part := by
  have hfold : ∀ m : Model, part (ms.foldl merge m) = part m ++ ms.flatMap part := by
    induction ms with
    | nil => exact fun m ↦ (List.append_nil _).symm
    | cons n rest ih =>
      intro m
      rw [List.foldl_cons, ih, hpart, List.append_assoc, List.flatMap_cons]
  rw [merged, hfold, hnil, List.nil_append]

/-- Every list of `m` is what the models `ms` have of it, one after the other. -/
structure Concatenated (ms : List Model) (m : Model) : Prop where
  dependencies_eq : m.dependencies = ms.flatMap dependencies
  schemas_eq : m.schemas = ms.flatMap schemas
  endpoints_eq : m.endpoints = ms.flatMap endpoints
  unitsOf_eq : ∀ design, m.unitsOf design = ms.flatMap (unitsOf design)

theorem concatenated_merged (ms : List Model) : Concatenated ms (merged ms) where
  dependencies_eq := part_merged_eq_flatMap rfl (fun _ _ ↦ rfl) ms
  schemas_eq := part_merged_eq_flatMap rfl (fun _ _ ↦ rfl) ms
  endpoints_eq := part_merged_eq_flatMap rfl (fun _ _ ↦ rfl) ms
  unitsOf_eq design := part_merged_eq_flatMap rfl (unitsOf_merge design) ms

/-- Models that differ at most in the order of their lists. -/
structure Reordered (m n : Model) : Prop where
  packages_eq : m.packages = n.packages
  frameworks_eq : m.frameworks = n.frameworks
  languageFiles_eq : m.languageFiles = n.languageFiles
  classCount_eq : m.classCount = n.classCount
  modules_eq : m.modules = n.modules
  dependencies_perm : m.dependencies.Perm n.dependencies
  schemas_perm : m.schemas.Perm n.schemas
  endpoints_perm : m.endpoints.Perm n.endpoints
  /-- The same design patterns are listed, each with the same units. -/
  patterns_perm : ∀ design,
    Option.Rel List.Perm (m.patterns.get? design) (n.patterns.get? design)

theorem patterns_merged_perm {ms ns : List Model} (h : ms.Perm ns) (design : String) :
    Option.Rel List.Perm ((merged ms).patterns.get? design) ((merged ns).patterns.get? design) := by
  have hlists : (merged ms).lists design = (merged ns).lists design :=
    part_merged_perm (lists_merge design) Bool.or_right_comm h
  have hunits : ((merged ms).unitsOf design).Perm ((merged ns).unitsOf design) := by
    rw [(concatenated_merged ms).unitsOf_eq, (concatenated_merged ns).unitsOf_eq]
    exact h.flatMap_right _
  unfold lists at hlists
  unfold unitsOf at hunits
  cases hm : (merged ms).patterns.get? design with
  | none =>
    rw [hm] at hlists
    have hn : (merged ns).patterns.get? design = none := by simpa using hlists
    rw [hn]
    exact .none
  | some us =>
    rw [hm] at hlists hunits
    obtain ⟨vs, hn⟩ := Option.isSome_iff_exists.mp hlists.symm
    rw [hn] at hunits ⊢
    exact .some hunits

theorem reordered_merged {ms ns : List Model} (h : ms.Perm ns) :
    Reordered (merged ms) (merged ns) := by
  have hpackages : (merged ms).packages = (merged ns).packages :=
    part_merged_perm (fun _ _ ↦ rfl) (SortedMap.mergeWith_right_comm fun _ _ ↦ ()) h
  have hms := concatenated_merged ms
  have hns := concatenated_merged ns
  constructor
  case packages_eq => exact hpackages
  case frameworks_eq =>
    exact part_merged_perm (fun _ _ ↦ rfl) (SortedMap.mergeWith_right_comm (· + ·)) h
  case languageFiles_eq =>
    exact part_merged_perm (fun _ _ ↦ rfl) (SortedMap.mergeWith_right_comm (· + ·)) h
  case classCount_eq => exact part_merged_perm (fun _ _ ↦ rfl) add_right_comm_counts h
  case modules_eq => rw [modules, hpackages, modules]
  case dependencies_perm =>
    rw [hms.dependencies_eq, hns.dependencies_eq]
    exact h.flatMap_right _
  case schemas_perm =>
    rw [hms.schemas_eq, hns.schemas_eq]
    exact h.flatMap_right _
  case endpoints_perm =>
    rw [hms.endpoints_eq, hns.endpoints_eq]
    exact h.flatMap_right _
  case patterns_perm => exact patterns_merged_perm h

/-- Merging is associative and the empty model changes nothing.  Many models merge into one
whose lists are theirs one after the other, and another order of the models only gives
another order of these lists. -/
theorem merged_order_tolerant :
    (∀ l m n : Model, (l.merge m).merge n = l.merge (m.merge n)) ∧
    (∀ m : Model, (∅ : Model).merge m = m ∧ m.merge ∅ = m) ∧
    (∀ ms, Concatenated ms (merged ms)) ∧
    ∀ ms ns, List.Perm ms ns → Reordered (merged ms) (merged ns) := by
  refine ⟨merge_assoc, fun m ↦ ⟨empty_merge m, merge_empty m⟩, concatenated_merged, ?_⟩
  intro ms ns h
  exact reordered_merged h

/-- Two units of one strategy, read in the two orders. -/
theorem merged_order_tolerant_strategies :
    let a : Model := .ofFacts [.pattern "Strategy" "A", .package "shop", .classes 2]
    let b : Model := .ofFacts [.pattern "Strategy" "B", .package "shop.pay", .framework "Flask"]
    [a, b].Perm [b, a] ∧ Reordered (merged [a, b]) (merged [b, a]) ∧
      (merged [a, b]).unitsOf "Strategy" = ["A", "B"] ∧
      (merged [b, a]).unitsOf "Strategy" = ["B", "A"] := by
  intro a b
  have hswap : [a, b].Perm [b, a] := .swap b a []
  refine ⟨hswap, merged_order_tolerant.2.2.2 _ _ hswap, ?_, ?_⟩
  · decide +kernel
  · decide +kernel

end CodeSurvey.Model
