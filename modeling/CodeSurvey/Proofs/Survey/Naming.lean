import CodeSurvey.Proofs.Intake.Placement
import CodeSurvey.Proofs.Survey.Sources
import CodeSurvey.Survey.Basic

/-!
# What a file name says

Unpacking looks at a name to see whether a file is worth writing, and a survey looks at it to see
whether there is an analyzer for it.  They use tables of their own, and do not read the extension of a
hidden file in the same way.  Still, whatever can be analyzed may be unpacked, manifests are in known
languages, and no judgement depends on the case of letters.
-/

namespace CodeSurvey

/-! ## Names that differ in case -/

/-- The upper case letters of ASCII, each with its lower case. -/
def asciiLetters : List (Char × Char) :=
  "ABCDEFGHIJKLMNOPQRSTUVWXYZ".toList.zip "abcdefghijklmnopqrstuvwxyz".toList

/-- The same character, or the two cases of one ASCII letter. -/
def SameButCase (c d : Char) : Prop := c = d ∨ (c, d) ∈ asciiLetters ∨ (d, c) ∈ asciiLetters

instance : DecidableRel SameButCase := fun c d ↦
  inferInstanceAs (Decidable (c = d ∨ (c, d) ∈ asciiLetters ∨ (d, c) ∈ asciiLetters))

/-- Names that differ at most in the case of ASCII letters. -/
def NamedAlike (a b : String) : Prop := List.Forall₂ SameButCase a.toList b.toList

instance : DecidableRel NamedAlike := fun a b ↦
  inferInstanceAs (Decidable (List.Forall₂ SameButCase a.toList b.toList))

theorem toLower_of_mem_asciiLetters : ∀ p ∈ asciiLetters, p.1.toLower = p.2.toLower := by
  decide

theorem SameButCase.toLower_eq {c d : Char} (h : SameButCase c d) : c.toLower = d.toLower := by
  rcases h with rfl | hmem | hmem
  · rfl
  · exact toLower_of_mem_asciiLetters _ hmem
  · exact (toLower_of_mem_asciiLetters _ hmem).symm

theorem NamedAlike.lower_eq {a b : String} (h : NamedAlike a b) :
    Text.lower a.toList = Text.lower b.toList := by
  rw [Text.lower, Text.lower, ← List.forall₂_eq_eq_eq, List.forall₂_map_left_iff, List.forall₂_map_right_iff]
  exact h.imp fun _ _ ↦ SameButCase.toLower_eq

/-- Only the letters themselves count, not their case. -/
theorem NamedAlike.judged_alike {a b : String} (h : NamedAlike a b) :
    Language.ofFileName a = Language.ofFileName b ∧ isManifestName a = isManifestName b ∧
      isWhitelisted a = isWhitelisted b := by
  rw [Language.ofFileName, isManifestName, isWhitelisted, h.lower_eq]
  exact ⟨rfl, rfl, rfl⟩

/-! ## Manifests -/

namespace Language

theorem isKnown_of_mem_manifestNames : ∀ p ∈ manifestNames, p.2.isKnown = true := by
  decide

theorem isKnown_of_isManifestName {name : String} (h : isManifestName name = true) :
    (ofFileName name).isKnown = true := by
  obtain ⟨l, hl⟩ := Option.isSome_iff_exists.mp h
  rw [ofFileName, hl]
  exact isKnown_of_mem_manifestNames _ (mem_of_lookup_eq_some hl)

end Language

/-! ## Entries that would be analyzed -/

/-- Would a survey analyze a file with this content at this place below its root? -/
def Survey.Analyzes (options : SurveyOptions) (names : List String) (content : ByteArray) : Prop :=
  ∃ sighting contribution,
    FileTree.sighting? names (Language.ofFileName (names.getLast?.getD "")) false (.file content) =
      some sighting ∧ outcome options sighting = .analyzed contribution

theorem Survey.Analyzes.isKnown {options : SurveyOptions} {names : List String} {content : ByteArray}
    (h : Analyzes options names content) :
    (Language.ofFileName (names.getLast?.getD "")).isKnown = true := by
  obtain ⟨sighting, -, hsighting, -⟩ := h
  obtain ⟨file, hfile, -⟩ := Option.map_eq_some_iff.mp hsighting
  rw [FileTree.sourceFile?] at hfile
  split at hfile
  next hknown => exact hknown
  next => cases hfile

namespace Placement

variable {t : FileTree} {root : Location} {names : List String}

/-- A directory is not judged by its name. -/
theorem outcome_ofDirectory_ne (t : FileTree) (root : Location) (names : List String) :
    (ofDirectory t root names).outcome ≠ .skipped .notWhitelisted := by
  rw [ofDirectory]
  rcases t.makeDirectories root names with ⟨changes, _ | failure⟩
  · simp
  · simp [skip]

/-- A file that is opened is no longer judged by its name. -/
theorem outcome_ofFile_ne (t : FileTree) (root : Location) (names : List String) (cap : Allowance)
    (reads : Thunk (List Read)) : (ofFile t root names cap reads).outcome ≠ .skipped .notWhitelisted := by
  rw [ofFile]
  rcases t.makeDirectories root names.dropLast with ⟨changes, _ | failure⟩
  · dsimp only
    cases t.openFailure? (root ++ names) with
    | some failure => simp [skip]
    | none =>
      dsimp only
      rcases ofContent_cases (root ++ names) cap reads.get with ⟨-, -, heq⟩ | ⟨_, outcome, -, -, hwhy, heq⟩
      · simp [heq]
      · rw [heq]
        rcases hwhy with ⟨_, -, rfl⟩ | ⟨-, rfl⟩
        · simp
        · cases cap.boundedByTotal <;> simp
  · simp [skip]

theorem screen_ne_notWhitelisted (b : Budget) (unpacked packed : Option Nat) :
    b.screen unpacked packed ≠ .error .notWhitelisted := by
  unfold Budget.screen
  split
  next => simp
  next =>
    split
    next => split <;> simp
    next => simp

/-- Only a file is not whitelisted, and only if its name is not. -/
theorem isWhitelisted_eq_false_of_ofEntry {b : Budget} {e : Entry}
    (hname : EntryName.components e.name = .ok names)
    (h : (ofEntry t root b e).outcome = .skipped .notWhitelisted) :
    isWhitelisted (names.getLast?.getD "") = false := by
  by_contra hallowed
  rw [Bool.not_eq_false] at hallowed
  rw [ofEntry, hname] at h
  dsimp only at h
  split at h
  next => exact outcome_ofDirectory_ne t root names h
  next =>
    rw [hallowed, if_neg (by simp)] at h
    cases hscreen : b.screen (some e.declaredSize) (some e.packedSize) with
    | error reason =>
      rw [hscreen] at h
      obtain rfl : reason = .notWhitelisted := EntryOutcome.skipped.inj h
      exact screen_ne_notWhitelisted b _ _ hscreen
    | ok _ =>
      rw [hscreen] at h
      exact outcome_ofFile_ne t root names b.allowance e.reads h

end Placement

/-- A file in a known language may be unpacked, and a manifest is in a known language.  Names that
differ in case only are judged alike.  So no entry is held back for its name, at whatever point of an
unpacking, if a survey would analyze the file that it leads to. -/
theorem names_judged_consistently :
    (∀ name, (Language.ofFileName name).isKnown = true → isWhitelisted name = true) ∧
    (∀ name, isManifestName name = true → (Language.ofFileName name).isKnown = true) ∧
    (∀ a b, NamedAlike a b → Language.ofFileName a = Language.ofFileName b ∧
      isManifestName a = isManifestName b ∧ isWhitelisted a = isWhitelisted b) ∧
    ∀ (x : Extraction) (root : Location) (e : Entry) (names : List String),
      EntryName.components e.name = .ok names →
      ∀ (options : SurveyOptions) (content : ByteArray), Survey.Analyzes options names content →
        (x.placement root (some e)).outcome ≠ .skipped .notWhitelisted := by
  refine ⟨fun _ ↦ Language.isWhitelisted_of_isKnown, fun _ ↦ Language.isKnown_of_isManifestName,
    fun _ _ ↦ NamedAlike.judged_alike, ?_⟩
  intro x root e names hname options content hanalyzes hskipped
  have hallowed := Language.isWhitelisted_of_isKnown hanalyzes.isKnown
  rw [Placement.isWhitelisted_eq_false_of_ofEntry hname hskipped] at hallowed
  exact nomatch hallowed

/-- A manifest in capital letters, in a directory of an archive. -/
theorem names_judged_consistently_capitals :
    let e : Entry := ⟨"App/GEMFILE", false, 0, 0, ⟨fun _ ↦ []⟩⟩
    let options : SurveyOptions := ⟨Limits.builtin.maxFileSize, 1, []⟩
    let x : Extraction := .start ∅ .builtin
    NamedAlike "GEMFILE" "Gemfile" ∧ Language.ofFileName "GEMFILE" = .ruby ∧
      isWhitelisted "GEMFILE" = true ∧ EntryName.components e.name = .ok ["App", "GEMFILE"] ∧
      Survey.Analyzes options ["App", "GEMFILE"] ByteArray.empty ∧
      (x.placement ["w"] (some e)).outcome ≠ .skipped .notWhitelisted := by
  intro e options x
  obtain ⟨hallowed, hmanifest, hcase, hentry⟩ := names_judged_consistently
  have halike : NamedAlike "GEMFILE" "Gemfile" := by decide
  have hknown := hmanifest "GEMFILE" (by decide)
  have hname : EntryName.components e.name = .ok ["App", "GEMFILE"] := by decide +kernel
  have hanalyzes : Survey.Analyzes options ["App", "GEMFILE"] ByteArray.empty := ⟨_, _, rfl, rfl⟩
  refine ⟨halike, ?_, hallowed "GEMFILE" hknown, hname, hanalyzes, ?_⟩
  · rw [(hcase "GEMFILE" "Gemfile" halike).1]
    decide
  · exact hentry x ["w"] e _ hname options _ hanalyzes

end CodeSurvey
