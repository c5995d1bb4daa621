import CodeSurvey.Proofs.Intake.Unpacking

/-!
# A tighter allowance makes no difference, or it is met

How many bytes a file may have depends on what was unpacked before it.  An allowance
that is tighter because little is left of the total never turns one outcome into
another: either the copy gets past the allowance, and then the unpacking stops, or all
that is read and written is the same, chunk by chunk.
-/

namespace CodeSurvey

open Placement Extraction

/-- Under a lower cap a copy gets past the cap, or it goes as under the higher one. -/
theorem boundedCopy_of_le {σ : Type} (w : Writer σ) {cap cap' : Nat} (hcap : cap ≤ cap')
    (reads : List Read) (written : Nat) (s : σ) :
    (boundedCopy w cap reads written s).1 = .exceeded ∨
      boundedCopy w cap reads written s = boundedCopy w cap' reads written s := by
  induction reads generalizing written s with
  | nil => exact .inr rfl
  | cons read rest ih =>
    cases read with
    | interrupted => exact ih written s
    | failed message => exact .inr rfl
    | bytes chunk =>
      rw [boundedCopy, boundedCopy]
      by_cases hempty : chunk.size = 0
      · rw [if_pos hempty, if_pos hempty]
        exact .inr rfl
      rw [if_neg hempty, if_neg hempty]
      by_cases hmore : cap < written + chunk.size
      · rw [if_pos hmore]
        exact .inl rfl
      have hroom : ¬ cap' < written + chunk.size := fun h ↦ hmore (Nat.lt_of_le_of_lt hcap h)
      rw [if_neg hmore, if_neg hroom]
      rcases w.write s chunk with ⟨s', failure⟩
      cases failure with
      | none => exact ih (written + chunk.size) s'
      | some message => exact .inr rfl

/-- One allowance is that of another, or it is what is left of a total and no more. -/
def Allowance.Tighter (cap cap' : Allowance) : Prop :=
  cap = cap' ∨ cap.boundedByTotal = true ∧ cap.bytes ≤ cap'.bytes

/-- A budget judges headers as another one does, and leaves no more room. -/
structure Budget.Tighter (b b' : Budget) : Prop where
  maxFileSize_eq : b.limits.maxFileSize = b'.limits.maxFileSize
  maxCompressionRatio_eq : b.limits.maxCompressionRatio = b'.limits.maxCompressionRatio
  allowance : b.allowance.Tighter b'.allowance

namespace Budget

/-- Less that is left of the total makes for a tighter allowance. -/
theorem allowance_tighter {b b' : Budget} (hsize : b.limits.maxFileSize = b'.limits.maxFileSize)
    (hleft : b.limits.maxTotalBytes.toNat - b.totalBytes ≤
      b'.limits.maxTotalBytes.toNat - b'.totalBytes) :
    b.allowance.Tighter b'.allowance := by
  unfold allowance
  dsimp only
  rw [hsize]
  split
  next hless =>
    refine .inr ⟨rfl, ?_⟩
    split
    next => exact hleft
    next => exact Nat.le_of_lt hless
  next hroom =>
    rw [if_neg fun h ↦ hroom (Nat.lt_of_le_of_lt hleft h)]
    exact .inl rfl

theorem Tighter.screen_eq {b b' : Budget} (h : b.Tighter b') (unpacked packed : Option Nat) :
    b.screen unpacked packed = b'.screen unpacked packed := by
  unfold screen
  rw [h.maxFileSize_eq, h.maxCompressionRatio_eq]

end Budget

namespace Placement

/-- The content of a file comes to the same under a tighter allowance, unless it gets past
it. -/
theorem ofContent_of_tighter {cap cap' : Allowance} (h : cap.Tighter cap') (dest : Location)
    (reads : List Read) :
    (ofContent dest cap reads).outcome = .stopped .totalBytes ∨
      ofContent dest cap reads = ofContent dest cap' reads := by
  rcases h with rfl | ⟨htotal, hle⟩
  · exact .inr rfl
  -- The flag of an allowance matters only to a copy that has got past it.
  have hsame := boundedCopy_of_le .unlimited hle reads 0 #[]
  rw [ofContent, ofContent]
  rcases hcopy : boundedCopy .unlimited cap.bytes reads 0 #[] with ⟨outcome, chunks⟩
  rw [hcopy] at hsame
  cases outcome with
  | exceeded => exact .inl (by simp only [htotal, if_true])
  | complete size =>
    have heq := hsame.resolve_left nofun
    rw [← heq]
    exact .inr rfl
  | failed message =>
    have heq := hsame.resolve_left nofun
    rw [← heq]
    exact .inr rfl

/-- An entry comes to the same under a tighter budget, unless its file gets past what is
left of the total. -/
theorem ofEntry_of_tighter {b b' : Budget} (h : b.Tighter b') (t : FileTree) (root : Location)
    (e : Entry) :
    (ofEntry t root b e).outcome = .stopped .totalBytes ∨ ofEntry t root b e = ofEntry t root b' e := by
  rw [ofEntry, ofEntry]
  cases EntryName.components e.name with
  | error why => exact .inr rfl
  | ok names =>
    dsimp only
    split
    · exact .inr rfl
    split
    · exact .inr rfl
    rw [h.screen_eq]
    cases b'.screen (some e.declaredSize) (some e.packedSize) with
    | error reason => exact .inr rfl
    | ok _ =>
      dsimp only
      rw [ofFile, ofFile]
      rcases t.makeDirectories root names.dropLast with ⟨changes, failure⟩
      cases failure with
      | some error => exact .inr rfl
      | none =>
        dsimp only
        cases t.openFailure? (root ++ names) with
        | some error => exact .inr rfl
        | none =>
          dsimp only
          rcases ofContent_of_tighter h.allowance (root ++ names) e.reads.get with hout | heq
          · exact .inl hout
          · rw [heq]
            exact .inr rfl

end Placement

end CodeSurvey
