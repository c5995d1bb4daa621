import CodeSurvey.Intake.BoundedCopy

/-!
# What a bounded copy takes over

A list of reads stands for a stream of bytes and an ending: either there are no
more bytes, or reading fails.  Copying under a cap hands on a beginning of the
stream that fits under the cap.  It is complete exactly if the stream ends well
and fits as a whole.
-/

namespace CodeSurvey

/-- The bytes of chunks, one after the other. -/
def joined (chunks : List ByteArray) : ByteArray := chunks.foldl (· ++ ·) .empty

/-- How many bytes there are in chunks. -/
def totalSize (chunks : List ByteArray) : Nat := (chunks.map ByteArray.size).sum

@[simp] theorem totalSize_nil : totalSize [] = 0 := rfl

@[simp] theorem totalSize_cons (chunk : ByteArray) (rest : List ByteArray) :
    totalSize (chunk :: rest) = chunk.size + totalSize rest := rfl

theorem size_foldl_append (chunks : List ByteArray) (start : ByteArray) :
    (chunks.foldl (· ++ ·) start).size = start.size + totalSize chunks := by
  induction chunks generalizing start with
  | nil => rfl
  | cons chunk rest ih => rw [List.foldl_cons, ih, ByteArray.size_append, totalSize_cons, Nat.add_assoc]

theorem foldl_append_eq (chunks : List ByteArray) (start : ByteArray) :
    chunks.foldl (· ++ ·) start = start ++ joined chunks := by
  induction chunks generalizing start with
  | nil => exact ByteArray.append_empty.symm
  | cons chunk rest ih =>
    rw [joined, List.foldl_cons, List.foldl_cons, ih, ih (.empty ++ chunk), ByteArray.empty_append,
      ByteArray.append_assoc]

theorem joined_append (chunks more : List ByteArray) :
    joined (chunks ++ more) = joined chunks ++ joined more := by
  rw [joined, List.foldl_append, foldl_append_eq]
  rfl

theorem size_joined (chunks : List ByteArray) : (joined chunks).size = totalSize chunks := by
  rw [joined, size_foldl_append]
  exact Nat.zero_add _

namespace Read

/-- The chunks that reads bring before they end. -/
def delivered : List Read → List ByteArray
  | [] => []
  | interrupted :: rest => delivered rest
  | failed _ :: _ => []
  | bytes chunk :: rest => if chunk.size = 0 then [] else chunk :: delivered rest

/-- The failure with which reads end, if they do not end well. -/
def failure? : List Read → Option String
  | [] => none
  | interrupted :: rest => failure? rest
  | failed message :: _ => some message
  | bytes chunk :: rest => if chunk.size = 0 then none else failure? rest

/-- All bytes that reads bring before they end. -/
def stream (reads : List Read) : ByteArray := joined (delivered reads)

theorem size_stream (reads : List Read) : (stream reads).size = totalSize (delivered reads) :=
  size_joined _

end Read

/-- What copying reads under a cap comes to, after `written` bytes have been
copied: the outcome, and the chunks that were handed on. -/
inductive Copied (cap : Nat) (reads : List Read) (written : Nat) :
    CopyOutcome → List ByteArray → Prop
  /-- The stream ended well, and all of it was copied. -/
  | complete : Read.failure? reads = none → written + totalSize (Read.delivered reads) ≤ cap →
      Copied cap reads written (.complete (written + totalSize (Read.delivered reads)))
        (Read.delivered reads)
  /-- The stream has more bytes than the cap allows. -/
  | exceeded {kept : List ByteArray} : kept <+: Read.delivered reads → written + totalSize kept ≤ cap →
      cap < written + totalSize (Read.delivered reads) → Copied cap reads written .exceeded kept
  /-- Reading failed after the last byte. -/
  | failed {message : String} : Read.failure? reads = some message →
      written + totalSize (Read.delivered reads) ≤ cap →
      Copied cap reads written (.failed message) (Read.delivered reads)

namespace Copied

variable {cap written : Nat} {rest : List Read} {outcome : CopyOutcome} {kept : List ByteArray}

theorem interrupted (h : Copied cap rest written outcome kept) :
    Copied cap (.interrupted :: rest) written outcome kept := by
  cases h with
  | complete hend hcap => exact .complete hend hcap
  | exceeded hpre hcap hmore => exact .exceeded hpre hcap hmore
  | failed hend hcap => exact .failed hend hcap

/-- A chunk that fits goes in front of what is copied after it. -/
theorem cons {chunk : ByteArray} (hne : chunk.size ≠ 0)
    (h : Copied cap rest (written + chunk.size) outcome kept) :
    Copied cap (.bytes chunk :: rest) written outcome (chunk :: kept) := by
  have hdelivered : Read.delivered (.bytes chunk :: rest) = chunk :: Read.delivered rest :=
    if_neg hne
  have hfailure : Read.failure? (.bytes chunk :: rest) = Read.failure? rest := if_neg hne
  have hsize (chunks : List ByteArray) :
      written + chunk.size + totalSize chunks = written + totalSize (chunk :: chunks) := by
    rw [totalSize_cons, Nat.add_assoc]
  cases h with
  | complete hend hcap =>
    rw [hsize, ← hdelivered] at hcap ⊢
    exact .complete (hfailure ▸ hend) hcap
  | exceeded hpre hcap hmore =>
    rw [hsize] at hcap hmore
    refine .exceeded ?_ hcap (hdelivered ▸ hmore)
    rw [hdelivered]
    exact List.cons_prefix_cons.mpr ⟨rfl, hpre⟩
  | failed hend hcap =>
    rw [hsize, ← hdelivered] at hcap
    rw [← hdelivered]
    exact .failed (hfailure ▸ hend) hcap

end Copied

/-! ## Handing chunks to a writer -/

namespace Writer

variable {σ : Type}

/-- Does a writer take whatever it is handed? -/
def TakesAll (w : Writer σ) : Prop := ∀ s chunk, (w.write s chunk).2 = none

theorem takesAll_unlimited : unlimited.TakesAll := fun _ _ ↦ rfl

/-- What chunks make of a place to put bytes. -/
def put (w : Writer σ) (s : σ) (chunks : List ByteArray) : σ :=
  chunks.foldl (fun s chunk ↦ (w.write s chunk).1) s

theorem put_unlimited (held : Array ByteArray) (chunks : List ByteArray) :
    (unlimited.put held chunks).toList = held.toList ++ chunks := by
  induction chunks generalizing held with
  | nil => exact (List.append_nil _).symm
  | cons chunk rest ih =>
    have hput : unlimited.put held (chunk :: rest) = unlimited.put (held.push chunk) rest := rfl
    rw [hput, ih, Array.toList_push, List.append_assoc, List.singleton_append]

/-- Hands everything on to another writer, and notes the chunks. -/
def noting (w : Writer σ) : Writer (σ × List ByteArray) where
  write s chunk := (((w.write s.1 chunk).1, s.2 ++ [chunk]), (w.write s.1 chunk).2)

end Writer

/-- What copying reads to a writer comes to, after `written` bytes have been copied, if the
chunks that are handed on are `kept`. -/
structure HandsOn {σ : Type} (w : Writer σ) (cap : Nat) (reads : List Read) (written : Nat) (s : σ)
    (kept : List ByteArray) : Prop where
  /-- To take notes makes no difference but for the notes. -/
  noted : ∀ noted, boundedCopy w.noting cap reads written (s, noted) =
    ((boundedCopy w cap reads written s).1, (boundedCopy w cap reads written s).2, noted ++ kept)
  put : (boundedCopy w cap reads written s).2 = w.put s kept
  isPrefix : kept <+: Read.delivered reads
  fits : written + totalSize kept ≤ cap
  copied : w.TakesAll → Copied cap reads written (boundedCopy w cap reads written s).1 kept

namespace HandsOn

variable {σ : Type} {w : Writer σ} {cap written : Nat} {rest : List Read} {chunk : ByteArray} {s held : σ}
  {kept : List ByteArray} {message : String}

theorem nil (hcap : written ≤ cap) : HandsOn w cap [] written s [] where
  noted noted := by simp [boundedCopy]
  put := rfl
  isPrefix := List.nil_prefix
  fits := hcap
  copied _ := .complete rfl hcap

theorem interrupted (h : HandsOn w cap rest written s kept) :
    HandsOn w cap (.interrupted :: rest) written s kept where
  noted := h.noted
  put := h.put
  isPrefix := h.isPrefix
  fits := h.fits
  copied hall := (h.copied hall).interrupted

theorem failed (hcap : written ≤ cap) (message : String) (rest : List Read) :
    HandsOn w cap (.failed message :: rest) written s [] where
  noted noted := by simp [boundedCopy]
  put := rfl
  isPrefix := List.nil_prefix
  fits := hcap
  copied _ := .failed rfl hcap

/-- No bytes mean that there are no more. -/
theorem last (hcap : written ≤ cap) (hempty : chunk.size = 0) (rest : List Read) :
    HandsOn w cap (.bytes chunk :: rest) written s [] where
  noted noted := by simp [boundedCopy, hempty]
  put := by rw [boundedCopy, if_pos hempty]; rfl
  isPrefix := List.nil_prefix
  fits := hcap
  copied _ := by
    have hdelivered : Read.delivered (.bytes chunk :: rest) = [] := if_pos hempty
    have hcopied : Copied cap (.bytes chunk :: rest) written
        (.complete (written + totalSize (Read.delivered (.bytes chunk :: rest))))
        (Read.delivered (.bytes chunk :: rest)) :=
      .complete (if_pos hempty) (by rw [hdelivered]; exact hcap)
    rw [boundedCopy, if_pos hempty]
    rwa [hdelivered] at hcopied

/-- A chunk that would go past the cap is handed to nobody. -/
theorem exceeded (hcap : written ≤ cap) (hne : chunk.size ≠ 0) (hmore : cap < written + chunk.size)
    (rest : List Read) : HandsOn w cap (.bytes chunk :: rest) written s [] where
  noted noted := by simp [boundedCopy, hne, hmore]
  put := by rw [boundedCopy, if_neg hne, if_pos hmore]; rfl
  isPrefix := List.nil_prefix
  fits := hcap
  copied _ := by
    have hdelivered : Read.delivered (.bytes chunk :: rest) = chunk :: Read.delivered rest := if_neg hne
    rw [boundedCopy, if_neg hne, if_pos hmore]
    exact .exceeded List.nil_prefix hcap (by rw [hdelivered, totalSize_cons]; omega)

/-- A writer that fails was handed the chunk all the same. -/
theorem refused (hne : chunk.size ≠ 0) (hroom : written + chunk.size ≤ cap)
    (hwrite : w.write s chunk = (held, some message)) (rest : List Read) :
    HandsOn w cap (.bytes chunk :: rest) written s [chunk] where
  noted noted := by simp [boundedCopy, hne, Nat.not_lt_of_le hroom, Writer.noting, hwrite]
  put := by simp [boundedCopy, hne, Nat.not_lt_of_le hroom, Writer.put, hwrite]
  isPrefix := by
    rw [Read.delivered, if_neg hne]
    exact List.cons_prefix_cons.mpr ⟨rfl, List.nil_prefix⟩
  fits := hroom
  copied hall := nomatch (congrArg Prod.snd hwrite).symm.trans (hall s chunk)

/-- A chunk that is taken goes in front of what is handed on after it. -/
theorem cons (hne : chunk.size ≠ 0) (hroom : written + chunk.size ≤ cap)
    (hwrite : w.write s chunk = (held, none)) (h : HandsOn w cap rest (written + chunk.size) held kept) :
    HandsOn w cap (.bytes chunk :: rest) written s (chunk :: kept) := by
  have hstep : boundedCopy w cap (.bytes chunk :: rest) written s =
      boundedCopy w cap rest (written + chunk.size) held := by
    simp [boundedCopy, hne, Nat.not_lt_of_le hroom, hwrite]
  refine ⟨fun noted ↦ ?_, ?_, ?_, ?_, fun hall ↦ ?_⟩
  · have hnoted := h.noted (noted ++ [chunk])
    rw [List.append_assoc, List.singleton_append] at hnoted
    rw [hstep, ← hnoted]
    simp [boundedCopy, hne, Nat.not_lt_of_le hroom, Writer.noting, hwrite]
  · rw [hstep, h.put, Writer.put, Writer.put, List.foldl_cons, hwrite]
  · rw [Read.delivered, if_neg hne]
    exact List.cons_prefix_cons.mpr ⟨rfl, h.isPrefix⟩
  · rw [totalSize_cons, ← Nat.add_assoc]
    exact h.fits
  · rw [hstep]
    exact (h.copied hall).cons hne

end HandsOn

/-- Any writer is handed the first chunks of a stream, as far as they fit. -/
theorem exists_handsOn {σ : Type} (w : Writer σ) {cap written : Nat} (hcap : written ≤ cap)
    (reads : List Read) (s : σ) : ∃ kept, HandsOn w cap reads written s kept := by
  induction reads generalizing written s with
  | nil => exact ⟨[], .nil hcap⟩
  | cons read rest ih =>
    cases read with
    | interrupted =>
      obtain ⟨kept, h⟩ := ih hcap s
      exact ⟨kept, h.interrupted⟩
    | failed message => exact ⟨[], .failed hcap message rest⟩
    | bytes chunk =>
      by_cases hempty : chunk.size = 0
      · exact ⟨[], .last hcap hempty rest⟩
      by_cases hmore : cap < written + chunk.size
      · exact ⟨[], .exceeded hcap hempty hmore rest⟩
      have hroom := Nat.le_of_not_lt hmore
      rcases hwrite : w.write s chunk with ⟨held, _ | message⟩
      · obtain ⟨kept, h⟩ := ih hroom held
        exact ⟨chunk :: kept, h.cons hempty hroom hwrite⟩
      · exact ⟨[chunk], .refused hempty hroom hwrite rest⟩

/-- Copying to a writer that takes everything comes to what `Copied` says. -/
theorem copied_boundedCopy {cap written : Nat} (hcap : written ≤ cap) (reads : List Read)
    (held : Array ByteArray) :
    ∃ kept, (boundedCopy .unlimited cap reads written held).2.toList = held.toList ++ kept ∧
      Copied cap reads written (boundedCopy .unlimited cap reads written held).1 kept := by
  obtain ⟨kept, h⟩ := exists_handsOn .unlimited hcap reads held
  refine ⟨kept, ?_, h.copied Writer.takesAll_unlimited⟩
  rw [h.put, Writer.put_unlimited]

end CodeSurvey
