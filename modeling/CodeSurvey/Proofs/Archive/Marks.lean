import CodeSurvey.Archive.Content
import CodeSurvey.Proofs.Json.Printed
import CodeSurvey.Proofs.Text.ByteOrder

/-!
# Archives have marks

An archive ends with a record that begins with a mark, and the mark has a control character in it.
So what holds plain characters only is no archive, and the text of a JSON value is none.
-/

namespace CodeSurvey

/-- Only the characters of one byte have a byte below 128 in their encodings. -/
theorem toNat_of_mem_utf8EncodeChar {c : Char} {b : UInt8} (h : b ∈ String.utf8EncodeChar c)
    (hb : b.toNat < 128) : c.toNat = b.toNat := by
  have hmax := toNat_val_lt c
  have hval : c.toNat = c.val.toNat := rfl
  unfold String.utf8EncodeChar at h
  dsimp only at h
  rw [hval]
  generalize c.val.toNat = v at *
  split_ifs at h
  all_goals
    simp only [List.mem_cons, List.not_mem_nil, or_false] at h
    rcases h with rfl | rfl | rfl | rfl <;> simp only [UInt8.toNat_ofNat'] at hb ⊢ <;> omega

namespace Archive

theorem littleEndian_succ_eq_ok {data : ByteArray} {pos n m : Nat}
    (h : littleEndian data pos (n + 1) = .ok m) : ∃ b ∈ data.data.toList, ∃ rest,
      littleEndian data (pos + 1) n = .ok rest ∧ m = b.toNat + 256 * rest := by
  rw [littleEndian] at h
  split at h
  next hpos =>
    cases hrest : littleEndian data (pos + 1) n with
    | error e =>
      rw [hrest] at h
      cases h
    | ok rest =>
      rw [hrest] at h
      refine ⟨data[pos], ?_, rest, rfl, (Except.ok.inj h).symm⟩
      exact Array.mem_toList_iff.mpr (Array.getElem_mem hpos)
  next => cases h

/-- The third byte of the mark of an end record. -/
def markByte : UInt8 := 5

theorem markByte_mem_of_littleEndian {data : ByteArray} {pos : Nat}
    (h : littleEndian data pos 4 = .ok 0x06054B50) : markByte ∈ data.data.toList := by
  obtain ⟨b, -, rest, h, hb⟩ := littleEndian_succ_eq_ok h
  obtain ⟨b', -, rest', h, hb'⟩ := littleEndian_succ_eq_ok h
  obtain ⟨mark, hmark, rest'', -, hb''⟩ := littleEndian_succ_eq_ok h
  have hlt := b.toNat_lt
  have hlt' := b'.toNat_lt
  have hlt'' := mark.toNat_lt
  have heq : mark = markByte := UInt8.toNat_inj.mp (show mark.toNat = 5 by omega)
  exact heq ▸ hmark

theorem findEndRecord_eq_error {data : ByteArray} (h : markByte ∉ data.data.toList) (reach pos : Nat) :
    ∃ e, findEndRecord data reach pos = .error e := by
  fun_induction findEndRecord data reach pos with
  | case1 reach pos e => exact ⟨e, rfl⟩
  | case2 reach pos hmark => exact absurd (markByte_mem_of_littleEndian hmark) h
  | case3 _ _ _ _ _ ih => exact ih
  | case4 => exact ⟨_, rfl⟩

/-- What has no such byte is no archive. -/
theorem entries_eq_error {data : ByteArray} (h : markByte ∉ data.data.toList) (enough : Nat) :
    ∃ e, entries data enough = .error e := by
  have hend : ∃ e, endRecord data = .error e := by
    obtain ⟨e, he⟩ := findEndRecord_eq_error h max16 (data.size - endRecordSize)
    rw [endRecord]
    split
    · exact ⟨_, rfl⟩
    · rw [he]
      exact ⟨e, rfl⟩
  obtain ⟨e, he⟩ := hend
  rw [entries, directory, he]
  exact ⟨e, rfl⟩

/-- The text of a JSON value is no archive. -/
theorem entries_text_eq_error (j : Json String) (enough : Nat) :
    ∃ e, entries j.text.toUTF8 enough = .error e := by
  refine entries_eq_error (fun hmem ↦ ?_) enough
  have hencoded : markByte ∈ encoding j.text.toList := nameBytes_eq j.text ▸ hmem
  obtain ⟨c, hc, hbyte⟩ := List.mem_flatMap.mp hencoded
  have hcode : c.toNat = 5 := toNat_of_mem_utf8EncodeChar hbyte (by decide)
  have hplain := Json.isPrinted_text j c hc
  rw [Json.isPlain, hcode] at hplain
  obtain rfl : c = '\n' := by simpa using hplain
  cases hcode

end Archive

end CodeSurvey
