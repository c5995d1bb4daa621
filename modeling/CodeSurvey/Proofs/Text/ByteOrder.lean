import CodeSurvey.FileTree.Basic
import Mathlib.Tactic.ByContra
import Mathlib.Tactic.SplitIfs

/-!
# The order of names, byte by byte

Names are compared character by character.  An operating system that knows nothing of
characters compares the bytes of their encodings instead, and this is the same order:
the encoding of a smaller character is smaller in the first byte in which the two differ.
-/

namespace CodeSurvey

theorem toNat_val_lt (c : Char) : c.val.toNat < 0x110000 := by
  rcases c.valid with hlow | ⟨-, hhigh⟩
  · exact Nat.lt_trans hlow (by decide)
  · exact hhigh

/-- Of two texts the one with the smaller first character has the smaller encoding. -/
theorem utf8EncodeChar_append_lt {c d : Char} (h : c < d) (xs ys : List UInt8) :
    String.utf8EncodeChar c ++ xs < String.utf8EncodeChar d ++ ys := by
  have hlt : c.val.toNat < d.val.toNat := h
  have hmax := toNat_val_lt d
  unfold String.utf8EncodeChar
  dsimp only
  generalize c.val.toNat = v at *
  generalize d.val.toNat = w at *
  -- One case for each two numbers of bytes; the first byte tells the numbers apart.
  split_ifs
  all_goals
    simp (disch := omega) only [List.cons_append, List.nil_append, List.cons_lt_cons_iff,
      UInt8.lt_iff_toNat_lt, ← UInt8.toNat_inj, UInt8.toNat_ofNat', Nat.mod_eq_of_lt]
    omega

/-- The bytes of the encodings of characters. -/
def encoding (cs : List Char) : List UInt8 := cs.flatMap String.utf8EncodeChar

theorem encoding_lt_of_lt {cs ds : List Char} (h : cs < ds) : encoding cs < encoding ds := by
  induction cs generalizing ds with
  | nil =>
    cases ds with
    | nil => exact absurd h (List.lt_irrefl _)
    | cons d ds =>
      have hne : encoding (d :: ds) ≠ [] := by simp [encoding]
      obtain ⟨b, bs, heq⟩ := List.exists_cons_of_ne_nil hne
      rw [heq]
      exact List.nil_lt_cons b bs
  | cons c cs ih =>
    cases ds with
    | nil => exact nomatch h
    | cons d ds =>
      rcases List.cons_lt_cons_iff.mp h with hlt | ⟨rfl, hlt⟩
      · exact utf8EncodeChar_append_lt hlt _ _
      · exact List.append_left_lt (ih hlt)

theorem encoding_lt_iff {cs ds : List Char} : encoding cs < encoding ds ↔ cs < ds := by
  refine ⟨fun h ↦ ?_, encoding_lt_of_lt⟩
  by_contra hnot
  rcases List.le_iff_lt_or_eq.mp (List.not_lt.mp hnot) with hgt | rfl
  · exact absurd h (List.lt_asymm (encoding_lt_of_lt hgt))
  · exact absurd h (List.lt_irrefl _)

/-- The bytes of a name. -/
def nameBytes (name : String) : List UInt8 := name.toUTF8.data.toList

theorem nameBytes_eq (name : String) : nameBytes name = encoding name.toList := by
  rw [nameBytes, String.toUTF8, ← String.utf8Encode_toList, List.utf8Encode, List.toList_data_toByteArray]
  rfl

/-- Names are in the order of their bytes. -/
theorem nameBytes_lt_iff {a b : String} : nameBytes a < nameBytes b ↔ a < b := by
  rw [nameBytes_eq, nameBytes_eq, encoding_lt_iff, String.lt_iff]

theorem nameBytes_inj {a b : String} : nameBytes a = nameBytes b ↔ a = b := by
  refine ⟨fun h ↦ String.toByteArray_inj.mp ?_, congrArg nameBytes⟩
  exact ByteArray.ext (Array.toList_inj.mp h)

/-- Locations are in the order of their names, each compared byte by byte. -/
theorem map_nameBytes_lt_iff {a b : Location} : a.map nameBytes < b.map nameBytes ↔ a < b := by
  induction a generalizing b with
  | nil => cases b <;> simp
  | cons name a ih =>
    cases b with
    | nil => simp
    | cons name' b =>
      rw [List.map_cons, List.map_cons, List.cons_lt_cons_iff, List.cons_lt_cons_iff,
        nameBytes_lt_iff, nameBytes_inj, ih]

end CodeSurvey
