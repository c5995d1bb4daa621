import CodeSurvey.Size
import CodeSurvey.Proofs.Text.Pieces
import Mathlib.Algebra.Order.Field.Rat
import Mathlib.Data.Nat.Digits.Lemmas
import Mathlib.Tactic.Linarith
import Mathlib.Tactic.Ring

/-!
# Sizes as they are read

A printed size is read as a number of some unit.  It is never less than one of the unit, and
as near to the number of bytes as one decimal allows.  But the unit is chosen before the number is
rounded: just below a power of 1024 the number is rounded up to 1024, although the next unit would
be there for it.
-/

namespace CodeSurvey.Size

/-! ## Rounding -/

section Rounding

variable {n d : Nat}

/-- A rounded quotient is at most one half away. -/
theorem divRound_near (hd : 0 < d) (n : Nat) :
    2 * (d * divRound n d) ≤ 2 * n + d ∧ 2 * n ≤ 2 * (d * divRound n d) + d := by
  have hdiv := Nat.div_add_mod n d
  have hmod := Nat.mod_lt n hd
  simp only [divRound]
  split
  next hup =>
    simp only [Bool.or_eq_true, Bool.and_eq_true, beq_iff_eq, decide_eq_true_iff] at hup
    rw [Nat.mul_add, Nat.mul_one]
    omega
  next hdown =>
    simp only [Bool.or_eq_true, Bool.and_eq_true, beq_iff_eq, decide_eq_true_iff] at hdown
    omega

theorem div_le_divRound (n d : Nat) : n / d ≤ divRound n d := by
  simp only [divRound]
  split
  · exact Nat.le_succ _
  · exact Nat.le_refl _

/-- A number of at most 53 bits is kept. -/
theorem significant_eq_self (h : n < 2 ^ 53) : significant n = n := by
  have hexcess : n.log2 + 1 - 53 = 0 := by
    rcases Nat.eq_zero_or_pos n with rfl | hpos
    · rfl
    · have hlog := (Nat.log2_lt hpos.ne').mpr h
      omega
  rw [significant, hexcess]
  simp [divRound, Nat.mod_one]

/-- A number of more bits keeps its first one. -/
theorem le_significant (h : 2 ^ 53 ≤ n) : 2 ^ 53 ≤ significant n := by
  have hne : n ≠ 0 := by
    rintro rfl
    exact absurd h (by decide)
  have hlog : 53 ≤ n.log2 := (Nat.le_log2 hne).mpr h
  have hbits : n.log2 = 52 + (n.log2 + 1 - 53) := by omega
  have hfirst : 2 ^ 52 ≤ n / 2 ^ (n.log2 + 1 - 53) := by
    rw [Nat.le_div_iff_mul_le (Nat.two_pow_pos _), ← Nat.pow_add, ← hbits]
    exact Nat.log2_self_le hne
  calc 2 ^ 53 ≤ 2 ^ n.log2 := Nat.pow_le_pow_right (by decide) hlog
    _ = 2 ^ 52 * 2 ^ (n.log2 + 1 - 53) := by rw [← Nat.pow_add, ← hbits]
    _ ≤ significant n := Nat.mul_le_mul_right _ (hfirst.trans (div_le_divRound ..))

end Rounding

/-! ## Reading a printed size -/

/-- What a number may be a number of. -/
inductive ByteUnit where
  | byte | kilo | mega | giga | tera
deriving DecidableEq, Repr

namespace ByteUnit

def name : ByteUnit → String
  | byte => "B"
  | kilo => "KB"
  | mega => "MB"
  | giga => "GB"
  | tera => "TB"

/-- How many bytes one of it is. -/
def size : ByteUnit → Nat
  | byte => 1
  | kilo => 1024
  | mega => 1024 ^ 2
  | giga => 1024 ^ 3
  | tera => 1024 ^ 4

theorem name_injective : Function.Injective name := by
  intro u v h
  cases u <;> cases v <;> first | rfl | exact absurd h (by decide)

end ByteUnit

/-- A number with at most one decimal, and what it is a number of. -/
structure Amount where
  whole : Nat
  tenth? : Option (Fin 10)
  unit : ByteUnit

namespace Amount

def written (a : Amount) : String :=
  toString a.whole ++ a.tenth?.elim "" (fun tenth ↦ "." ++ toString tenth.val) ++ " " ++ a.unit.name

def number (a : Amount) : ℚ := a.whole + a.tenth?.elim 0 fun tenth ↦ (tenth.val : ℚ) / 10

/-- A number of tenths, as a number with one decimal. -/
def ofTenths (tenths : Nat) (u : ByteUnit) : Amount :=
  ⟨tenths / 10, some ⟨tenths % 10, Nat.mod_lt _ (by decide)⟩, u⟩

theorem number_ofTenths (tenths : Nat) (u : ByteUnit) : (ofTenths tenths u).number = tenths / 10 := by
  have hparts : (tenths : ℚ) = 10 * (tenths / 10 : Nat) + (tenths % 10 : Nat) := by
    exact_mod_cast (Nat.div_add_mod tenths 10).symm
  rw [hparts, number, ofTenths, Option.elim_some]
  ring

/-- What is written behind the whole number. -/
def tail (a : Amount) : List Char :=
  a.tenth?.elim [] (fun tenth ↦ '.' :: (toString tenth.val).toList) ++ ' ' :: a.unit.name.toList

theorem toList_written (a : Amount) : a.written.toList = (toString a.whole).toList ++ a.tail := by
  obtain ⟨whole, tenth?, unit⟩ := a
  have hspace : " ".toList = [' '] := rfl
  have hpoint : ".".toList = ['.'] := rfl
  cases tenth? with
  | none => simp [written, tail, hspace]
  | some tenth => simp [written, tail, hspace, hpoint]

/-- A written number has digits only, and they tell the number. -/
theorem digits_toString (n : Nat) :
    (∀ c ∈ (toString n).toList, (!c.isDigit) = false) ∧ Nat.ofDigitChars 10 (toString n).toList 0 = n := by
  rw [Nat.toString_eq_ofList_toDigits, String.toList_ofList]
  refine ⟨fun c hc ↦ ?_, Nat.ofDigitChars_ten_toDigits⟩
  rw [Nat.isDigit_of_mem_toDigits (by decide) (by decide) hc, Bool.not_true]

/-- There is one way to cut a text behind a number. -/
theorem number_unique {m n : Nat} {c d : Char} {s t : List Char} (hc : (!c.isDigit) = true)
    (hd : (!d.isDigit) = true) (h : (toString m).toList ++ c :: s = (toString n).toList ++ d :: t) :
    m = n ∧ c = d ∧ s = t := by
  obtain ⟨hm, hvalue⟩ := digits_toString m
  obtain ⟨hn, hvalue'⟩ := digits_toString n
  obtain ⟨hdigits, hcd, hst⟩ := Text.first_sep_unique hm hc hn hd h
  exact ⟨by rw [← hvalue, hdigits, hvalue'], hcd, hst⟩

/-- A printed size can be read in one way only. -/
theorem written_injective : Function.Injective written := by
  rintro ⟨m, tenth?, u⟩ ⟨n, tenth?', v⟩ h
  have htext := congrArg String.toList h
  rw [toList_written, toList_written] at htext
  cases tenth? with
  | none =>
    cases tenth?' with
    | none =>
      obtain ⟨rfl, -, hname⟩ := number_unique (by decide) (by decide) htext
      obtain rfl : u = v := ByteUnit.name_injective (String.toList_inj.mp hname)
      rfl
    | some tenth' =>
      obtain ⟨-, hsep, -⟩ := number_unique (by decide) (by decide) htext
      exact absurd hsep (by decide)
  | some tenth =>
    cases tenth?' with
    | none =>
      obtain ⟨-, hsep, -⟩ := number_unique (by decide) (by decide) htext
      exact absurd hsep (by decide)
    | some tenth' =>
      obtain ⟨rfl, -, hrest⟩ := number_unique (by decide) (by decide) htext
      obtain ⟨htenth, -, hname⟩ := number_unique (by decide) (by decide) hrest
      obtain rfl : tenth = tenth' := Fin.ext htenth
      obtain rfl : u = v := ByteUnit.name_injective (String.toList_inj.mp hname)
      rfl

end Amount

/-! ## What is printed -/

section Printed

variable {n : Nat} {u : ByteUnit}

/-- The largest unit, above the single byte, of which a number of bytes is at least one. -/
def largestUnit? (n : Nat) : Option ByteUnit := [.tera, .giga, .mega, .kilo].find? (·.size ≤ n)

theorem lt_of_largestUnit?_eq_none (h : largestUnit? n = none) : n < 1024 :=
  Nat.lt_of_not_le fun hle ↦ List.find?_eq_none.mp h .kilo (by decide) (decide_eq_true hle)

theorem bounds_of_largestUnit? (h : largestUnit? n = some u) :
    u ≠ .byte ∧ u.size ≤ n ∧ (u = .tera ∨ n < 1024 * u.size) := by
  have htera : ByteUnit.tera.size = 1024 ^ 4 := rfl
  have hgiga : ByteUnit.giga.size = 1024 ^ 3 := rfl
  have hmega : ByteUnit.mega.size = 1024 ^ 2 := rfl
  have hkilo : ByteUnit.kilo.size = 1024 := rfl
  simp only [largestUnit?, List.find?_cons, List.find?_nil] at h
  split at h
  next hle =>
    obtain rfl := Option.some.inj h
    exact ⟨nofun, of_decide_eq_true hle, .inl rfl⟩
  next hlarger =>
    have hlarger := of_decide_eq_false hlarger
    split at h
    next hle =>
      obtain rfl := Option.some.inj h
      exact ⟨nofun, of_decide_eq_true hle, .inr (by omega)⟩
    next hlarger =>
      have hlarger := of_decide_eq_false hlarger
      split at h
      next hle =>
        obtain rfl := Option.some.inj h
        exact ⟨nofun, of_decide_eq_true hle, .inr (by omega)⟩
      next hlarger =>
        have hlarger := of_decide_eq_false hlarger
        split at h
        next hle =>
          obtain rfl := Option.some.inj h
          exact ⟨nofun, of_decide_eq_true hle, .inr (by omega)⟩
        next => exact nomatch h

theorem find?_units (n : Nat) :
    units.find? (fun u ↦ u.2 ≤ n) = (largestUnit? n).map fun u ↦ (u.name, u.size) := by
  have hunits : units = [ByteUnit.tera, .giga, .mega, .kilo].map fun u ↦ (u.name, u.size) := rfl
  rw [hunits, List.find?_map]
  rfl

/-- The amount that is printed for a number of bytes. -/
def amountOf (n : Nat) : Amount :=
  match largestUnit? (significant n) with
  | some u => .ofTenths (divRound (significant n * 10) u.size) u
  | none => ⟨n, none, .byte⟩

theorem written_amountOf (n : Nat) : (amountOf n).written = text n := by
  unfold text amountOf
  rw [find?_units]
  cases largestUnit? (significant n) with
  | none =>
    show toString n ++ "" ++ " " ++ "B" = toString n ++ " B"
    rw [String.append_empty, String.append_assoc]
    rfl
  | some u =>
    simp only [Option.map_some, decimal, Amount.written, Amount.ofTenths, Option.elim_some,
      String.append_assoc]

/-- A few bytes are counted one by one.  More are given in tenths of the largest unit that fits. -/
theorem amountOf_cases (n : Nat) :
    (n < 1024 ∧ amountOf n = ⟨n, none, .byte⟩) ∨
      ∃ u : ByteUnit, u ≠ .byte ∧ u.size ≤ significant n ∧ (u = .tera ∨ significant n < 1024 * u.size) ∧
        amountOf n = .ofTenths (divRound (significant n * 10) u.size) u := by
  unfold amountOf
  cases hunit : largestUnit? (significant n) with
  | none =>
    have hfew := lt_of_largestUnit?_eq_none hunit
    refine .inl ⟨?_, rfl⟩
    rcases Nat.lt_or_ge n (2 ^ 53) with hn | hn
    · rwa [significant_eq_self hn] at hfew
    · have hmany := le_significant hn
      omega
  | some u =>
    obtain ⟨hu, hle, hlt⟩ := bounds_of_largestUnit? hunit
    exact .inr ⟨u, hu, hle, hlt, rfl⟩

end Printed

/-! ## Where the next unit would have been there -/

/-- Less than a power of 1024, but by less than half a decimal of the unit that is printed. -/
def RoundsUp (n : Nat) : Prop :=
  ∃ u ∈ [ByteUnit.kilo, .mega, .giga], n < 1024 * u.size ∧ 20 * (1024 * u.size - n) < u.size

instance (n : Nat) : Decidable (RoundsUp n) := inferInstanceAs (Decidable (∃ u ∈ _, _))

section Canonical

variable {n : Nat} {u : ByteUnit}

theorem not_roundsUp_of_lt (h : n < 1024) : ¬ RoundsUp n := by
  rintro ⟨u, -, hlt, hshort⟩
  cases u <;> simp only [ByteUnit.size] at hlt hshort <;> omega

/-- A number has only one unit of which it is at least one and less than 1024. -/
theorem unit_unique {v : ByteUnit} (hu : u.size ≤ n) (hu' : u = .tera ∨ n < 1024 * u.size)
    (hv : v.size ≤ n) (hv' : v ≠ .tera ∧ n < 1024 * v.size) : u = v := by
  obtain ⟨hv, hv'⟩ := hv'
  rcases hu' with rfl | hu'
  · cases v <;> simp only [ByteUnit.size] at * <;> first | contradiction | omega
  · cases u <;> cases v <;> simp only [ByteUnit.size] at * <;> first | rfl | omega

/-- Of a number it is enough to look at its own unit. -/
theorem roundsUp_iff (hu : u ≠ .byte) (hle : u.size ≤ n) (hlt : u = .tera ∨ n < 1024 * u.size) :
    RoundsUp n ↔ u ≠ .tera ∧ 20 * (1024 * u.size - n) < u.size := by
  constructor
  · rintro ⟨v, hv, hlt', hshort⟩
    have htera : v ≠ .tera := by
      rintro rfl
      exact absurd hv (by decide)
    obtain rfl := unit_unique hle hlt (v := v) (by omega) ⟨htera, hlt'⟩
    exact ⟨htera, hshort⟩
  · rintro ⟨htera, hshort⟩
    refine ⟨u, ?_, hlt.resolve_left htera, hshort⟩
    cases u with
    | byte => exact absurd rfl hu
    | tera => exact absurd rfl htera
    | kilo | mega | giga => decide

/-- Tenths of a unit of which there are less than 1024 are 10240 at most, and 10240 of them is what
half a tenth short of 1024 is rounded to. -/
theorem divRound_tenths {d : Nat} (hd : d % 5 ≠ 0) (h : n < 1024 * d) :
    divRound (n * 10) d ≤ 10240 ∧ (divRound (n * 10) d = 10240 ↔ 20 * (1024 * d - n) < d) := by
  obtain ⟨hup, hdown⟩ := divRound_near (by omega : 0 < d) (n * 10)
  have hle : divRound (n * 10) d ≤ 10240 := by
    by_contra hmore
    have hmul := Nat.mul_le_mul_left d (Nat.lt_of_not_le hmore)
    omega
  refine ⟨hle, ?_⟩
  constructor
  · intro heq
    rw [heq] at hup
    omega
  · intro hshort
    refine Nat.le_antisymm hle (Nat.le_of_not_lt fun hless ↦ ?_)
    have hmul := Nat.mul_le_mul_left d (Nat.le_of_lt_succ hless)
    omega

theorem ByteUnit.size_pos (u : ByteUnit) : 0 < u.size := by
  cases u <;> decide

/-- No size is cut into halves of a tenth, so that no number of bytes is just between two decimals. -/
theorem ByteUnit.size_mod_five (u : ByteUnit) : u.size % 5 ≠ 0 := by
  cases u <;> decide

/-- How a size should be given for a number of bytes. -/
structure Amount.IsCanonical (a : Amount) (n : Nat) : Prop where
  below : a.unit ≠ .tera → a.number < 1024
  above : a.unit ≠ .byte → 1 ≤ a.number
  near : n < 2 ^ 53 → |a.number * a.unit.size - n| ≤ a.unit.size / 20

/-- Rounded tenths of a unit are at most half a tenth away. -/
theorem ofTenths_near (n : Nat) (u : ByteUnit) :
    |(Amount.ofTenths (divRound (n * 10) u.size) u).number * u.size - n| ≤ (u.size : ℚ) / 20 := by
  obtain ⟨hup, hdown⟩ := divRound_near u.size_pos (n * 10)
  have hup : 2 * ((u.size : ℚ) * divRound (n * 10) u.size) ≤ 2 * (n * 10) + u.size := by
    exact_mod_cast hup
  have hdown : 2 * ((n : ℚ) * 10) ≤ 2 * (u.size * divRound (n * 10) u.size) + u.size := by
    exact_mod_cast hdown
  rw [Amount.number_ofTenths, abs_le]
  constructor <;> linarith

theorem one_le_ofTenths (h : u.size ≤ n) :
    1 ≤ (Amount.ofTenths (divRound (n * 10) u.size) u).number := by
  have htenths : 10 ≤ divRound (n * 10) u.size := by
    refine le_trans ?_ (div_le_divRound (n * 10) u.size)
    rw [Nat.le_div_iff_mul_le u.size_pos]
    omega
  have htenths : (10 : ℚ) ≤ divRound (n * 10) u.size := by exact_mod_cast htenths
  rw [Amount.number_ofTenths]
  linarith

/-- Rounding to tenths gives 1024 at most, and gives it when less than half a tenth is missing. -/
theorem ofTenths_eq_iff (h : n < 1024 * u.size) :
    (Amount.ofTenths (divRound (n * 10) u.size) u).number ≤ 1024 ∧
      ((Amount.ofTenths (divRound (n * 10) u.size) u).number = 1024 ↔
        20 * (1024 * u.size - n) < u.size) := by
  obtain ⟨hle, hiff⟩ := divRound_tenths u.size_mod_five h
  have htenths : (divRound (n * 10) u.size : ℚ) ≤ 10240 := by exact_mod_cast hle
  rw [Amount.number_ofTenths, ← hiff, div_eq_iff (by norm_num)]
  constructor
  · linarith
  · rw [show (1024 * 10 : ℚ) = (10240 : Nat) by norm_num, Nat.cast_inj]

end Canonical

/-! ## A printed size and its number of bytes -/

section Reading

variable (n : Nat)

theorem amountOf_above (h : (amountOf n).unit ≠ .byte) : 1 ≤ (amountOf n).number := by
  obtain ⟨-, hfew⟩ | ⟨u, -, hle, -, hmany⟩ := amountOf_cases n
  · rw [hfew] at h
    exact absurd rfl h
  · rw [hmany]
    exact one_le_ofTenths hle

theorem amountOf_near (h : n < 2 ^ 53) :
    |(amountOf n).number * (amountOf n).unit.size - n| ≤ (amountOf n).unit.size / 20 := by
  obtain ⟨-, hfew⟩ | ⟨u, -, -, -, hmany⟩ := amountOf_cases n
  · rw [hfew]
    norm_num [Amount.number, ByteUnit.size]
  · rw [hmany, significant_eq_self h]
    exact ofTenths_near n u

/-- Where the largest unit is printed there are as many bytes. -/
theorem le_of_le_significant (h : 1024 ^ 4 ≤ significant n) : 1024 ^ 4 ≤ n := by
  rcases Nat.lt_or_ge n (2 ^ 53) with hn | hn
  · rwa [significant_eq_self hn] at h
  · omega

theorem significant_eq_of_lt {u : ByteUnit} (h : significant n < 1024 * u.size) :
    significant n = n := by
  refine significant_eq_self (Nat.lt_of_not_le fun hmany ↦ ?_)
  have hle := le_significant hmany
  cases u <;> simp only [ByteUnit.size] at h <;> omega

/-- Up to the largest unit no number above 1024 is printed, and 1024 only where it is rounded up. -/
theorem amountOf_below (h : (amountOf n).unit ≠ .tera) :
    (amountOf n).number ≤ 1024 ∧ ((amountOf n).number = 1024 ↔ RoundsUp n) := by
  obtain ⟨hlt, hfew⟩ | ⟨u, hu, hle, hlt, hmany⟩ := amountOf_cases n
  · have hnumber : (amountOf n).number < 1024 := by
      rw [hfew, Amount.number, Option.elim_none, add_zero]
      exact_mod_cast hlt
    exact ⟨hnumber.le, iff_of_false hnumber.ne (not_roundsUp_of_lt hlt)⟩
  · rw [hmany] at h ⊢
    have hlt := hlt.resolve_left h
    have hkept := significant_eq_of_lt n hlt
    rw [hkept] at hle hlt ⊢
    obtain ⟨hnumber, hiff⟩ := ofTenths_eq_iff hlt
    refine ⟨hnumber, ?_⟩
    rw [hiff, roundsUp_iff hu hle (.inr hlt)]
    exact (and_iff_right h).symm

theorem amountOf_unit_of_roundsUp (h : RoundsUp n) : (amountOf n).unit ≠ .tera := by
  obtain ⟨-, hfew⟩ | ⟨u, hu, hle, -, hmany⟩ := amountOf_cases n
  · rw [hfew]
    exact nofun
  · rw [hmany]
    rintro rfl
    have hn : ByteUnit.tera.size ≤ n := le_of_le_significant n hle
    exact absurd rfl ((roundsUp_iff hu hn (.inl rfl)).mp h).1

/-- Every printed size can be read in just one way.  It is at least one of its unit and within half
a decimal of the bytes; and it is canonical but for the numbers of bytes that are rounded up to 1024
of a unit. -/
theorem text_canonical_iff (n : Nat) :
    ∃ a : Amount, (∀ b : Amount, b.written = text n ↔ b = a) ∧
      (a.unit ≠ .byte → 1 ≤ a.number) ∧
      (n < 2 ^ 53 → |a.number * a.unit.size - n| ≤ a.unit.size / 20) ∧
      (a.IsCanonical n ↔ ¬ RoundsUp n) ∧ (RoundsUp n → a.unit ≠ .tera ∧ a.number = 1024) := by
  have habove := amountOf_above n
  have hnear := amountOf_near n
  refine ⟨amountOf n, fun b ↦ ?_, habove, hnear, ?_, fun hup ↦ ?_⟩
  · rw [← written_amountOf n, Amount.written_injective.eq_iff]
  · constructor
    · intro hcanonical hup
      have hunit := amountOf_unit_of_roundsUp n hup
      exact (hcanonical.below hunit).ne ((amountOf_below n hunit).2.mpr hup)
    · intro hdown
      refine ⟨fun hunit ↦ ?_, habove, hnear⟩
      obtain ⟨hle, hiff⟩ := amountOf_below n hunit
      exact lt_of_le_of_ne hle (mt hiff.mp hdown)
  · have hunit := amountOf_unit_of_roundsUp n hup
    exact ⟨hunit, (amountOf_below n hunit).2.mpr hup⟩

/-- One byte short of a gigabyte. -/
theorem text_canonical_iff_mega : RoundsUp 1073741823 ∧ text 1073741823 = "1024.0 MB" ∧
    ∃ a : Amount, a.written = text 1073741823 ∧ a.number = 1024 ∧ ¬ a.IsCanonical 1073741823 := by
  obtain ⟨a, hread, -, -, hcanonical, hup⟩ := text_canonical_iff 1073741823
  have hrounds : RoundsUp 1073741823 := by decide
  refine ⟨hrounds, ?_, a, (hread a).mpr rfl, (hup hrounds).2, fun h ↦ hcanonical.mp h hrounds⟩
  decide +kernel

/-- One byte short of a megabyte is printed as 1024 kilobytes. -/
theorem text_not_canonical : text 1048575 = "1024.0 KB" ∧
    ¬ ∃ a : Amount, a.written = text 1048575 ∧ a.IsCanonical 1048575 := by
  have htext : text 1048575 = "1024.0 KB" := by
    decide +kernel
  refine ⟨htext, ?_⟩
  rintro ⟨a, hwritten, hcanonical⟩
  obtain rfl : a = .ofTenths 10240 .kilo := Amount.written_injective (hwritten.trans htext)
  have hbelow := hcanonical.below nofun
  rw [Amount.number_ofTenths] at hbelow
  norm_num at hbelow

end Reading

end CodeSurvey.Size
