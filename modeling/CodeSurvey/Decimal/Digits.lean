import CodeSurvey.Instances

/-!
# Digits

The number that a row of digits spells, and the number of digits that a number takes. Both go by squares of
the base, so that the factors of a product are equally long; a number may well have a million digits. The
laws say what the answers are: `ofDigits_eq_foldl`, `lt_pow_count` and `pow_le_of_count`.
-/

namespace CodeSurvey.Digits

/-- The number that digits spell, least first. -/
def horner (base : Nat) (ds : List Nat) : Nat := ds.foldr (fun d n => d + base * n) 0

/-- Joins each two neighbours of some digits, least first, to one digit of the squared base. -/
def joinPairs (base : Nat) : List Nat → List Nat
  | low :: high :: rest => (low + base * high) :: joinPairs base rest
  | ds => ds

theorem horner_joinPairs (base : Nat) (ds : List Nat) :
    horner (base * base) (joinPairs base ds) = horner base ds := by
  fun_induction joinPairs base ds with
  | case1 low high rest ih =>
    simp only [horner, List.foldr_cons] at ih ⊢
    rw [ih, Nat.mul_add, Nat.mul_assoc, Nat.add_assoc]
  | case2 ds h =>
    match ds, h with
    | [], _ => rfl
    | [d], _ => simp [horner]
    | low :: high :: rest, h => exact (h low high rest rfl).elim

/-- Joins neighbours up to `rounds` times. -/
def joinAll (base : Nat) : (rounds : Nat) → List Nat → Nat
  | 0, ds => horner base ds
  | rounds + 1, ds => joinAll (base * base) rounds (joinPairs base ds)

theorem joinAll_eq_horner (base rounds : Nat) (ds : List Nat) :
    joinAll base rounds ds = horner base ds := by
  induction rounds generalizing base ds with
  | zero => rfl
  | succ rounds ih => rw [joinAll, ih, horner_joinPairs]

/-- The number that digits spell, greatest first. -/
def ofDigits (base : Nat) (ds : List Nat) : Nat := joinAll base (ds.length.log2 + 1) ds.reverse

theorem ofDigits_eq_foldl (base : Nat) (ds : List Nat) :
    ofDigits base ds = ds.foldl (fun n d => n * base + d) 0 := by
  simp only [ofDigits, joinAll_eq_horner, horner, List.foldr_reverse]
  congr 1
  funext n d
  rw [Nat.mul_comm, Nat.add_comm]

/-- The greatest `k` for which `base ^ k` goes into a number, and the quotient. Up to `rounds` squares of the
base are tried first. -/
def divideOut (base : Nat) : (rounds : Nat) → Nat → Nat × Nat
  | 0, n => (0, n)
  | rounds + 1, n =>
    if n < base then (0, n)
    else
      let (k, q) := divideOut (base * base) rounds n
      if q < base then (2 * k, q) else (2 * k + 1, q / base)

theorem bounds_divideOut {base rounds n : Nat} (hbase : 1 < base) (hn : n < base ^ 2 ^ rounds) :
    let a := divideOut base rounds n
    a.2 < base ∧ base ^ a.1 * a.2 ≤ n ∧ n < base ^ a.1 * (a.2 + 1) ∧ (n ≠ 0 → a.2 ≠ 0) := by
  induction rounds generalizing base with
  | zero => simpa [divideOut] using hn
  | succ rounds ih =>
    by_cases h : n < base
    · simp [divideOut, h]
    · simp only [divideOut, h, if_false]
      have hsquare : base ^ 2 ^ (rounds + 1) = (base * base) ^ 2 ^ rounds := by
        rw [Nat.pow_succ, Nat.mul_comm, Nat.pow_mul, Nat.pow_two]
      have := ih (Nat.one_lt_mul_iff.2 ⟨by omega, by omega, .inl hbase⟩) (hsquare ▸ hn)
      generalize divideOut (base * base) rounds n = answer at this
      obtain ⟨k, q⟩ := answer
      obtain ⟨hq, hle, hlt, hne⟩ := this
      rw [← Nat.pow_two, ← Nat.pow_mul] at hle hlt
      simp only
      split
      next hsmall => exact ⟨hsmall, hle, hlt, hne⟩
      next hlarge =>
        rw [Nat.not_lt] at hlarge
        have hdiv := Nat.div_add_mod q base
        have hmod := Nat.mod_lt q (by omega : base > 0)
        refine ⟨Nat.div_lt_of_lt_mul hq, ?_, ?_, fun _ => ?_⟩
        · refine Nat.le_trans ?_ hle
          rw [Nat.pow_succ, Nat.mul_assoc]
          exact Nat.mul_le_mul_left _ (Nat.mul_div_le q base)
        · refine Nat.lt_of_lt_of_le hlt ?_
          rw [Nat.pow_succ, Nat.mul_assoc]
          refine Nat.mul_le_mul_left _ ?_
          show q + 1 ≤ base * (q / base + 1)
          rw [Nat.mul_add]
          omega
        · have := Nat.div_pos hlarge (by omega : 0 < base)
          omega

/-- How many decimal digits a number takes; zero takes one. -/
def count (n : Nat) : Nat := (divideOut 10 (n.log2 + 1) n).1 + 1

theorem lt_ten_pow_two_pow (n : Nat) : n < 10 ^ 2 ^ (n.log2 + 1) :=
  calc n < 2 ^ (n.log2 + 1) := Nat.lt_log2_self
    _ < 2 ^ 2 ^ (n.log2 + 1) := Nat.pow_lt_pow_right (by decide) Nat.lt_two_pow_self
    _ ≤ 10 ^ 2 ^ (n.log2 + 1) := Nat.pow_le_pow_left (by decide) _

/-- A number takes no more digits than it is said to. -/
theorem lt_pow_count (n : Nat) : n < 10 ^ count n := by
  have := bounds_divideOut (by decide) (lt_ten_pow_two_pow n)
  unfold count
  generalize divideOut 10 (n.log2 + 1) n = answer at this
  obtain ⟨k, q⟩ := answer
  obtain ⟨hq, -, hlt, -⟩ := this
  rw [Nat.pow_succ]
  exact Nat.lt_of_lt_of_le hlt (Nat.mul_le_mul_left _ hq)

/-- A number other than zero takes no fewer digits than it is said to. -/
theorem pow_le_of_count {n : Nat} (h : n ≠ 0) : 10 ^ (count n - 1) ≤ n := by
  have := bounds_divideOut (by decide) (lt_ten_pow_two_pow n)
  unfold count
  generalize divideOut 10 (n.log2 + 1) n = answer at this
  obtain ⟨k, q⟩ := answer
  obtain ⟨-, hle, -, hne⟩ := this
  exact Nat.le_trans (Nat.le_mul_of_pos_right _ (Nat.pos_of_ne_zero (hne h))) hle

end CodeSurvey.Digits
