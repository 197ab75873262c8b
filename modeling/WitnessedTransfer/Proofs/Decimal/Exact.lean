import Mathlib.Data.Int.GCD
import Mathlib.Tactic.FieldSimp
import Mathlib.Tactic.Ring
import WitnessedTransfer.Proofs.Decimal.Value

/-! When sums of decimals are not rounded. A sum gives up places only until it can be held, so what some
decimal is worth is never rounded away. Whether it is rounded or not, what is left of a decimal can
always be held. -/
namespace WitnessedTransfer

theorem pow10_sub_mul {m n : Nat} (le : m ≤ n) : pow10 (n - m) * pow10 m = pow10 n :=
  Nat.pow_sub_mul_pow 10 le

/-- The number with more places has zeros at the end. -/
theorem eq_mul_of_cross {x y : Int} {m n : Nat} (le : m ≤ n) (cross : x * pow10 m = y * pow10 n) :
    x = y * pow10 (n - m) := by
  have pos : ((pow10 m : Nat) : Int) ≠ 0 := by exact_mod_cast (pow10_pos m).ne'
  rw [← pow10_sub_mul le, Nat.cast_mul, ← mul_assoc] at cross
  exact mul_right_cancel₀ pos cross

namespace Decimal

variable {a b c d : Decimal} {units quotient : Int} {scale lost : Nat}

theorem value_neg (d : Decimal) : d.neg.value = -d.value := by
  simp [value, neg, neg_div]

theorem value_of_isZero (zero : d.isZero = true) : d.value = 0 := by
  have units : d.units = 0 := by simpa [isZero] using zero
  simp [value, units]

theorem unitsAt_value (fits : d.scale ≤ scale) : (d.unitsAt scale : ℚ) / pow10 scale = d.value := by
  have pos := (pow10_cast_pos (scale - d.scale)).ne'
  have pos' := (pow10_cast_pos d.scale).ne'
  rw [unitsAt, value, ← pow10_sub_mul fits]
  push_cast
  field_simp

/-- Only zeros are given up of a number that has as many at its end. -/
theorem shorten?_of_eq_mul (multiple : units = quotient * pow10 lost) :
    shorten? units scale lost = ofUnits? quotient (scale - lost) := by
  have pos := pow10_pos lost
  have nearest : nearestEven units.natAbs (pow10 lost) = quotient.natAbs := by
    rw [multiple, Int.natAbs_mul, Int.natAbs_natCast]
    simp [nearestEven, Nat.mul_div_cancel _ pos, pos]
  have sign : units.sign = quotient.sign := by
    have one : ((pow10 lost : Nat) : Int).sign = 1 := Int.sign_eq_one_of_pos (by exact_mod_cast pos)
    rw [multiple, Int.sign_mul, one, mul_one]
  rw [shorten?, nearest, sign, Int.sign_mul_natAbs]

theorem ofUnits?_value (held : ofUnits? quotient (scale - lost) = some d)
    (multiple : units = quotient * pow10 lost) (fits : lost ≤ scale) :
    d.value = units / pow10 scale := by
  obtain ⟨units_eq, scale_eq, -⟩ := ofUnits?_eq_some_iff.mp held
  have pos := (pow10_cast_pos (scale - lost)).ne'
  have pos' := (pow10_cast_pos lost).ne'
  rw [value, units_eq, scale_eq, multiple, ← pow10_sub_mul fits]
  push_cast
  field_simp

/-- Giving up zeros is enough to hold what some decimal is worth. -/
theorem shorten?_of_value (worth : (units : ℚ) / pow10 scale = c.value) (bound : scale ≤ 28) :
    ∃ enough ≤ scale, (shorten? units scale enough).isSome ∧
      ∀ lost ≤ enough, ∃ quotient : Int, units = quotient * pow10 lost := by
  have cross : units * pow10 c.scale = c.units * pow10 scale := by
    rw [value, div_eq_div_iff (pow10_cast_pos _).ne' (pow10_cast_pos _).ne'] at worth
    exact_mod_cast worth
  rcases Nat.le_total c.scale scale with fits | finer
  · have multiple := eq_mul_of_cross fits cross
    refine ⟨scale - c.scale, Nat.sub_le _ _, ?_, fun lost le => ?_⟩
    · rw [shorten?_of_eq_mul multiple, Nat.sub_sub_self fits]
      simp [ofUnits?, c.units_lt, c.scale_le]
    · refine ⟨c.units * pow10 (scale - c.scale - lost), ?_⟩
      rw [multiple, ← pow10_sub_mul le, Nat.cast_mul, mul_assoc]
  · have multiple := eq_mul_of_cross finer cross.symm
    have small : units.natAbs < pow2 96 := by
      refine Nat.lt_of_le_of_lt ?_ c.units_lt
      rw [multiple, Int.natAbs_mul, Int.natAbs_natCast]
      exact Nat.le_mul_of_pos_right _ (pow10_pos _)
    have whole : units = units * pow10 0 := by simp
    refine ⟨0, Nat.zero_le _, ?_, fun lost le => ⟨units, ?_⟩⟩
    · rw [shorten?_of_eq_mul whole]
      simp [ofUnits?, small, bound]
    · rw [Nat.le_zero.mp le]
      exact whole

theorem findSome?_range {α : Type} {f : Nat → Option α} {x : α} {count : Nat}
    (found : (List.range count).findSome? f = some x) : ∃ i < count, f i = some x ∧ ∀ j < i, f j = none := by
  induction count with
  | zero => cases found
  | succ k ih =>
    rw [List.range_succ, List.findSome?_append, Option.or_eq_some_iff] at found
    rcases found with earlier | ⟨none_earlier, last⟩
    · obtain ⟨i, less, here, before⟩ := ih earlier
      exact ⟨i, Nat.lt_succ_of_lt less, here, before⟩
    · refine ⟨k, Nat.lt_succ_self k, by simpa using last, fun j less => ?_⟩
      exact List.findSome?_eq_none_iff.mp none_earlier j (List.mem_range.mpr less)

/-- No more places are given up than must be. -/
theorem fit?_eq_some {units : Int} {scale : Nat} (fits : fit? units scale = some c) :
    ∃ lost ≤ scale, shorten? units scale lost = some c ∧ ∀ fewer < lost, shorten? units scale fewer = none := by
  obtain ⟨lost, le, shortened, unheld⟩ := findSome?_range fits
  exact ⟨lost, Nat.lt_succ_iff.mp le, shortened, unheld⟩

/-- What some decimal is worth is not rounded. -/
theorem fit?_of_value (worth : (units : ℚ) / pow10 scale = c.value) (bound : scale ≤ 28) :
    ∃ d, fit? units scale = some d ∧ d.value = c.value := by
  obtain ⟨enough, le, held, multiples⟩ := shorten?_of_value worth bound
  have found : (fit? units scale).isSome := by
    rw [fit?, List.findSome?_isSome_iff]
    exact ⟨enough, List.mem_range.mpr (Nat.lt_succ_of_le le), held⟩
  obtain ⟨d, fitted⟩ := Option.isSome_iff_exists.mp found
  refine ⟨d, fitted, ?_⟩
  obtain ⟨lost, -, shortened, unheld⟩ := fit?_eq_some fitted
  have least : lost ≤ enough := by
    by_contra more
    rw [unheld enough (Nat.lt_of_not_le more)] at held
    cases held
  obtain ⟨quotient, multiple⟩ := multiples lost least
  rw [shorten?_of_eq_mul multiple] at shortened
  rw [ofUnits?_value shortened multiple (least.trans le), worth]

theorem add_zero_ok (a : Decimal) : ∃ b, a.add 0 = .ok b := by
  by_cases zero : a.isZero = true
  · exact ⟨0, by rw [add, add?, if_pos zero]⟩
  · exact ⟨a, by rw [add, add?, if_neg zero, if_pos (show isZero 0 = true from rfl)]⟩

theorem value_add_zero (sum : a.add 0 = .ok b) : b.value = a.value := by
  unfold add add? at sum
  split at sum
  next c added =>
    cases sum
    split at added
    next zero =>
      cases added
      rw [value_of_isZero zero, value_zero]
    next =>
      rw [if_pos (show isZero 0 = true from rfl)] at added
      cases added
      rfl
  next => cases sum

theorem foldlM_cons_ok {d sum : Decimal} {ds : List Decimal} (whole : (d :: ds).foldlM add a = .ok sum) :
    ∃ next, a.add d = .ok next ∧ ds.foldlM add next = .ok sum := by
  rw [List.foldlM_cons] at whole
  cases added : a.add d with
  | error cause => rw [added] at whole; cases whole
  | ok next =>
    rw [added] at whole
    exact ⟨next, rfl, whole⟩

/-- A difference is not rounded if some decimal is worth it. -/
theorem sub_of_value (worth : c.value = a.value - b.value) :
    ∃ d, a.sub b = .ok d ∧ d.value = c.value := by
  have added : ∃ d, a.add? b.neg = some d ∧ d.value = c.value := by
    unfold add?
    split
    next zero => exact ⟨_, rfl, by rw [worth, value_of_isZero zero, value_neg, zero_sub]⟩
    next =>
      split
      next zero =>
        have none_taken := value_of_isZero zero
        rw [value_neg, neg_eq_zero] at none_taken
        exact ⟨_, rfl, by rw [worth, none_taken, sub_zero]⟩
      next =>
        refine fit?_of_value ?_ (Nat.max_le.mpr ⟨a.scale_le, b.neg.scale_le⟩)
        push_cast
        rw [add_div, unitsAt_value (Nat.le_max_left _ _), unitsAt_value (Nat.le_max_right _ _), value_neg, worth,
          sub_eq_add_neg]
  obtain ⟨d, sum, value⟩ := added
  exact ⟨d, by rw [sub, sum], value⟩

/-! ### What is left can be held -/

/-- What is at most a whole number of steps is not rounded to more. -/
theorem nearestEven_le {n d q : Nat} (pos : 0 < d) (le : n ≤ q * d) : nearestEven n d ≤ q := by
  have below : n / d ≤ q := Nat.div_le_of_le_mul (by rwa [Nat.mul_comm])
  unfold nearestEven
  dsimp only
  split
  next => exact below
  next up =>
    refine Nat.lt_of_le_of_ne below fun same => up (.inl ?_)
    have whole := Nat.div_add_mod n d
    rw [same, Nat.mul_comm] at whole
    have rest : n % d = 0 := by omega
    simpa [rest] using pos

/-- What is between zero and a decimal that can be held with fewer places can be held. -/
theorem fit?_of_le (nonneg : 0 ≤ units) (fits : a.scale ≤ scale) (le : units ≤ a.unitsAt scale) :
    ∃ d, fit? units scale = some d := by
  refine Option.isSome_iff_exists.mp ?_
  rw [fit?, List.findSome?_isSome_iff]
  refine ⟨scale - a.scale, List.mem_range.mpr (by omega), ?_⟩
  have bound : units.natAbs ≤ a.units.natAbs * pow10 (scale - a.scale) := by
    have whole : (a.unitsAt scale).natAbs = a.units.natAbs * pow10 (scale - a.scale) := by
      rw [unitsAt, Int.natAbs_mul, Int.natAbs_natCast]
    omega
  have small : (units.sign * nearestEven units.natAbs (pow10 (scale - a.scale))).natAbs < pow2 96 := by
    refine Nat.lt_of_le_of_lt ?_ a.units_lt
    have sign : units.sign.natAbs ≤ 1 := by
      rcases Int.lt_or_eq_of_le nonneg with pos | rfl
      · rw [Int.sign_eq_one_of_pos pos]
        decide
      · decide
    rw [Int.natAbs_mul, Int.natAbs_natCast]
    calc units.sign.natAbs * nearestEven units.natAbs (pow10 (scale - a.scale))
        ≤ 1 * nearestEven units.natAbs (pow10 (scale - a.scale)) := Nat.mul_le_mul_right _ sign
      _ = nearestEven units.natAbs (pow10 (scale - a.scale)) := Nat.one_mul _
      _ ≤ a.units.natAbs := nearestEven_le (pow10_pos _) bound
  simp [shorten?, ofUnits?, small, Nat.sub_sub_self fits, a.scale_le]

/-- What is left of a decimal when no more than all is taken away can be held. -/
theorem sub_of_le (nonneg : 0 ≤ b.value) (le : b.value ≤ a.value) : ∃ d, a.sub b = .ok d := by
  have added : ∃ d, a.add? b.neg = some d := by
    unfold add?
    split
    next => exact ⟨_, rfl⟩
    next =>
      split
      next => exact ⟨_, rfl⟩
      next =>
        have fits := Nat.le_max_left a.scale b.neg.scale
        have whole := unitsAt_value fits
        have taken := unitsAt_value (Nat.le_max_right a.scale b.neg.scale)
        generalize max a.scale b.neg.scale = scale at fits whole taken ⊢
        have pos := pow10_cast_pos scale
        rw [div_eq_iff pos.ne'] at whole taken
        rw [value_neg] at taken
        have some_left : (0 : ℚ) ≤ (a.unitsAt scale + b.neg.unitsAt scale : Int) := by
          rw [Int.cast_add, whole, taken, ← add_mul, ← sub_eq_add_neg]
          exact mul_nonneg (sub_nonneg.mpr le) pos.le
        have none_added : (b.neg.unitsAt scale : ℚ) ≤ 0 := by
          rw [taken, neg_mul, neg_nonpos]
          exact mul_nonneg nonneg pos.le
        have none_added : b.neg.unitsAt scale ≤ 0 := by exact_mod_cast none_added
        exact fit?_of_le (a := a) (by exact_mod_cast some_left) fits (by omega)
  obtain ⟨d, sum⟩ := added
  exact ⟨d, by rw [sub, sum]⟩

end Decimal
end WitnessedTransfer
