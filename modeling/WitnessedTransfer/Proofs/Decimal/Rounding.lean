import Mathlib.Algebra.BigOperators.Group.List.Basic
import Mathlib.Algebra.Order.BigOperators.Group.List
import Mathlib.Tactic.GCongr
import Mathlib.Tactic.Linarith
import WitnessedTransfer.Proofs.Decimal.Ordered

/-! How far sums of decimals are off. Places are given up only where a number needs more than 96 bits, so
rounding once changes it by a very small part of itself; what a long sum is off by adds up from that. A sum
in which nothing needs more bits on the way is exact. -/
namespace WitnessedTransfer.Decimal

variable {a b c : Decimal}

/-- The largest part of itself by which a number can change when it is rounded once. -/
def grain : ℚ := 1 / pow2 93

theorem grain_pos : 0 < grain := by
  have pos : (0 : ℚ) < pow2 93 := by exact_mod_cast (by decide : 0 < pow2 93)
  exact one_div_pos.mpr pos

/-! ### Rounding once -/

/-- The nearest whole number is not more than half a step away. -/
theorem nearestEven_near (n : Nat) {d : Nat} (pos : 0 < d) :
    |((nearestEven n d * d : Nat) : ℚ) - n| ≤ d / 2 := by
  have above : 2 * n ≤ (2 * nearestEven n d + 1) * d :=
    not_lt.mp fun more => Nat.lt_irrefl _ (lt_nearestEven_of_half_lt pos more)
  have below : 2 * (nearestEven n d * d) ≤ 2 * n + d := by
    cases steps : nearestEven n d with
    | zero => omega
    | succ q =>
      have half := half_le_of_lt_nearestEven (q := q) (by omega : q < nearestEven n d)
      have spread : 2 * ((q + 1) * d) = (2 * q + 1) * d + d := by ring
      omega
  rw [abs_le]
  constructor
  · have above : (2 * n : ℚ) ≤ (2 * nearestEven n d + 1) * d := by exact_mod_cast above
    push_cast
    linarith
  · have below : (2 * (nearestEven n d * d) : ℚ) ≤ 2 * n + d := by exact_mod_cast below
    push_cast
    linarith

/-- A number that gives up a place has more units than 96 bits can hold without. -/
theorem nearestEven_grain {n d : Nat} (pos : 0 < d) (unfit : pow2 96 ≤ nearestEven n d) :
    |((nearestEven n (d * 10) * (d * 10) : Nat) : ℚ) - n| ≤ grain * n := by
  have near := nearestEven_near n (d := d * 10) (by omega)
  have half := half_le_of_lt_nearestEven (Nat.sub_one_lt_of_le (by decide) unfit)
  have large : pow2 93 * (d * 10) ≤ 2 * n := by
    refine le_trans ?_ half
    have steps : pow2 93 * 10 ≤ 2 * (pow2 96 - 1) + 1 := by decide
    calc pow2 93 * (d * 10) = pow2 93 * 10 * d := by ring
      _ ≤ (2 * (pow2 96 - 1) + 1) * d := Nat.mul_le_mul_right d steps
  have large : (pow2 93 * (d * 10 : Nat) : ℚ) ≤ 2 * n := by exact_mod_cast large
  refine near.trans ?_
  have pos : (0 : ℚ) < pow2 93 := by exact_mod_cast (by decide : 0 < pow2 93)
  rw [grain, one_div_mul_eq_div, div_le_div_iff₀ two_pos pos]
  linarith

theorem sign_mul_natAbs_sub (units : Int) (n : Nat) (zero : units = 0 → n = 0) :
    |((units.sign * n : Int) : ℚ) - units| = |(n : ℚ) - units.natAbs| := by
  obtain ⟨m, rfl | rfl⟩ := units.eq_nat_or_neg
  · rcases Nat.eq_zero_or_pos m with rfl | pos
    · simp [zero rfl]
    · simp [Int.sign_eq_one_of_pos (show (0 : Int) < m by exact_mod_cast pos)]
  · rcases Nat.eq_zero_or_pos m with rfl | pos
    · simp [zero rfl]
    · have sign : (-(m : Int)).sign = -1 := Int.sign_eq_neg_one_of_neg (by omega)
      rw [sign]
      push_cast
      rw [Int.natAbs_neg, Int.natAbs_natCast, abs_sub_comm]
      congr 1
      ring

theorem shorten?_value {units : Int} {lost : Nat} (shortened : shorten? units 28 lost = some c) (few : lost ≤ 28) :
    c.value = (units.sign * (nearestEven units.natAbs (pow10 lost) * pow10 lost : Nat) : Int) / pow10 28 := by
  obtain ⟨steps, scale, -⟩ := ofUnits?_eq_some_iff.mp shortened
  have pos := (pow10_cast_pos (28 - lost)).ne'
  have pos' := (pow10_cast_pos lost).ne'
  rw [value, steps, scale, ← pow10_sub_mul few]
  push_cast
  field_simp

/-- Rounded once, a number changes by no more than its grain. -/
theorem fit?_near {units : Int} (fits : fit? units 28 = some c) :
    |c.value - units / pow10 28| ≤ grain * |(units : ℚ) / pow10 28| := by
  obtain ⟨lost, few, shortened, unheld⟩ := fit?_eq_some fits
  have near : |((nearestEven units.natAbs (pow10 lost) * pow10 lost : Nat) : ℚ) - units.natAbs| ≤
      grain * units.natAbs := by
    cases lost with
    | zero =>
      have whole : nearestEven units.natAbs 1 * 1 = units.natAbs := by simp [nearestEven, Nat.mod_one]
      rw [pow10_zero, whole, sub_self, abs_zero]
      exact mul_nonneg grain_pos.le (Nat.cast_nonneg _)
    | succ fewer =>
      have unfit : pow2 96 ≤ nearestEven units.natAbs (pow10 fewer) := by
        by_contra fitting
        have unheld := unheld fewer (Nat.lt_succ_self _)
        have small : (units.sign * nearestEven units.natAbs (pow10 fewer)).natAbs < pow2 96 := by
          rw [Int.natAbs_mul, Int.natAbs_natCast, Int.natAbs_sign]
          split <;> omega
        simp [shorten?, ofUnits?, small] at unheld
      exact nearestEven_grain (pow10_pos _) unfit
  have pos := pow10_cast_pos 28
  have none_of_zero : units = 0 → nearestEven units.natAbs (pow10 lost) * pow10 lost = 0 := by
    rintro rfl
    simp [nearestEven, pow10_pos]
  rw [shorten?_value shortened few, ← sub_div, abs_div, abs_div, abs_of_pos pos, ← mul_div_assoc,
    div_le_div_iff_of_pos_right pos, sign_mul_natAbs_sub units _ none_of_zero]
  simpa using near

/-! ### One sum -/

theorem unitsAt_add (a b : Decimal) :
    ((a.unitsAt 28 + b.unitsAt 28 : Int) : ℚ) / pow10 28 = a.value + b.value := by
  rw [Int.cast_add, add_div, unitsAt_value a.scale_le, unitsAt_value b.scale_le]

theorem add?_near (sum : a.add? b = some c) :
    |c.value - (a.value + b.value)| ≤ grain * |a.value + b.value| := by
  have whole := add?_value a b
  rw [sum, Option.map_some] at whole
  obtain ⟨d, fits, same⟩ := Option.map_eq_some_iff.mp whole.symm
  rw [← same, ← unitsAt_add]
  exact fit?_near fits

theorem add_near (sum : a.add b = .ok c) : |c.value - (a.value + b.value)| ≤ grain * |a.value + b.value| := by
  unfold add at sum
  split at sum
  next found =>
    cases sum
    exact add?_near found
  next => cases sum

theorem sub_near (difference : a.sub b = .ok c) :
    |c.value - (a.value - b.value)| ≤ grain * |a.value - b.value| := by
  unfold sub at difference
  split at difference
  next found =>
    cases difference
    rw [sub_eq_add_neg a.value, ← value_neg]
    exact add?_near found
  next => cases difference

/-- A sum is not rounded if some decimal is worth it. -/
theorem add_of_value (worth : c.value = a.value + b.value) : ∃ d, a.add b = .ok d ∧ d.value = c.value := by
  obtain ⟨d, fits, same⟩ := fit?_of_value ((unitsAt_add a b).trans worth.symm) (Nat.le_refl 28)
  have whole := add?_value a b
  rw [fits, Option.map_some] at whole
  obtain ⟨sum, added, same'⟩ := Option.map_eq_some_iff.mp whole
  exact ⟨sum, by rw [add, added], same'.trans same⟩

/-! ### Long sums -/

/-- The largest part of itself by which a number can be off after some roundings. -/
def blur (n : Nat) : ℚ := (1 + grain) ^ n - 1

theorem blur_succ (n : Nat) : blur (n + 1) = blur n + grain * (1 + blur n) := by
  unfold blur
  ring

theorem blur_nonneg (n : Nat) : 0 ≤ blur n := by
  induction n with
  | zero => simp [blur]
  | succ n ih =>
    rw [blur_succ]
    have := grain_pos
    positivity

/-- What is off by so much is off by one rounding more when a number is added. -/
theorem add_blurred {w : ℚ} {n : Nat} (sum : a.add b = .ok c) (start : |a.value - w| ≤ blur n * w)
    (nonneg : 0 ≤ w) (nonneg' : 0 ≤ b.value) :
    |c.value - (w + b.value)| ≤ blur (n + 1) * (w + b.value) := by
  have near := add_near sum
  have off : |a.value - w| ≤ blur n * (w + b.value) :=
    start.trans (mul_le_mul_of_nonneg_left (le_add_of_nonneg_right nonneg') (blur_nonneg n))
  have size : |a.value + b.value| ≤ (1 + blur n) * (w + b.value) := by
    rw [abs_le] at off ⊢
    constructor <;> linarith
  have rounded := near.trans (mul_le_mul_of_nonneg_left size grain_pos.le)
  rw [blur_succ]
  rw [abs_le] at *
  constructor <;> linarith

theorem foldlM_blurred {ds : List Decimal} {w : ℚ} {n : Nat} {sum : Decimal}
    (whole : ds.foldlM add a = .ok sum) (start : |a.value - w| ≤ blur n * w) (nonneg : 0 ≤ w)
    (each : ∀ d ∈ ds, 0 ≤ d.value) :
    |sum.value - (w + (ds.map value).sum)| ≤ blur (n + ds.length) * (w + (ds.map value).sum) := by
  induction ds generalizing a w n with
  | nil =>
    cases whole
    simpa using start
  | cons d rest ih =>
    obtain ⟨positive, each⟩ := List.forall_mem_cons.mp each
    obtain ⟨next, added, whole⟩ := foldlM_cons_ok whole
    have later := ih whole (add_blurred added start nonneg positive) (add_nonneg nonneg positive) each
    rw [List.map_cons, List.sum_cons, List.length_cons, ← add_assoc, add_comm rest.length, ← add_assoc]
    exact later

/-- A sum is exact if every sum on the way is worth some decimal. -/
theorem foldlM_exact {ds : List Decimal}
    (each : ∀ k, ∃ c : Decimal, c.value = a.value + ((ds.take k).map value).sum) :
    ∃ sum, ds.foldlM add a = .ok sum ∧ sum.value = a.value + (ds.map value).sum := by
  induction ds generalizing a with
  | nil => exact ⟨a, rfl, by simp⟩
  | cons d rest ih =>
    obtain ⟨c, first⟩ := each 1
    obtain ⟨next, added, same⟩ := add_of_value (c := c) (by simpa using first)
    have same : next.value = a.value + d.value := by simpa using same.trans first
    have later (k : Nat) : ∃ c : Decimal, c.value = next.value + ((rest.take k).map value).sum := by
      obtain ⟨c, held⟩ := each (k + 1)
      exact ⟨c, by rw [held, same]; simp [add_assoc]⟩
    obtain ⟨sum, whole, worth⟩ := ih later
    refine ⟨sum, ?_, ?_⟩
    · rw [List.foldlM_cons, added]
      exact whole
    · rw [worth, same, List.map_cons, List.sum_cons, add_assoc]

end WitnessedTransfer.Decimal
