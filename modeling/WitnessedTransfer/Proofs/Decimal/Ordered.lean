import WitnessedTransfer.Proofs.Decimal.Exact

/-! Sums of decimals that are not below zero are in order. What is not more is not rounded to more, even if
it keeps a place that the other has to give up. So every part of a sum that can be held can be held. -/
namespace WitnessedTransfer.Decimal

variable {a a' b b' c : Decimal} {m n d q : Nat}

/-! ### Rounding to the nearest whole number -/

theorem half_le_of_lt_nearestEven (more : q < nearestEven n d) : (2 * q + 1) * d ≤ 2 * n := by
  have whole := Nat.div_add_mod n d
  have spread : (2 * q + 1) * d = 2 * (d * q) + d := by ring
  unfold nearestEven at more
  dsimp only at more
  split at more
  next =>
    have steps : d * (q + 1) ≤ d * (n / d) := Nat.mul_le_mul_left d more
    rw [Nat.mul_succ] at steps
    omega
  next up =>
    have steps : d * q ≤ d * (n / d) := Nat.mul_le_mul_left d (Nat.lt_succ_iff.mp more)
    have half : d ≤ 2 * (n % d) := not_lt.mp fun below => up (.inl below)
    omega

theorem lt_nearestEven_of_half_lt (pos : 0 < d) (more : (2 * q + 1) * d < 2 * n) : q < nearestEven n d := by
  have whole := Nat.div_add_mod n d
  have rest := Nat.mod_lt n pos
  have spread : (2 * q + 1) * d = 2 * (d * q) + d := by ring
  have reached : q ≤ n / d := by
    rw [Nat.le_div_iff_mul_le pos, Nat.mul_comm]
    omega
  unfold nearestEven
  dsimp only
  split
  next down =>
    refine Nat.lt_of_le_of_ne reached ?_
    rintro rfl
    omega
  next => exact Nat.lt_succ_of_le reached

theorem nearestEven_mono (le : m ≤ n) : nearestEven m d ≤ nearestEven n d := by
  have steps : m / d ≤ n / d := Nat.div_le_div_right le
  have wholeM := Nat.div_add_mod m d
  have wholeN := Nat.div_add_mod n d
  unfold nearestEven
  dsimp only
  rcases Nat.lt_or_eq_of_le steps with less | same
  · split <;> split <;> omega
  · rw [same] at wholeM ⊢
    have rests : m % d ≤ n % d := by omega
    split <;> split <;> omega

theorem nearestEven_scaled (n d : Nat) {k : Nat} (pos : 0 < k) :
    nearestEven (n * k) (d * k) = nearestEven n d := by
  unfold nearestEven
  rw [Nat.mul_div_mul_right n d pos, Nat.mul_mod_mul_right, ← Nat.mul_assoc]
  simp only [Nat.mul_lt_mul_right pos, Nat.mul_left_inj pos.ne']

/-- What does not fit any more comes to at least as much, with one place less, as what fits. -/
theorem largest_le_of_unfit (pos : 0 < d) (unfit : pow2 96 ≤ nearestEven n d) :
    pow2 96 ≤ 10 * nearestEven n (d * 10) + 1 := by
  have whole : pow2 96 = 10 * 7922816251426433759354395033 + 6 := rfl
  have half := half_le_of_lt_nearestEven (Nat.sub_one_lt_of_le (by decide) unfit)
  have more : 7922816251426433759354395033 < nearestEven n (d * 10) := by
    refine lt_nearestEven_of_half_lt (by omega) ?_
    rw [whole] at half
    omega
  omega

/-! ### Giving up places -/

theorem shorten?_natCast (n scale lost : Nat) :
    shorten? n scale lost = ofUnits? (nearestEven n (pow10 lost) : Nat) (scale - lost) := by
  rw [shorten?, Int.natAbs_natCast]
  rcases Nat.eq_zero_or_pos n with rfl | pos
  · simp [nearestEven, pow10_pos]
  · rw [Int.sign_eq_one_of_pos (by exact_mod_cast pos), one_mul]

theorem fit?_isSome_of_le {n scale lost : Nat} (bound : scale ≤ 28) (le : lost ≤ scale)
    (held : nearestEven n (pow10 lost) < pow2 96) : (fit? n scale).isSome := by
  rw [fit?, List.findSome?_isSome_iff]
  refine ⟨lost, List.mem_range.mpr (Nat.lt_succ_of_le le), ?_⟩
  rw [shorten?_natCast]
  simp [ofUnits?, held]
  omega

/-- What is held of a whole number of the finest steps. -/
theorem shorten?_held {n lost : Nat} (shortened : shorten? n 28 lost = some c) (le : lost ≤ 28) :
    nearestEven n (pow10 lost) < pow2 96 ∧
      c.value = (nearestEven n (pow10 lost) * pow10 lost : Nat) / pow10 28 := by
  rw [shorten?_natCast] at shortened
  obtain ⟨units, scale, -⟩ := ofUnits?_eq_some_iff.mp shortened
  refine ⟨by simpa [units] using c.units_lt, ?_⟩
  have pos := (pow10_cast_pos (28 - lost)).ne'
  have pos' := (pow10_cast_pos lost).ne'
  rw [value, units, scale, ← pow10_sub_mul le]
  push_cast
  field_simp

/-- The smaller of two numbers is rounded to less, even where it keeps places that the other gives up. -/
theorem fit?_mono (le : m ≤ n) (fits : fit? n 28 = some b) :
    ∃ a, fit? m 28 = some a ∧ a.value ≤ b.value := by
  obtain ⟨lost, few, shortened, unheld⟩ := fit?_eq_some fits
  obtain ⟨held, worth⟩ := shorten?_held shortened few
  have fits' := fit?_isSome_of_le (Nat.le_refl 28) few
    (Nat.lt_of_le_of_lt (nearestEven_mono le) held)
  obtain ⟨a, fits'⟩ := Option.isSome_iff_exists.mp fits'
  refine ⟨a, fits', ?_⟩
  obtain ⟨lost', few', shortened', unheld'⟩ := fit?_eq_some fits'
  obtain ⟨held', worth'⟩ := shorten?_held shortened' few'
  have fewer : lost' ≤ lost := by
    by_contra more
    have unheld' := unheld' lost (Nat.lt_of_not_le more)
    rw [shorten?_natCast] at unheld'
    have held' := Nat.lt_of_le_of_lt (nearestEven_mono (d := pow10 lost) le) held
    simp [ofUnits?, held'] at unheld'
  rw [worth, worth', div_le_div_iff_of_pos_right (pow10_cast_pos 28)]
  refine Nat.cast_le.mpr ?_
  rcases Nat.lt_or_eq_of_le fewer with less | rfl
  · obtain ⟨more, rfl⟩ := Nat.exists_eq_add_of_lt less
    have unfit : pow2 96 ≤ nearestEven n (pow10 (lost' + more)) := by
      have unheld := unheld (lost' + more) (Nat.lt_succ_self _)
      rw [shorten?_natCast] at unheld
      by_contra held
      simp [ofUnits?, Nat.lt_of_not_le held] at unheld
    have largest := largest_le_of_unfit (pow10_pos _) unfit
    calc nearestEven m (pow10 lost') * pow10 lost'
        ≤ (pow2 96 - 1) * pow10 lost' := Nat.mul_le_mul_right _ (by omega)
      _ ≤ (pow2 96 - 1) * pow10 (lost' + more) := 
        Nat.mul_le_mul_left _ (Nat.pow_le_pow_right (by decide) (Nat.le_add_right _ _))
      _ ≤ 10 * nearestEven n (pow10 (lost' + more + 1)) * pow10 (lost' + more) :=
        Nat.mul_le_mul_right _ (by rw [pow10_succ]; omega)
      _ = nearestEven n (pow10 (lost' + more + 1)) * pow10 (lost' + more + 1) := by
        rw [pow10_succ]; ring
  · exact Nat.mul_le_mul_right _ (nearestEven_mono le)

/-! ### Sums -/

/-- A place that the number does not need makes no difference. -/
theorem fit?_succ (units : Int) {scale : Nat} (bound : scale + 1 ≤ 28) :
    (fit? (units * 10) (scale + 1)).map value = (fit? units scale).map value := by
  have later (lost : Nat) : shorten? (units * 10) (scale + 1) (lost + 1) = shorten? units scale lost := by
    rw [shorten?, shorten?, Int.natAbs_mul, pow10_succ, show (10 : Int).natAbs = 10 from rfl,
      nearestEven_scaled _ _ (by decide), Int.sign_mul, show (10 : Int).sign = 1 from rfl, mul_one,
      Nat.add_sub_add_right]
  have range : List.range (scale + 1 + 1) = 0 :: (List.range (scale + 1)).map Nat.succ :=
    List.range_succ_eq_map
  rw [fit?, range, List.findSome?_cons, List.findSome?_map]
  have rest : (List.range (scale + 1)).findSome? (shorten? (units * 10) (scale + 1) ∘ Nat.succ) =
      fit? units scale := by
    rw [fit?]
    exact congrArg (List.findSome? · _) (funext later)
  rw [rest]
  cases whole : shorten? (units * 10) (scale + 1) 0 with
  | none => rfl
  | some d =>
    have multiple : units * 10 = units * 10 * (pow10 0 : Nat) := by simp
    rw [shorten?_of_eq_mul multiple] at whole
    have worth : (units : ℚ) / pow10 scale = d.value := by
      have pos := (pow10_cast_pos scale).ne'
      rw [ofUnits?_value whole multiple (Nat.zero_le _), pow10_succ]
      push_cast
      field_simp
    obtain ⟨d', fits, same⟩ := fit?_of_value worth (by omega)
    simp only [fits, Option.map_some, same]

theorem fit?_finer (units : Int) {scale : Nat} (more : Nat) (bound : scale + more ≤ 28) :
    (fit? (units * pow10 more) (scale + more)).map value = (fit? units scale).map value := by
  induction more with
  | zero => simp
  | succ k ih =>
    rw [pow10_succ, Nat.cast_mul, ← mul_assoc, ← ih (by omega)]
    exact fit?_succ (units * pow10 k) bound

/-- What is worth the same is held without rounding. -/
theorem fit?_whole (d : Decimal) : (fit? (d.unitsAt 28) 28).map value = some d.value := by
  obtain ⟨held, fits, same⟩ := fit?_of_value (unitsAt_value d.scale_le) (Nat.le_refl 28)
  rw [fits, Option.map_some, same]

/-- A sum is what both parts come to in the finest steps, rounded once. -/
theorem add?_value (a b : Decimal) :
    (a.add? b).map value = (fit? (a.unitsAt 28 + b.unitsAt 28) 28).map value := by
  have none_of_zero {d : Decimal} (zero : d.isZero = true) : d.unitsAt 28 = 0 := by
    have units : d.units = 0 := by simpa [isZero] using zero
    rw [unitsAt, units, zero_mul]
  unfold add?
  split
  next zero => rw [none_of_zero zero, zero_add, fit?_whole, Option.map_some]
  next =>
    split
    next zero => rw [none_of_zero zero, add_zero, fit?_whole, Option.map_some]
    next =>
      have finer {d : Decimal} {scale : Nat} (fits : d.scale ≤ scale) (bound : scale ≤ 28) :
          d.unitsAt scale * pow10 (28 - scale) = d.unitsAt 28 := by
        have places : 28 - d.scale = scale - d.scale + (28 - scale) := by omega
        rw [unitsAt, unitsAt, mul_assoc, ← Nat.cast_mul, places]
        exact congrArg (fun p : Nat => d.units * p) (Nat.pow_add 10 _ _).symm
      have bound : max a.scale b.scale ≤ 28 := Nat.max_le.mpr ⟨a.scale_le, b.scale_le⟩
      have whole := fit?_finer (a.unitsAt (max a.scale b.scale) + b.unitsAt (max a.scale b.scale))
        (28 - max a.scale b.scale) (Nat.add_sub_cancel' bound).le
      rw [add_mul, finer (Nat.le_max_left _ _) bound, finer (Nat.le_max_right _ _) bound,
        Nat.add_sub_cancel' bound] at whole
      exact whole.symm

theorem add_mono (nonneg : 0 ≤ a.value) (nonneg' : 0 ≤ b.value) (le : a.value ≤ a'.value)
    (le' : b.value ≤ b'.value) {sum' : Decimal} (sum : a'.add b' = .ok sum') :
    ∃ sum, a.add b = .ok sum ∧ sum.value ≤ sum'.value := by
  have finest {d e : Decimal} (le : d.value ≤ e.value) : d.unitsAt 28 ≤ e.unitsAt 28 := by
    rw [← unitsAt_value d.scale_le, ← unitsAt_value e.scale_le,
      div_le_div_iff_of_pos_right (pow10_cast_pos 28)] at le
    exact_mod_cast le
  have above {d : Decimal} (nonneg : 0 ≤ d.value) : 0 ≤ d.unitsAt 28 := by
    have zero := finest (d := 0) (e := d) (by rwa [value_zero])
    exact zero
  obtain ⟨m, parts⟩ := Int.eq_ofNat_of_zero_le (add_nonneg (above nonneg) (above nonneg'))
  obtain ⟨n, parts'⟩ := Int.eq_ofNat_of_zero_le
    (add_nonneg (above (nonneg.trans le)) (above (nonneg'.trans le')))
  have ordered : m ≤ n := by
    have := add_le_add (finest le) (finest le')
    omega
  have whole := add?_value a' b'
  rw [add] at sum
  split at sum
  next found =>
    cases sum
    rw [found, parts', Option.map_some] at whole
    obtain ⟨rounded', fits', same'⟩ := Option.map_eq_some_iff.mp whole.symm
    obtain ⟨rounded, fits, less⟩ := fit?_mono ordered fits'
    have whole := add?_value a b
    rw [parts, fits, Option.map_some] at whole
    obtain ⟨sum, added, same⟩ := Option.map_eq_some_iff.mp whole
    refine ⟨sum, by rw [add, added], ?_⟩
    rw [same, ← same']
    exact less
  next => cases sum

/-- What is added to is not more than the sum. -/
theorem le_add (nonneg : 0 ≤ a.value) (nonneg' : 0 ≤ b.value) {sum : Decimal} (added : a.add b = .ok sum) :
    a.value ≤ sum.value := by
  obtain ⟨alone, unchanged, le⟩ := add_mono (b := 0) nonneg (by rw [value_zero]) (le_refl a.value)
    (by rwa [value_zero]) added
  rwa [value_add_zero unchanged] at le

/-- Some of the parts, on top of no more, come to no more. -/
theorem sum_sublist {part ds : List Decimal} (some_of : part.Sublist ds) (nonneg : ∀ d ∈ ds, 0 ≤ d.value)
    (start : 0 ≤ a.value) (le : a.value ≤ b.value) {sum : Decimal} (whole : ds.foldlM add b = .ok sum) :
    ∃ less, part.foldlM add a = .ok less ∧ 0 ≤ less.value ∧ less.value ≤ sum.value := by
  induction some_of generalizing a b with
  | slnil =>
    cases whole
    exact ⟨a, rfl, start, le⟩
  | cons d _ ih =>
    obtain ⟨positive, nonneg⟩ := List.forall_mem_cons.mp nonneg
    obtain ⟨next, added, whole⟩ := foldlM_cons_ok whole
    exact ih nonneg start (le.trans (le_add (start.trans le) positive added)) whole
  | cons_cons d _ ih =>
    obtain ⟨positive, nonneg⟩ := List.forall_mem_cons.mp nonneg
    obtain ⟨next, added, whole⟩ := foldlM_cons_ok whole
    obtain ⟨next', added', le'⟩ := add_mono start positive le (le_refl d.value) added
    obtain ⟨less, rest, bounds⟩ := ih nonneg (start.trans (le_add start positive added')) le' whole
    refine ⟨less, ?_, bounds⟩
    rw [List.foldlM_cons, added']
    exact rest

end WitnessedTransfer.Decimal
