import DamagePlan.Proofs.Decimal.Rounding

/-!
The fewest digits of a number lie among the fractions that round to it.
-/
set_option autoImplicit false

namespace DamagePlan.Decimal

theorem powers_above : ∀ n < 1024, 2 ^ (n + 1) ≤ 10 ^ (n * 30103 / 100000 + 2) ∧
    10 ^ (n * 30103 / 100000) ≤ 10 * 2 ^ n := by
  decide +kernel

theorem powers_below : ∀ n < 1075, 2 * 10 ^ ((n * 30103 + 99999) / 100000) ≤ 100 * 2 ^ n ∧
    2 ^ n ≤ 10 ^ ((n * 30103 + 99999) / 100000 + 1) := by
  decide +kernel

theorem guess_bounds (l : Int) (low : -1074 ≤ l) (high : l ≤ 1023) :
    (2 : ℚ) ^ (l + 1) ≤ 10 ^ (l * 30103 / 100000 + 2) ∧ (10 : ℚ) ^ (l * 30103 / 100000 - 1) ≤ 2 ^ l := by
  rcases Int.le_total 0 l with up | down
  · obtain ⟨n, rfl⟩ := Int.eq_ofNat_of_zero_le up
    obtain ⟨above, below⟩ := powers_above n (by omega)
    rw [show (n : Int) * 30103 / 100000 = ((n * 30103 / 100000 : Nat) : Int) by omega]
    generalize n * 30103 / 100000 = g at above below ⊢
    have aboveQ : (2 : ℚ) ^ (n + 1) ≤ 10 ^ (g + 2) := by exact_mod_cast above
    have belowQ : (10 : ℚ) ^ g ≤ 10 * 2 ^ n := by exact_mod_cast below
    constructor
    · exact_mod_cast aboveQ
    · rw [zpow_sub_one₀ (by norm_num), zpow_natCast, zpow_natCast]
      linarith
  · obtain ⟨n, rfl⟩ : ∃ n : Nat, l = -(n : Int) := ⟨(-l).toNat, by omega⟩
    obtain ⟨above, below⟩ := powers_below n (by omega)
    rw [show -(n : Int) * 30103 / 100000 = -(((n * 30103 + 99999) / 100000 : Nat) : Int) by omega]
    generalize (n * 30103 + 99999) / 100000 = h at above below ⊢
    have aboveQ : (2 : ℚ) * 10 ^ h ≤ 100 * 2 ^ n := by exact_mod_cast above
    have belowQ : (2 : ℚ) ^ n ≤ 10 ^ (h + 1) := by exact_mod_cast below
    constructor
    · rw [zpow_add₀ (by norm_num), zpow_add₀ (by norm_num), zpow_neg, zpow_neg, zpow_natCast, zpow_natCast,
        ← div_eq_inv_mul, ← div_eq_inv_mul, div_le_div_iff₀ (by positivity) (by positivity)]
      norm_num
      linarith
    · rw [show -(h : Int) - 1 = -((h + 1 : Nat) : Int) by push_cast; ring, zpow_neg, zpow_neg, zpow_natCast,
        zpow_natCast]
      exact inv_anti₀ (by positivity) belowQ

theorem floor_log10_bounds (num den : Nat) (posNum : 0 < num) (posDen : 0 < den)
    (low : (2 : ℚ) ^ (-1074 : Int) ≤ (num : ℚ) / den) (high : (num : ℚ) / den < 2 ^ (1024 : Int)) :
    (10 : ℚ) ^ Digits.floorLog10 num den ≤ (num : ℚ) / den ∧
      (num : ℚ) / den < 10 ^ (Digits.floorLog10 num den + 1) := by
  obtain ⟨below, above⟩ := floor_log2_bounds num den posNum posDen
  have least : -1074 < floorLog2 num den + 1 := (zpow_lt_zpow_iff_right₀ (by norm_num)).mp (low.trans_lt above)
  have most : floorLog2 num den < 1024 := (zpow_lt_zpow_iff_right₀ (by norm_num)).mp (below.trans_lt high)
  obtain ⟨upper, lower⟩ := guess_bounds (floorLog2 num den) (by omega) (by omega)
  have test : ∀ e : Int, (scaleDecimal num den (-e)).2 ≤ (scaleDecimal num den (-e)).1 ↔
      (10 : ℚ) ^ e ≤ (num : ℚ) / den := by
    intro e
    obtain ⟨pos, scaled⟩ := scale_decimal_ratio num den (-e) posDen
    have posQ : (0 : ℚ) < (scaleDecimal num den (-e)).2 := by exact_mod_cast pos
    rw [show (scaleDecimal num den (-e)).2 ≤ (scaleDecimal num den (-e)).1 ↔ 1 ≤ ratio (scaleDecimal num den (-e)) by
      rw [ratio, one_le_div posQ]; norm_cast]
    rw [scaled, zpow_neg, ← div_eq_mul_inv, one_le_div (by positivity)]
  unfold Digits.floorLog10
  dsimp only
  generalize floorLog2 num den * 30103 / 100000 = guess at *
  simp only [decide_eq_true_eq, test]
  split
  · rename_i reaches
    exact ⟨reaches, above.trans_le (by rwa [show guess + 1 + 1 = guess + 2 by ring])⟩
  · rename_i short
    split
    · rename_i reaches
      exact ⟨reaches, not_le.mp short⟩
    · rename_i shorter
      exact ⟨lower.trans below, by rw [show guess - 1 + 1 = guess by ring]; exact not_le.mp shorter⟩

namespace Digits.Neighbourhood

def gridScale (around : Neighbourhood) (place : Int) : Nat × Nat :=
  scaleDecimal (scaleBinary 1 1 around.unit).1 (scaleBinary 1 1 around.unit).2 (-place)

theorem grid_scale_cross (around : Neighbourhood) (place : Int) : 0 < (around.gridScale place).2 ∧
    ((around.gridScale place).1 : ℚ) * 10 ^ place = (around.gridScale place).2 * 2 ^ around.unit := by
  obtain ⟨pos, scaled⟩ := scale_binary_ratio 1 1 around.unit Nat.one_pos
  obtain ⟨posGrid, grid⟩ := scale_decimal_ratio (scaleBinary 1 1 around.unit).1 (scaleBinary 1 1 around.unit).2 (-place)
    pos
  rw [← ratio, scaled, ratio] at grid
  refine ⟨posGrid, ?_⟩
  have posQ : (0 : ℚ) < (around.gridScale place).2 := by exact_mod_cast posGrid
  change ((around.gridScale place).1 : ℚ) / (around.gridScale place).2 = _ at grid
  rw [div_eq_iff posQ.ne', zpow_neg] at grid
  rw [grid]
  field_simp

theorem grid_le (around : Neighbourhood) (place : Int) (x y : Nat) :
    (x * (around.gridScale place).1 ≤ y * (around.gridScale place).2 ↔
      (x : ℚ) * 2 ^ around.unit ≤ y * 10 ^ place) ∧
    (y * (around.gridScale place).2 ≤ x * (around.gridScale place).1 ↔
      (y : ℚ) * 10 ^ place ≤ x * 2 ^ around.unit) := by
  obtain ⟨pos, cross⟩ := around.grid_scale_cross place
  have step : (0 : ℚ) < 10 ^ place := by positivity
  have posQ : (0 : ℚ) < (around.gridScale place).2 := by exact_mod_cast pos
  have left : (x : ℚ) * (around.gridScale place).1 * 10 ^ place = x * 2 ^ around.unit * (around.gridScale place).2 := by
    rw [mul_assoc, cross]
    ring
  have right : (y : ℚ) * (around.gridScale place).2 * 10 ^ place = y * 10 ^ place * (around.gridScale place).2 := by
    ring
  constructor
  · rw [← mul_le_mul_iff_left₀ posQ, ← left, ← right, mul_le_mul_iff_left₀ step]
    exact_mod_cast Iff.rfl
  · rw [← mul_le_mul_iff_left₀ posQ, ← left, ← right, mul_le_mul_iff_left₀ step]
    exact_mod_cast Iff.rfl

theorem contains_grid (around : Neighbourhood) (place : Int) (n : Nat) :
    around.Contains (n * 10 ^ place) ↔
      if around.closed then around.low * (around.gridScale place).1 ≤ n * (around.gridScale place).2 ∧
        n * (around.gridScale place).2 ≤ around.high * (around.gridScale place).1
      else around.low * (around.gridScale place).1 < n * (around.gridScale place).2 ∧
        n * (around.gridScale place).2 < around.high * (around.gridScale place).1 := by
  have low := around.grid_le place around.low n
  have high := around.grid_le place around.high n
  have lowStrict := not_congr low.2
  have highStrict := not_congr high.1
  rw [not_le, not_le] at lowStrict highStrict
  unfold Contains
  cases around.closed with
  | true => simp [low.1, high.2]
  | false =>
    simp only [Bool.false_eq_true, if_false, lowStrict, highStrict]
    exact ⟨fun inside => inside.2.2 trivial, fun strict => ⟨strict.1.le, strict.2.le, fun _ => strict⟩⟩

def floorOn (around : Neighbourhood) (place : Int) : Nat :=
  around.value * (around.gridScale place).1 / (around.gridScale place).2

theorem floor_on_bounds (around : Neighbourhood) (place : Int) :
    (around.floorOn place : ℚ) * 10 ^ place ≤ around.value * 2 ^ around.unit ∧
      (around.value : ℚ) * 2 ^ around.unit < ((around.floorOn place : ℚ) + 1) * 10 ^ place := by
  have pos := (around.grid_scale_cross place).1
  have below : around.floorOn place * (around.gridScale place).2 ≤ around.value * (around.gridScale place).1 :=
    Nat.div_mul_le_self _ _
  have above : ¬(around.floorOn place + 1) * (around.gridScale place).2 ≤
      around.value * (around.gridScale place).1 := by
    rw [not_le, floorOn]
    exact Nat.lt_mul_of_div_lt (Nat.lt_succ_self _) pos
  have second := mt ((around.grid_le place around.value (around.floorOn place + 1)).2).mpr above
  push_cast at second
  exact ⟨((around.grid_le place around.value (around.floorOn place)).2).mp below, not_le.mp second⟩

theorem round_div_choice (n d : Nat) : roundDiv n d = n / d ∨ roundDiv n d = n / d + 1 := by
  unfold roundDiv
  dsimp only
  split
  · exact .inl rfl
  · split
    · exact .inr rfl
    · split
      · exact .inl rfl
      · exact .inr rfl

theorem on_grid_eq (around : Neighbourhood) (place : Int) :
    around.onGrid? place =
      match decide (around.Contains (around.floorOn place * 10 ^ place)) && around.floorOn place != 0,
        decide (around.Contains (((around.floorOn place + 1 : Nat) : ℚ) * 10 ^ place)) with
      | true, true => some (roundDiv (around.value * (around.gridScale place).1) (around.gridScale place).2)
      | true, false => some (around.floorOn place)
      | false, true => some (around.floorOn place + 1)
      | false, false => none := by
  have holds : ∀ n : Nat, decide (around.Contains (n * 10 ^ place)) =
      if around.closed then decide (around.low * (around.gridScale place).1 ≤ n * (around.gridScale place).2) &&
        decide (n * (around.gridScale place).2 ≤ around.high * (around.gridScale place).1)
      else decide (around.low * (around.gridScale place).1 < n * (around.gridScale place).2) &&
        decide (n * (around.gridScale place).2 < around.high * (around.gridScale place).1) := by
    intro n
    simp only [around.contains_grid place n]
    cases around.closed <;> simp
  rw [holds, holds]
  rfl

theorem on_grid_contains (around : Neighbourhood) (place : Int) (n : Nat) (found : around.onGrid? place = some n) :
    around.Contains (n * 10 ^ place) ∧ n ≠ 0 ∧ (n = around.floorOn place ∨ n = around.floorOn place + 1) := by
  rw [on_grid_eq] at found
  split at found
  · rename_i below above
    simp only [Bool.and_eq_true, decide_eq_true_eq, bne_iff_ne, ne_eq] at below above
    cases found
    rcases round_div_choice (around.value * (around.gridScale place).1) (around.gridScale place).2 with same | same
    · rw [same]
      exact ⟨below.1, below.2, .inl rfl⟩
    · rw [same]
      exact ⟨above, Nat.succ_ne_zero _, .inr rfl⟩
  · rename_i below _
    simp only [Bool.and_eq_true, decide_eq_true_eq, bne_iff_ne, ne_eq] at below
    cases found
    exact ⟨below.1, below.2, .inl rfl⟩
  · rename_i above
    simp only [decide_eq_true_eq] at above
    cases found
    exact ⟨above, Nat.succ_ne_zero _, .inr rfl⟩
  · cases found

theorem on_grid_found (around : Neighbourhood) (place : Int)
    (near : (around.Contains (around.floorOn place * 10 ^ place) ∧ around.floorOn place ≠ 0) ∨
      around.Contains (((around.floorOn place + 1 : Nat) : ℚ) * 10 ^ place)) : (around.onGrid? place).isSome := by
  rw [on_grid_eq]
  split
  · rfl
  · rfl
  · rfl
  · rename_i below above
    simp only [Bool.and_eq_false_iff, decide_eq_false_iff_not, bne_eq_false_iff_eq] at below above
    tauto

end Digits.Neighbourhood

namespace Digits

def ReadsIn (around : Neighbourhood) (digits : Digits) : Prop :=
  ∃ count : Nat, 0 < count ∧ 10 ^ (count - 1) ≤ digits.value ∧ digits.value < 10 ^ count ∧
    around.Contains ((digits.value : ℚ) * 10 ^ (digits.exponent - count + 1))

theorem ten_power_split (k : Int) (count : Nat) : (10 : ℚ) ^ (k + 1) = 10 ^ count * 10 ^ (k - count + 1) := by
  rw [← zpow_natCast, ← zpow_add₀ (by norm_num)]
  congr 1
  ring

theorem floor_on_digits (around : Neighbourhood) (k : Int) (count : Nat) (pos : 0 < count)
    (low : (10 : ℚ) ^ k ≤ around.value * 2 ^ around.unit)
    (high : (around.value : ℚ) * 2 ^ around.unit < 10 ^ (k + 1)) :
    10 ^ (count - 1) ≤ around.floorOn (k - count + 1) ∧ around.floorOn (k - count + 1) < 10 ^ count := by
  obtain ⟨below, above⟩ := around.floor_on_bounds (k - count + 1)
  have step : (0 : ℚ) < 10 ^ (k - count + 1) := by positivity
  constructor
  · have first := ten_power_split (k - 1) (count - 1)
    rw [show k - 1 + 1 = k by ring, show k - 1 - ((count - 1 : Nat) : Int) + 1 = k - count + 1 by omega] at first
    have reached : (10 : ℚ) ^ (count - 1) < around.floorOn (k - count + 1) + 1 := by
      rw [← mul_lt_mul_iff_left₀ step, ← first]
      exact low.trans_lt above
    exact Nat.lt_succ_iff.mp (by exact_mod_cast reached)
  · have short : (around.floorOn (k - count + 1) : ℚ) < 10 ^ count := by
      rw [← mul_lt_mul_iff_left₀ step, ← ten_power_split]
      exact below.trans_lt high
    exact_mod_cast short

theorem search_grids_reads (around : Neighbourhood) (k : Int) (low : (10 : ℚ) ^ k ≤ around.value * 2 ^ around.unit)
    (high : (around.value : ℚ) * 2 ^ around.unit < 10 ^ (k + 1)) (tries : Nat) :
    ∀ count, 0 < count → (around.onGrid? (k - (count + tries : Nat) + 1)).isSome →
      ReadsIn around (searchGrids around k (tries + 1) count) := by
  have found : ∀ (count n : Nat), 0 < count → around.onGrid? (k - count + 1) = some n →
      ReadsIn around (if n = 10 ^ count then ⟨1, k + 1⟩ else ⟨n, k⟩) := by
    intro count n pos hit
    obtain ⟨inside, _, choice⟩ := around.on_grid_contains _ n hit
    obtain ⟨least, most⟩ := floor_on_digits around k count pos low high
    by_cases full : n = 10 ^ count
    · rw [if_pos full]
      refine ⟨1, Nat.one_pos, by simp, by simp, ?_⟩
      rw [full] at inside
      push_cast at inside
      rw [← ten_power_split] at inside
      simpa using inside
    · rw [if_neg full]
      exact ⟨count, pos, by dsimp only; omega, by dsimp only; omega, inside⟩
  induction tries with
  | zero =>
    intro count pos some_
    obtain ⟨n, hit⟩ := Option.isSome_iff_exists.mp some_
    rw [Nat.add_zero] at hit
    simp only [searchGrids, hit]
    exact found count n pos hit
  | succ tries ih =>
    intro count pos some_
    rw [searchGrids]
    cases hit : around.onGrid? (k - count + 1) with
    | some n => exact found count n pos hit
    | none => exact ih (count + 1) (by omega) (by rwa [show count + 1 + tries = count + (tries + 1) by omega])

theorem value_power (m : Nat) (e : Int) :
    ((Neighbourhood.of m e).value : ℚ) * 2 ^ (Neighbourhood.of m e).unit = m * 2 ^ e := by
  have four : (2 : ℚ) ^ e = 2 ^ (e - 2) * 4 := by simpa using quarter_powers e 0
  simp only [Neighbourhood.of]
  push_cast
  rw [four]
  ring

theorem seventeen_digits (m : Nat) (e k : Int) (magnitude : IsMagnitude m e) (pos : 0 < m)
    (low : (10 : ℚ) ^ k ≤ m * 2 ^ e) (high : (m : ℚ) * 2 ^ e < 10 ^ (k + 1)) :
    ((Neighbourhood.of m e).onGrid? (k - 16)).isSome := by
  apply Neighbourhood.on_grid_found
  obtain ⟨below, above⟩ := (Neighbourhood.of m e).floor_on_bounds (k - 16)
  have least := (floor_on_digits (.of m e) k 17 (by decide) (by rwa [value_power]) (by rwa [value_power])).1
  rw [show k - ((17 : Nat) : Int) + 1 = k - 16 by push_cast; ring] at least
  have nonzero : (Neighbourhood.of m e).floorOn (k - 16) ≠ 0 := by
    have big : 0 < 10 ^ (17 - 1) := by decide
    omega
  have fine := ten_power_split (k - 1) 16
  rw [show k - 1 + 1 = k by ring, show k - 1 - ((16 : Nat) : Int) + 1 = k - 16 by push_cast; ring] at fine
  have small : (m : ℚ) < 2 ^ 53 := by exact_mod_cast magnitude.small
  have unitOf : (Neighbourhood.of m e).unit = e - 2 := rfl
  have upper : ((Neighbourhood.of m e).high : ℚ) = 4 * m + 2 := by simp [Neighbourhood.of]
  have four : (2 : ℚ) ^ e = 2 ^ (e - 2) * 4 := by simpa using quarter_powers e 0
  have quarter : (0 : ℚ) < 2 ^ (e - 2) := by positivity
  rw [value_power, four] at below above
  rw [four] at low
  unfold Neighbourhood.Contains
  rw [unitOf, upper, neighbourhood_low m e pos, Nat.cast_add, Nat.cast_one]
  rw [fine] at low
  generalize ((Neighbourhood.of m e).floorOn (k - 16) : ℚ) = f at below above ⊢
  generalize (10 : ℚ) ^ (k - 16) = step at *
  generalize (2 : ℚ) ^ (e - 2) = u at *
  by_cases power : m = 2 ^ 52 ∧ -1074 < e
  · -- the next point above is nearer than the upper end, which lies farther than the lower one
    rw [if_pos power]
    have value : (m : ℚ) = 2 ^ 52 := by exact_mod_cast power.1
    rw [value] at low below above ⊢
    exact .inr ⟨by linarith, by linarith, fun _ => ⟨by linarith, by linarith⟩⟩
  · rw [if_neg power]
    have bound : (m : ℚ) * u ≤ 2 ^ 53 * u := mul_le_mul_of_nonneg_right small.le quarter.le
    by_cases near : m * (u * 4) - f * step ≤ step / 2
    · exact .inl ⟨⟨by linarith, by linarith, fun _ => ⟨by linarith, by linarith⟩⟩, nonzero⟩
    · exact .inr ⟨by linarith, by linarith, fun _ => ⟨by linarith, by linarith⟩⟩

theorem magnitude_bounds (m : Nat) (e : Int) (magnitude : IsMagnitude m e) (pos : 0 < m) :
    (2 : ℚ) ^ (-1074 : Int) ≤ m * 2 ^ e ∧ (m : ℚ) * 2 ^ e < 2 ^ (1024 : Int) := by
  obtain ⟨low, high, small, _⟩ := magnitude
  have one : (1 : ℚ) ≤ m := by exact_mod_cast pos
  have less : (m : ℚ) < 2 ^ 53 := by exact_mod_cast small
  have power : (0 : ℚ) < 2 ^ e := by positivity
  constructor
  · calc (2 : ℚ) ^ (-1074 : Int) ≤ 2 ^ e := zpow_le_zpow_right₀ (by norm_num) low
      _ ≤ m * 2 ^ e := le_mul_of_one_le_left power.le one
  · calc (m : ℚ) * 2 ^ e < 2 ^ 53 * 2 ^ e := mul_lt_mul_of_pos_right less power
      _ = 2 ^ (53 + e) := by rw [zpow_add₀ (by norm_num)]; norm_cast
      _ ≤ 2 ^ (1024 : Int) := zpow_le_zpow_right₀ (by norm_num) (by omega)

theorem shortest_reads (m : Nat) (e : Int) (magnitude : IsMagnitude m e) (pos : 0 < m) :
    ReadsIn (.of m e) (shortest m e) := by
  obtain ⟨posDen, value⟩ := scale_binary_ratio m 1 e Nat.one_pos
  have whole : ((scaleBinary m 1 e).1 : ℚ) / (scaleBinary m 1 e).2 = m * 2 ^ e := by
    rw [← ratio, value]
    simp
  obtain ⟨low, high⟩ := magnitude_bounds m e magnitude pos
  have posNum : 0 < (scaleBinary m 1 e).1 := by
    apply ratio_positive
    rw [ratio, whole]
    exact lt_of_lt_of_le (by positivity) low
  obtain ⟨below, above⟩ := floor_log10_bounds _ _ posNum posDen (by rwa [whole]) (by rwa [whole])
  rw [whole] at below above
  unfold shortest
  dsimp only
  generalize floorLog10 (scaleBinary m 1 e).1 (scaleBinary m 1 e).2 = k at below above ⊢
  have enough := seventeen_digits m e k magnitude pos below above
  rw [show k - 16 = k - ((1 + 16 : Nat) : Int) + 1 by push_cast; ring] at enough
  rw [← value_power] at below above
  exact search_grids_reads (.of m e) k below above 16 1 Nat.one_pos enough

end Digits

end DamagePlan.Decimal
