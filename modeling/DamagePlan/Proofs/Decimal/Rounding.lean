import Mathlib.Algebra.Order.Field.Power
import Mathlib.Data.Rat.Cast.Order
import Mathlib.Tactic.FieldSimp
import Mathlib.Tactic.Linarith
import Mathlib.Tactic.Positivity
import Mathlib.Tactic.Ring
import DamagePlan.Decimal.Shortest
import DamagePlan.Proofs.Decimal.Bits

/-!
The fractions that round to a number.
-/
set_option autoImplicit false

namespace DamagePlan.Decimal

def ratio (f : Nat × Nat) : ℚ := (f.1 : ℚ) / f.2

theorem scale_ratio (base n d : Nat) (e : Int) (posBase : 0 < base) (pos : 0 < d) :
    0 < (if 0 ≤ e then (n * base ^ e.toNat, d) else (n, d * base ^ (-e).toNat)).2 ∧
      ratio (if 0 ≤ e then (n * base ^ e.toNat, d) else (n, d * base ^ (-e).toNat)) = (n : ℚ) / d * base ^ e := by
  unfold ratio
  by_cases up : 0 ≤ e
  · obtain ⟨k, rfl⟩ := Int.eq_ofNat_of_zero_le up
    simp only [up, if_true, Int.toNat_natCast]
    exact ⟨pos, by push_cast; rw [zpow_natCast]; ring⟩
  · obtain ⟨k, rfl⟩ : ∃ k : Nat, e = -(k : Int) := ⟨(-e).toNat, by omega⟩
    simp only [up, if_false, neg_neg, Int.toNat_natCast]
    exact ⟨by positivity, by push_cast; rw [zpow_neg, zpow_natCast]; field_simp⟩

theorem scale_binary_ratio (n d : Nat) (e : Int) (pos : 0 < d) :
    0 < (scaleBinary n d e).2 ∧ ratio (scaleBinary n d e) = (n : ℚ) / d * 2 ^ e :=
  scale_ratio 2 n d e (by decide) pos

theorem scale_decimal_ratio (n d : Nat) (e : Int) (pos : 0 < d) :
    0 < (scaleDecimal n d e).2 ∧ ratio (scaleDecimal n d e) = (n : ℚ) / d * 10 ^ e :=
  scale_ratio 10 n d e (by decide) pos

theorem ratio_positive (f : Nat × Nat) (positive : 0 < ratio f) : 0 < f.1 := by
  rcases Nat.eq_zero_or_pos f.1 with zero | pos
  · simp [ratio, zero] at positive
  · exact pos

theorem round_div_near (n d m : Nat) (pos : 0 < d) (low : (m : ℚ) - 1 / 2 ≤ (n : ℚ) / d)
    (high : (n : ℚ) / d ≤ m + 1 / 2)
    (strict : m % 2 ≠ 0 → (m : ℚ) - 1 / 2 < (n : ℚ) / d ∧ (n : ℚ) / d < m + 1 / 2) : roundDiv n d = m := by
  have posQ : (0 : ℚ) < d := by exact_mod_cast pos
  have split : d * (n / d) + n % d = n := Nat.div_add_mod n d
  have rest : n % d < d := Nat.mod_lt n pos
  have lowNat : 2 * (d * m) ≤ 2 * n + d := by
    rw [le_div_iff₀ posQ] at low
    have scaled : (2 * (d * m) : ℚ) ≤ 2 * n + d := by linarith
    exact_mod_cast scaled
  have highNat : 2 * n ≤ 2 * (d * m) + d := by
    rw [div_le_iff₀ posQ] at high
    have scaled : (2 * n : ℚ) ≤ 2 * (d * m) + d := by linarith
    exact_mod_cast scaled
  have strictNat : m % 2 ≠ 0 → 2 * (d * m) < 2 * n + d ∧ 2 * n < 2 * (d * m) + d := by
    intro odd
    obtain ⟨left, right⟩ := strict odd
    rw [lt_div_iff₀ posQ] at left
    rw [div_lt_iff₀ posQ] at right
    have first : (2 * (d * m) : ℚ) < 2 * n + d := by linarith
    have second : (2 * n : ℚ) < 2 * (d * m) + d := by linarith
    exact ⟨by exact_mod_cast first, by exact_mod_cast second⟩
  unfold roundDiv
  dsimp only
  generalize n / d = q at split ⊢
  generalize n % d = r at split rest ⊢
  have choice : m = q ∨ m = q + 1 := by
    have notAbove : ¬q + 2 ≤ m := fun above => by
      have product := Nat.mul_le_mul_left d above
      have expanded : d * (q + 2) = d * q + 2 * d := by ring
      omega
    have notBelow : ¬m + 1 ≤ q := fun below => by
      have product := Nat.mul_le_mul_left d below
      have expanded : d * (m + 1) = d * m + d := by ring
      omega
    omega
  rcases choice with rfl | rfl
  · split_ifs <;> omega
  · have expanded : d * (q + 1) = d * q + d := by ring
    rw [expanded] at lowNat highNat strictNat
    split_ifs <;> omega

theorem log2_bounds (n : Nat) (pos : 0 < n) : (2 : ℚ) ^ (n.log2 : Int) ≤ n ∧ (n : ℚ) < 2 ^ ((n.log2 : Int) + 1) := by
  have low : 2 ^ n.log2 ≤ n := Nat.log2_self_le (by omega)
  have high : n < 2 ^ (n.log2 + 1) := Nat.lt_log2_self
  rw [zpow_natCast, show (n.log2 : Int) + 1 = ((n.log2 + 1 : Nat) : Int) by push_cast; rfl, zpow_natCast]
  exact ⟨by exact_mod_cast low, by exact_mod_cast high⟩

theorem floor_log2_bounds (num den : Nat) (posNum : 0 < num) (posDen : 0 < den) :
    (2 : ℚ) ^ floorLog2 num den ≤ (num : ℚ) / den ∧ (num : ℚ) / den < 2 ^ (floorLog2 num den + 1) := by
  obtain ⟨numLow, numHigh⟩ := log2_bounds num posNum
  obtain ⟨denLow, denHigh⟩ := log2_bounds den posDen
  have posQ : (0 : ℚ) < den := by exact_mod_cast posDen
  unfold floorLog2
  generalize (num.log2 : Int) = a at *
  generalize (den.log2 : Int) = b at *
  have above : (2 : ℚ) ^ (a - b - 1) ≤ (num : ℚ) / den := by
    rw [le_div_iff₀ posQ]
    calc (2 : ℚ) ^ (a - b - 1) * den ≤ 2 ^ (a - b - 1) * 2 ^ (b + 1) :=
          mul_le_mul_of_nonneg_left denHigh.le (by positivity)
      _ = 2 ^ a := by rw [← zpow_add₀ (by norm_num)]; congr 1; ring
      _ ≤ num := numLow
  have below : (num : ℚ) / den < 2 ^ (a - b + 1) := by
    rw [div_lt_iff₀ posQ]
    calc (num : ℚ) < 2 ^ (a + 1) := numHigh
      _ = 2 ^ (a - b + 1) * 2 ^ b := by rw [← zpow_add₀ (by norm_num)]; congr 1; ring
      _ ≤ 2 ^ (a - b + 1) * den := mul_le_mul_of_nonneg_left denLow (by positivity)
  obtain ⟨posScaled, scaled⟩ := scale_binary_ratio num den (-(a - b)) posDen
  have test : (scaleBinary num den (-(a - b))).1 < (scaleBinary num den (-(a - b))).2 ↔
      (num : ℚ) / den < 2 ^ (a - b) := by
    have posScaledQ : (0 : ℚ) < (scaleBinary num den (-(a - b))).2 := by exact_mod_cast posScaled
    rw [show (scaleBinary num den (-(a - b))).1 < (scaleBinary num den (-(a - b))).2 ↔
      ratio (scaleBinary num den (-(a - b))) < 1 by rw [ratio, div_lt_one posScaledQ]; norm_cast]
    rw [scaled, zpow_neg, ← div_eq_mul_inv, div_lt_one (by positivity)]
  dsimp only
  split
  · rename_i less
    exact ⟨above, by simpa using test.mp less⟩
  · rename_i notLess
    exact ⟨not_lt.mp fun less => notLess (test.mpr less), below⟩

theorem floor_log2_unique (num den : Nat) (posNum : 0 < num) (posDen : 0 < den) (k : Int)
    (low : (2 : ℚ) ^ k ≤ (num : ℚ) / den) (high : (num : ℚ) / den < 2 ^ (k + 1)) : floorLog2 num den = k := by
  obtain ⟨below, above⟩ := floor_log2_bounds num den posNum posDen
  have first : floorLog2 num den < k + 1 := (zpow_lt_zpow_iff_right₀ (by norm_num)).mp (below.trans_lt high)
  have second : k < floorLog2 num den + 1 := (zpow_lt_zpow_iff_right₀ (by norm_num)).mp (low.trans_lt above)
  omega

theorem floor_log2_below (num den : Nat) (posNum : 0 < num) (posDen : 0 < den) (k : Int)
    (high : (num : ℚ) / den < 2 ^ (k + 1)) : floorLog2 num den ≤ k := by
  obtain ⟨below, _⟩ := floor_log2_bounds num den posNum posDen
  have less : floorLog2 num den < k + 1 := (zpow_lt_zpow_iff_right₀ (by norm_num)).mp (below.trans_lt high)
  omega

def Digits.Neighbourhood.Contains (around : Digits.Neighbourhood) (q : ℚ) : Prop :=
  around.low * 2 ^ around.unit ≤ q ∧ q ≤ around.high * 2 ^ around.unit ∧
    (around.closed = false → around.low * 2 ^ around.unit < q ∧ q < around.high * 2 ^ around.unit)

instance (around : Digits.Neighbourhood) (q : ℚ) : Decidable (around.Contains q) :=
  inferInstanceAs (Decidable (_ ∧ _ ∧ (_ → _)))

theorem nearest_bits_of_unit (num den : Nat) (posNum : 0 < num) (posDen : 0 < den) (unit : Int) (k : Nat)
    (isUnit : max (floorLog2 num den - 52) (-1074) = unit)
    (low : ((k : ℚ) - 1 / 2) * 2 ^ unit ≤ (num : ℚ) / den) (high : (num : ℚ) / den ≤ (k + 1 / 2) * 2 ^ unit)
    (strict : k % 2 ≠ 0 → ((k : ℚ) - 1 / 2) * 2 ^ unit < (num : ℚ) / den ∧ (num : ℚ) / den < (k + 1 / 2) * 2 ^ unit)
    (inRange : (unit + 1074).toNat * 2 ^ 52 + k < infinityBits) :
    nearestBits num den = (unit + 1074).toNat * 2 ^ 52 + k := by
  obtain ⟨pos, scaled⟩ := scale_binary_ratio num den (-unit) posDen
  have power : (0 : ℚ) < 2 ^ unit := by positivity
  rw [zpow_neg, ← div_eq_mul_inv] at scaled
  have rounded : roundDiv (scaleBinary num den (-unit)).1 (scaleBinary num den (-unit)).2 = k := by
    apply round_div_near _ _ k pos
    · rw [← ratio, scaled, le_div_iff₀ power]
      exact low
    · rw [← ratio, scaled, div_le_iff₀ power]
      exact high
    · intro odd
      rw [← ratio, scaled, lt_div_iff₀ power, div_lt_iff₀ power]
      exact strict odd
  have some_ : num ≠ 0 := by omega
  simp only [nearestBits, some_, if_false, Binary.leastExponent, isUnit, rounded]
  rw [show unit - -1074 = unit + 1074 by ring]
  exact Nat.min_eq_left inRange.le

theorem double_power (k : Int) : (2 : ℚ) ^ (k + 1) = 2 ^ k * 2 := zpow_add_one₀ (by norm_num) k

theorem quarter_powers (e : Int) (k : Nat) : (2 : ℚ) ^ (e + k) = 2 ^ (e - 2) * (4 * 2 ^ k) := by
  rw [show e + (k : Int) = e - 2 + 2 + k by ring, zpow_add₀ (by norm_num), zpow_add₀ (by norm_num), zpow_natCast]
  norm_num
  ring

theorem neighbourhood_low (m : Nat) (e : Int) (pos : 0 < m) : ((Digits.Neighbourhood.of m e).low : ℚ) =
    if m = 2 ^ 52 ∧ -1074 < e then (4 * m - 1 : ℚ) else 4 * m - 2 := by
  simp only [Digits.Neighbourhood.of]
  by_cases power : m = 2 ^ 52 ∧ Binary.leastExponent < e
  · have case : (decide (m = 2 ^ 52) && decide (Binary.leastExponent < e)) = true := by simpa using power
    rw [if_pos case, if_pos (show m = 2 ^ 52 ∧ -1074 < e from power), Nat.cast_sub (by omega)]
    norm_num
  · have case : ¬(decide (m = 2 ^ 52) && decide (Binary.leastExponent < e)) = true := by simpa using power
    rw [if_neg case, if_neg (show ¬(m = 2 ^ 52 ∧ -1074 < e) from power), Nat.cast_sub (by omega)]
    norm_num

theorem contained_quarters (m : Nat) (e : Int) (pos : 0 < m) (q : ℚ) (inside : (Digits.Neighbourhood.of m e).Contains q) :
    (4 * m - 2) * 2 ^ (e - 2) ≤ q ∧ q ≤ (4 * m + 2) * 2 ^ (e - 2) ∧
      (m = 2 ^ 52 ∧ -1074 < e → (4 * m - 1) * 2 ^ (e - 2) ≤ q) ∧
      (m % 2 ≠ 0 → (4 * m - 2) * 2 ^ (e - 2) < q ∧ q < (4 * m + 2) * 2 ^ (e - 2)) := by
  obtain ⟨low, high, strict⟩ := inside
  have start := neighbourhood_low m e pos
  have closed : (Digits.Neighbourhood.of m e).closed = decide (m % 2 = 0) := rfl
  have upper : (Digits.Neighbourhood.of m e).high = 4 * m + 2 := rfl
  have unit : (Digits.Neighbourhood.of m e).unit = e - 2 := rfl
  rw [unit] at low high strict
  rw [upper] at high strict
  rw [closed] at strict
  push_cast at high strict
  have quarter : (0 : ℚ) < 2 ^ (e - 2) := by positivity
  have least : (4 * m - 2) * 2 ^ (e - 2) ≤ ((Digits.Neighbourhood.of m e).low : ℚ) * 2 ^ (e - 2) := by
    refine mul_le_mul_of_nonneg_right ?_ quarter.le
    rw [start]
    split <;> linarith
  refine ⟨least.trans low, high, fun power => ?_, fun odd => ?_⟩
  · rwa [start, if_pos power] at low
  · obtain ⟨left, right⟩ := strict (by simpa using odd)
    exact ⟨least.trans_lt left, right⟩

theorem contained_unit (m : Nat) (e : Int) (magnitude : IsMagnitude m e) (num den : Nat) (posNum : 0 < num) (posDen : 0 < den)
    (low : (4 * m - 2) * 2 ^ (e - 2) ≤ (num : ℚ) / den) (high : (num : ℚ) / den ≤ (4 * m + 2) * 2 ^ (e - 2))
    (notUnder : ¬((m = 2 ^ 52 ∧ -1074 < e) ∧ (num : ℚ) / den < 2 ^ (e + 52))) :
    max (floorLog2 num den - 52) (-1074) = e := by
  obtain ⟨least, -, small, full⟩ := magnitude
  have quarter : (0 : ℚ) < 2 ^ (e - 2) := by positivity
  have top : (num : ℚ) / den < 2 ^ (e + 52 + 1) := by
    have next := quarter_powers e 53
    have smallQ : (m : ℚ) + 1 ≤ 2 ^ 53 := by exact_mod_cast small
    push_cast at next
    rw [show e + 52 + 1 = e + 53 by ring, next]
    nlinarith
  have below := floor_log2_below num den posNum posDen (e + 52) top
  by_cases lowest : e = -1074
  · omega
  · have above : -1074 < e := by omega
    have normal : 2 ^ 52 ≤ m := full.resolve_left lowest
    have reaches : (2 : ℚ) ^ (e + 52) ≤ (num : ℚ) / den := by
      by_cases exact_ : m = 2 ^ 52
      · exact not_lt.mp fun under => notUnder ⟨⟨exact_, above⟩, under⟩
      · have more : (2 : ℚ) ^ 52 + 1 ≤ m := by
          have less : 2 ^ 52 + 1 ≤ m := by omega
          exact_mod_cast less
        have binade := quarter_powers e 52
        push_cast at binade
        rw [binade]
        nlinarith
    have same := floor_log2_unique num den posNum posDen (e + 52) reaches top
    omega

theorem nearest_bits_under (m : Nat) (e : Int) (magnitude : IsMagnitude m e) (num den : Nat) (posNum : 0 < num)
    (posDen : 0 < den) (power : m = 2 ^ 52) (above : -1074 < e) (low : (4 * m - 1) * 2 ^ (e - 2) ≤ (num : ℚ) / den)
    (under : (num : ℚ) / den < 2 ^ (e + 52)) : nearestBits num den = magnitudeBits m e := by
  have inRange := magnitude_bits_finite m e magnitude
  have value : (m : ℚ) = 2 ^ 52 := by exact_mod_cast power
  have quarter : (0 : ℚ) < 2 ^ (e - 2) := by positivity
  have half : (2 : ℚ) ^ (e - 1) = 2 ^ (e - 2) * 2 := by rw [← double_power]; congr 1; ring
  have under51 := quarter_powers e 51
  have binade := quarter_powers e 52
  push_cast at under51 binade
  rw [value] at low
  have previous : floorLog2 num den = e + 51 := by
    apply floor_log2_unique num den posNum posDen
    · rw [under51]
      linarith
    · rw [show e + 51 + 1 = e + 52 by ring]
      exact under
  have unit : max (floorLog2 num den - 52) (-1074) = e - 1 := by omega
  have place : (e - 1 + 1074).toNat * 2 ^ 52 + 2 ^ 53 = magnitudeBits m e := by
    simp only [magnitudeBits]
    omega
  rw [binade] at under
  rw [← place] at inRange ⊢
  refine nearest_bits_of_unit num den posNum posDen (e - 1) (2 ^ 53) unit ?_ ?_ (fun odd => absurd (by norm_num) odd) inRange
  · rw [half]
    push_cast
    linarith
  · rw [half]
    push_cast
    linarith

theorem nearest_bits (m : Nat) (e : Int) (magnitude : IsMagnitude m e) (pos : 0 < m) (num den : Nat)
    (posNum : 0 < num) (posDen : 0 < den) (inside : (Digits.Neighbourhood.of m e).Contains ((num : ℚ) / den)) :
    nearestBits num den = magnitudeBits m e := by
  obtain ⟨low, high, begins, strict⟩ := contained_quarters m e pos _ inside
  by_cases under : (m = 2 ^ 52 ∧ -1074 < e) ∧ (num : ℚ) / den < 2 ^ (e + 52)
  · obtain ⟨power, under⟩ := under
    exact nearest_bits_under m e magnitude num den posNum posDen power.1 power.2 (begins power) under
  · have unit := contained_unit m e magnitude num den posNum posDen low high under
    have own := quarter_powers e 0
    push_cast at own
    rw [Int.add_zero] at own
    refine nearest_bits_of_unit num den posNum posDen e m unit ?_ ?_ ?_ (magnitude_bits_finite m e magnitude)
    · rw [own]
      linarith
    · rw [own]
      linarith
    · intro odd
      obtain ⟨left, right⟩ := strict odd
      rw [own]
      exact ⟨by linarith, by linarith⟩

end DamagePlan.Decimal
