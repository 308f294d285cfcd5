import Mathlib.Data.List.DropRight
import Mathlib.Data.Nat.Cast.Field
import DamagePlan.Decimal.Reading
import DamagePlan.Proofs.Decimal.Fewest

/-!
Decimal texts read back: the digits of a number, wherever the point is put, denote a fraction that rounds to it.
-/
set_option autoImplicit false

namespace DamagePlan.Decimal

open Text (isAsciiDigit)

def AllDigits (cs : List Char) : Prop := ∀ c ∈ cs, isAsciiDigit c = true

theorem digits_value_eq (cs : List Char) : digitsValue cs = Nat.ofDigitChars 10 cs 0 := by
  simp only [digitsValue, Nat.ofDigitChars, Nat.mul_comm]
  rfl

theorem digits_value_append (cs ds : List Char) :
    digitsValue (cs ++ ds) = digitsValue cs * 10 ^ ds.length + digitsValue ds := by
  simp only [digits_value_eq, Nat.ofDigitChars_append]
  rw [Nat.ofDigitChars_eq_ofDigitChars_zero, Nat.mul_comm]

theorem digits_value_zeros (n : Nat) : digitsValue (List.replicate n '0') = 0 := by
  rw [digits_value_eq, Nat.ofDigitChars_replicate_zero, Nat.mul_zero]

theorem digits_value_to_digits (n : Nat) : digitsValue (Nat.toDigits 10 n) = n := by
  rw [digits_value_eq, Nat.ofDigitChars_ten_toDigits]

theorem to_digits_all (n : Nat) : AllDigits (Nat.toDigits 10 n) := by
  intro c member
  have digit := Nat.isDigit_of_mem_toDigits (by decide) (by decide) member
  simp only [Char.isDigit, Bool.and_eq_true, decide_eq_true_eq] at digit
  simp only [isAsciiDigit, Bool.and_eq_true, decide_eq_true_eq]
  exact ⟨digit.1, digit.2⟩

theorem zeros_all (n : Nat) : AllDigits (List.replicate n '0') := by
  intro c member
  obtain rfl := List.eq_of_mem_replicate member
  rfl

theorem all_digits_append (cs ds : List Char) (first : AllDigits cs) (second : AllDigits ds) : AllDigits (cs ++ ds) :=
  fun c member => (List.mem_append.mp member).elim (first c) (second c)

theorem characters_zeros (digits : Digits) : ∃ n, Nat.toDigits 10 digits.value = digits.characters ++ List.replicate n '0' := by
  have split : (Nat.toDigits 10 digits.value).rdropWhile (· == '0') ++ (Nat.toDigits 10 digits.value).rtakeWhile (· == '0') =
      Nat.toDigits 10 digits.value := List.rdropWhile_append_rtakeWhile
  refine ⟨((Nat.toDigits 10 digits.value).rtakeWhile (· == '0')).length, ?_⟩
  have zeros : (Nat.toDigits 10 digits.value).rtakeWhile (· == '0') =
      List.replicate ((Nat.toDigits 10 digits.value).rtakeWhile (· == '0')).length '0' := by
    rw [List.eq_replicate_iff]
    exact ⟨rfl, fun c member => by simpa using List.mem_rtakeWhile_imp member⟩
  rw [← zeros]
  exact split.symm

theorem characters_all (digits : Digits) : AllDigits digits.characters := by
  obtain ⟨n, split⟩ := characters_zeros digits
  intro c member
  exact to_digits_all digits.value c (by rw [split]; exact List.mem_append_left _ member)

theorem characters_value (digits : Digits) (count : Nat) (pos : 0 < count) (low : 10 ^ (count - 1) ≤ digits.value)
    (high : digits.value < 10 ^ count) : digits.characters ≠ [] ∧
      (digitsValue digits.characters : ℚ) * 10 ^ (digits.exponent - digits.characters.length + 1) =
        digits.value * 10 ^ (digits.exponent - count + 1) := by
  obtain ⟨n, split⟩ := characters_zeros digits
  have value := digits_value_to_digits digits.value
  rw [split, digits_value_append, digits_value_zeros, List.length_replicate, Nat.add_zero] at value
  have positive : 0 < digits.value := lt_of_lt_of_le (by positivity) low
  have length : digits.characters.length + n = count := by
    have total := congrArg List.length split
    rw [List.length_append, List.length_replicate] at total
    have most := (Nat.length_toDigits_le_iff (b := 10) (by decide) pos).mpr high
    have least : count ≤ (Nat.toDigits 10 digits.value).length := by
      by_contra less
      have short : (Nat.toDigits 10 digits.value).length ≤ count - 1 := by omega
      rcases Nat.eq_zero_or_pos (count - 1) with zero | some_
      · have nonempty := Nat.length_toDigits_pos (b := 10) (n := digits.value)
        omega
      · have below := (Nat.length_toDigits_le_iff (b := 10) (by decide) some_).mp short
        omega
    omega
  constructor
  · intro none
    rw [none] at value
    simp [digitsValue] at value
    omega
  · rw [← value, ← length]
    push_cast
    rw [mul_assoc, ← zpow_natCast, ← zpow_add₀ (by norm_num)]
    congr 2
    ring

structure Written where
  whole : List Char
  fraction : List Char
  exponent : Option Int

namespace Written

def point (fraction : List Char) : List Char := if fraction = [] then [] else '.' :: fraction

def mark : Option Int → List Char
  | none => []
  | some e => 'e' :: Layout.exponentText e

def characters (w : Written) : List Char := w.whole ++ (point w.fraction ++ mark w.exponent)

def place (w : Written) : Int := w.exponent.getD 0 - w.fraction.length

def digits (w : Written) : List Char := w.whole ++ w.fraction

def denotes (w : Written) : ℚ := digitsValue w.digits * 10 ^ w.place

structure WellFormed (w : Written) : Prop where
  whole : AllDigits w.whole
  nonempty : w.whole ≠ []
  fraction : AllDigits w.fraction

/-! What follows a run of digits decides where the run ends. -/

def NoDigit (rest : List Char) : Prop := ∀ c ∈ rest.head?, isAsciiDigit c = false

theorem span_digits_append (cs rest : List Char) (all : AllDigits cs) (stop : NoDigit rest) :
    spanDigits (cs ++ rest) = (cs, rest) := by
  have halt : rest.takeWhile isAsciiDigit = [] ∧ rest.dropWhile isAsciiDigit = rest := by
    cases rest with
    | nil => exact ⟨rfl, rfl⟩
    | cons c rest =>
      have no : isAsciiDigit c = false := stop c rfl
      exact ⟨by simp [no], by simp [no]⟩
  rw [spanDigits, List.takeWhile_append_of_pos all, List.dropWhile_append_of_pos all, halt.1, halt.2, List.append_nil]

theorem exponent_text_digits (e : Int) : ∃ sign ds, Layout.exponentText e = sign :: ds ∧ AllDigits ds ∧ ds ≠ [] ∧
    (sign = '-' ∧ e < 0 ∨ sign = '+' ∧ 0 ≤ e) ∧ digitsValue ds = e.natAbs := by
  have sign : (if e < 0 then '-' else '+') = '-' ∧ e < 0 ∨ (if e < 0 then '-' else '+') = '+' ∧ 0 ≤ e := by
    by_cases negative : e < 0
    · exact .inl ⟨by simp [negative], negative⟩
    · exact .inr ⟨by simp [negative], by omega⟩
  have value := digits_value_to_digits e.natAbs
  refine ⟨_, _, rfl, ?_, ?_, sign, ?_⟩
  · split
    · exact all_digits_append ['0'] _ (zeros_all 1) (to_digits_all _)
    · exact to_digits_all _
  · split
    · exact List.cons_ne_nil _ _
    · exact List.ne_nil_of_length_pos (Nat.length_toDigits_pos)
  · split
    · rw [show ∀ ds, '0' :: ds = ['0'] ++ ds from fun _ => rfl, digits_value_append, value]
      rw [show digitsValue ['0'] = 0 from rfl, Nat.zero_mul, Nat.zero_add]
    · exact value

theorem mark_no_digit (exponent : Option Int) : NoDigit (mark exponent) := by
  intro c first
  cases exponent with
  | none => cases first
  | some e =>
    obtain rfl : 'e' = c := by simpa [mark] using first
    rfl

theorem read_exponent_mark (exponent : Option Int) : readExponent (mark exponent) = (exponent.getD 0, []) := by
  cases exponent with
  | none => rfl
  | some e =>
    obtain ⟨sign, ds, text, all, nonempty, kind, value⟩ := exponent_text_digits e
    have span : spanDigits ds = (ds, []) := by
      have whole := span_digits_append ds [] all (by simp [NoDigit])
      rwa [List.append_nil] at whole
    rw [mark, text]
    obtain ⟨rfl, negative⟩ | ⟨rfl, positive⟩ := kind
    · cases ds with
      | nil => exact absurd rfl nonempty
      | cons d ds =>
        simp only [readExponent, beq_self_eq_true, Bool.true_or, if_true, span, value]
        simp only [Option.getD_some, Prod.mk.injEq, and_true]
        omega
    · cases ds with
      | nil => exact absurd rfl nonempty
      | cons d ds =>
        simp only [readExponent, beq_self_eq_true, Bool.true_or, if_true, span, value]
        simp only [Option.getD_some, Prod.mk.injEq, and_true]
        simp only [Bool.false_eq_true, if_false]
        omega

theorem read_fraction_point (fraction : List Char) (exponent : Option Int) (all : AllDigits fraction) :
    readFraction (point fraction ++ mark exponent) = (fraction, mark exponent) := by
  by_cases empty : fraction = []
  · rw [empty]
    cases exponent <;> rfl
  · rw [point, if_neg empty]
    exact span_digits_append fraction _ all (mark_no_digit exponent)

theorem point_no_digit (fraction rest : List Char) (stop : NoDigit rest) : NoDigit (point fraction ++ rest) := by
  by_cases empty : fraction = []
  · rwa [point, if_pos empty]
  · rw [point, if_neg empty]
    intro c first
    obtain rfl : '.' = c := by simpa using first
    rfl

theorem read_unsigned_written (w : Written) (negative : Bool) (formed : w.WellFormed) :
    readUnsigned? negative w.characters = some (ofDecimal negative (digitsValue w.digits) w.place) := by
  have whole := span_digits_append w.whole _ formed.whole (point_no_digit w.fraction _ (mark_no_digit w.exponent))
  have nonempty := formed.nonempty
  simp only [readUnsigned?, characters, whole, read_fraction_point _ _ formed.fraction, read_exponent_mark]
  simp [nonempty, digits, place]

end Written

theorem to_digits_length (n : Nat) (pos : 0 < n) : 10 ^ ((Nat.toDigits 10 n).length - 1) ≤ n ∧
    n < 10 ^ (Nat.toDigits 10 n).length := by
  have some_ := Nat.length_toDigits_pos (b := 10) (n := n)
  constructor
  · rcases Nat.eq_zero_or_pos ((Nat.toDigits 10 n).length - 1) with zero | more
    · rw [zero]
      exact pos
    · by_contra less
      have short := (Nat.length_toDigits_le_iff (b := 10) (by decide) more).mpr (Nat.lt_of_not_le less)
      omega
  · exact (Nat.length_toDigits_le_iff (b := 10) (by decide) some_).mp (Nat.le_refl _)

theorem decimal_limits : (10 : ℚ) ^ (-330 : Int) ≤ 2 ^ (-1075 : Int) ∧ (2 : ℚ) ^ (1025 : Int) < 10 ^ (310 : Int) := by
  have low : (2 : ℕ) ^ 1075 ≤ 10 ^ 330 := by decide +kernel
  have high : (2 : ℕ) ^ 1025 < 10 ^ 310 := by decide +kernel
  have cast (b n : ℕ) : (b : ℚ) ^ (n : Int) = (b ^ n : ℕ) := by rw [zpow_natCast, Nat.cast_pow]
  constructor
  · rw [zpow_neg, zpow_neg]
    apply inv_anti₀ (by positivity)
    exact (cast 2 1075).trans_le ((Nat.cast_le.mpr low).trans (cast 10 330).ge)
  · exact (cast 2 1025).trans_lt ((Nat.cast_lt.mpr high).trans_eq (cast 10 310).symm)

theorem neighbourhood_bounds (m : Nat) (e : Int) (magnitude : IsMagnitude m e) (pos : 0 < m) (q : ℚ)
    (inside : (Digits.Neighbourhood.of m e).Contains q) : (2 : ℚ) ^ (-1075 : Int) ≤ q ∧ q ≤ 2 ^ (1025 : Int) := by
  obtain ⟨low, high, _⟩ := inside
  have least : (1 : ℚ) ≤ m := by exact_mod_cast pos
  have most : (m : ℚ) ≤ 2 ^ 53 - 1 := by
    have small : m + 1 ≤ 2 ^ 53 := magnitude.small
    have cast : (m : ℚ) + 1 ≤ 2 ^ 53 := by exact_mod_cast small
    linarith
  have bottom : (2 : ℚ) ^ (-1076 : Int) ≤ 2 ^ (e - 2) := zpow_le_zpow_right₀ (by norm_num) (by have := magnitude.low; omega)
  have top : (2 : ℚ) ^ (e - 2) ≤ 2 ^ (969 : Int) := zpow_le_zpow_right₀ (by norm_num) (by have := magnitude.high; omega)
  have unitOf : (Digits.Neighbourhood.of m e).unit = e - 2 := rfl
  have upper : ((Digits.Neighbourhood.of m e).high : ℚ) = 4 * m + 2 := by simp [Digits.Neighbourhood.of]
  rw [unitOf, neighbourhood_low m e pos] at low
  rw [unitOf, upper] at high
  have quarter : (0 : ℚ) < 2 ^ (e - 2) := by positivity
  have two : (2 : ℚ) ≤ if m = 2 ^ 52 ∧ -1074 < e then (4 * m - 1 : ℚ) else 4 * m - 2 := by split <;> linarith
  constructor
  · calc (2 : ℚ) ^ (-1075 : Int) = 2 * 2 ^ (-1076 : Int) := by rw [mul_comm, ← double_power]; rfl
      _ ≤ 2 * 2 ^ (e - 2) := by linarith
      _ ≤ _ := mul_le_mul_of_nonneg_right two quarter.le
      _ ≤ q := low
  · calc q ≤ (4 * m + 2) * 2 ^ (e - 2) := high
      _ ≤ 2 ^ 55 * 2 ^ (e - 2) := mul_le_mul_of_nonneg_right (by linarith) quarter.le
      _ ≤ 2 ^ 55 * 2 ^ (969 : Int) := by linarith
      _ ≤ 2 ^ (1025 : Int) := by rw [← zpow_natCast, ← zpow_add₀ (by norm_num)]; exact zpow_le_zpow_right₀ (by norm_num) (by norm_num)

theorem of_decimal_near (x : Float) (negative : Bool) (m : Nat) (e : Int)
    (decoded : Binary.ofFloat x = .finite negative m e) (pos : 0 < m) (n : Nat) (k : Int)
    (inside : (Digits.Neighbourhood.of m e).Contains (n * 10 ^ k)) : ofDecimal negative n k = x := by
  obtain ⟨magnitude, -⟩ := of_float_finite x negative m e decoded
  obtain ⟨low, high⟩ := neighbourhood_bounds m e magnitude pos _ inside
  have posQ : (0 : ℚ) < n * 10 ^ k := lt_of_lt_of_le (by positivity) low
  have posN : 0 < n := by
    rcases Nat.eq_zero_or_pos n with zero | some_
    · simp [zero] at posQ
    · exact some_
  obtain ⟨fewest, most⟩ := to_digits_length n posN
  have digit := Nat.length_toDigits_pos (b := 10) (n := n)
  have power : (0 : ℚ) < 10 ^ k := by positivity
  have least : (-330 : Int) ≤ (Nat.toDigits 10 n).length + k := by
    have less : (n : ℚ) * 10 ^ k < 10 ^ ((Nat.toDigits 10 n).length + k) := by
      rw [zpow_add₀ (by norm_num), zpow_natCast]
      exact mul_lt_mul_of_pos_right (by exact_mod_cast most) power
    have reached : (10 : ℚ) ^ (-330 : Int) < 10 ^ ((Nat.toDigits 10 n).length + k) :=
      lt_of_le_of_lt decimal_limits.1 (low.trans_lt less)
    exact ((zpow_lt_zpow_iff_right₀ (by norm_num)).mp reached).le
  have greatest : (Nat.toDigits 10 n).length + k ≤ 310 := by
    have more : (10 : ℚ) ^ ((Nat.toDigits 10 n).length - 1 + k) ≤ n * 10 ^ k := by
      rw [zpow_add₀ (by norm_num), show ((Nat.toDigits 10 n).length : Int) - 1 = (((Nat.toDigits 10 n).length - 1 : Nat) : Int) by omega,
        zpow_natCast]
      exact mul_le_mul_of_nonneg_right (by exact_mod_cast fewest) power.le
    have reached : (10 : ℚ) ^ ((Nat.toDigits 10 n).length - 1 + k) < 10 ^ (310 : Int) :=
      lt_of_le_of_lt (more.trans high) decimal_limits.2
    have below := (zpow_lt_zpow_iff_right₀ (by norm_num)).mp reached
    omega
  obtain ⟨posDen, value⟩ := scale_decimal_ratio n 1 k Nat.one_pos
  rw [Nat.cast_one, div_one] at value
  have posNum := ratio_positive _ (by rwa [value])
  have bits := nearest_bits m e magnitude pos _ _ posNum posDen (by rw [← value] at inside; exact inside)
  have inRange : ¬(n = 0 ∨ (Nat.toDigits 10 n).length + k < -330) := by omega
  simp only [ofDecimal]
  rw [if_neg (by simpa using inRange), if_neg (by omega), nearest, bits, of_bits_magnitude x negative m e decoded]

theorem of_decimal_zero (x : Float) (negative : Bool) (e k : Int)
    (decoded : Binary.ofFloat x = .finite negative 0 e) : ofDecimal negative 0 k = x := by
  obtain ⟨magnitude, -⟩ := of_float_finite x negative 0 e decoded
  have least : e = -1074 := magnitude.full.resolve_right (by decide)
  have back := of_bits_magnitude x negative 0 e decoded
  rw [least] at back
  exact back

namespace Written

def Shows (text cs : List Char) (k : Int) : Prop :=
  ∃ w : Written, w.WellFormed ∧ text = w.characters ∧ w.denotes = digitsValue cs * 10 ^ (k - cs.length + 1)

theorem far_exponents (k : Int) : (decide (k < Layout.shortest.leastPositional) ||
    decide (Layout.shortest.mostPositional < k)) = true ↔ k < -4 ∨ 15 < k := by
  rw [Bool.or_eq_true, decide_eq_true_iff, decide_eq_true_iff]
  rfl

theorem scientific_shows (cs : List Char) (k : Int) (all : AllDigits cs) (nonempty : cs ≠ [])
    (far : k < -4 ∨ 15 < k) : Shows (Layout.shortest.place cs k) cs k := by
  cases cs with
  | nil => exact absurd rfl nonempty
  | cons c cs =>
    have first : AllDigits [c] := fun d member => all d (by simp at member; simp [member])
    cases cs with
    | nil =>
      refine ⟨⟨[c], [], some k⟩, ⟨first, by simp, by simp [AllDigits]⟩, ?_, by simp [denotes, digits, place]⟩
      rw [Layout.place, if_pos ((far_exponents k).mpr far)]
      rfl
    | cons d cs =>
      refine ⟨⟨[c], d :: cs, some k⟩, ⟨first, by simp, fun a member => all a (List.mem_cons_of_mem _ member)⟩, ?_, ?_⟩
      · rw [Layout.place, if_pos ((far_exponents k).mpr far)]
        simp [characters, point, mark]
      · simp only [denotes, digits, place, Option.getD_some, List.length_cons, List.singleton_append]
        congr 2
        push_cast
        ring

theorem fractional_shows (cs : List Char) (k : Int) (all : AllDigits cs) (nonempty : cs ≠ []) (low : -4 ≤ k)
    (negative : k < 0) : Shows (Layout.shortest.place cs k) cs k := by
  have inside : ¬(k < -4 ∨ 15 < k) := by omega
  refine ⟨⟨['0'], List.replicate (-k - 1).toNat '0' ++ cs, none⟩,
    ⟨zeros_all 1, by simp, all_digits_append _ _ (zeros_all _) all⟩, ?_, ?_⟩
  · rw [Layout.place, if_neg (mt (far_exponents k).mp inside), if_pos negative]
    simp [characters, point, mark, nonempty]
  · have value : digitsValue (['0'] ++ (List.replicate (-k - 1).toNat '0' ++ cs)) = digitsValue cs := by
      rw [digits_value_append, digits_value_append, digits_value_zeros, show digitsValue ['0'] = 0 from rfl]
      simp
    simp only [denotes, digits, place, value, List.length_append, List.length_replicate, Option.getD_none]
    congr 2
    push_cast
    omega

theorem integral_shows (cs : List Char) (k : Int) (all : AllDigits cs) (nonempty : cs ≠ []) (positive : 0 ≤ k)
    (high : k ≤ 15) (short : cs.length ≤ k.toNat + 1) : Shows (Layout.shortest.place cs k) cs k := by
  have inside : ¬(k < -4 ∨ 15 < k) := by omega
  refine ⟨⟨cs ++ List.replicate (k.toNat + 1 - cs.length) '0', ['0'], none⟩,
    ⟨all_digits_append _ _ all (zeros_all _), by simp [nonempty], zeros_all 1⟩, ?_, ?_⟩
  · rw [Layout.place, if_neg (mt (far_exponents k).mp inside), if_neg (Int.not_lt.mpr positive)]
    simp [characters, point, mark, short, Layout.shortest]
  · simp only [denotes, digits, place, Option.getD_none, List.length_singleton]
    rw [digits_value_append, digits_value_append, digits_value_zeros, show digitsValue ['0'] = 0 from rfl]
    push_cast
    rw [List.length_replicate, add_zero, add_zero, List.length_singleton, mul_assoc, mul_assoc, ← zpow_natCast,
      ← zpow_natCast, ← zpow_add₀ (by norm_num), ← zpow_add₀ (by norm_num)]
    congr 2
    omega

theorem split_shows (cs : List Char) (k : Int) (all : AllDigits cs) (positive : 0 ≤ k) (high : k ≤ 15)
    (long : k.toNat + 1 < cs.length) : Shows (Layout.shortest.place cs k) cs k := by
  have inside : ¬(k < -4 ∨ 15 < k) := by omega
  have more : cs.drop (k.toNat + 1) ≠ [] := by simp; omega
  refine ⟨⟨cs.take (k.toNat + 1), cs.drop (k.toNat + 1), none⟩,
    ⟨fun c member => all c (List.mem_of_mem_take member), ?_, fun c member => all c (List.mem_of_mem_drop member)⟩, ?_, ?_⟩
  · exact List.ne_nil_of_length_pos (by rw [List.length_take]; omega)
  · rw [Layout.place, if_neg (mt (far_exponents k).mp inside), if_neg (Int.not_lt.mpr positive)]
    simp only [Nat.not_le.mpr long, if_false, characters, point, mark, more, List.append_nil]
  · simp only [denotes, digits, place, Option.getD_none, List.take_append_drop, List.length_drop]
    congr 2
    omega

theorem place_shows (cs : List Char) (k : Int) (all : AllDigits cs) (nonempty : cs ≠ []) :
    Shows (Layout.shortest.place cs k) cs k := by
  by_cases far : k < -4 ∨ 15 < k
  · exact scientific_shows cs k all nonempty far
  · by_cases negative : k < 0
    · exact fractional_shows cs k all nonempty (by omega) negative
    · by_cases short : cs.length ≤ k.toNat + 1
      · exact integral_shows cs k all nonempty (by omega) (by omega) short
      · exact split_shows cs k all (by omega) (by omega) (by omega)

def Writes (text : List Char) (x : Float) : Prop :=
  ∃ w : Written, w.WellFormed ∧ text = w.characters ∧ readUnsigned? false w.characters = some x

theorem digits_write (x : Float) (m : Nat) (e : Int) (decoded : Binary.ofFloat x = .finite false m e) (pos : 0 < m)
    (digits : Digits) (inside : Digits.ReadsIn (.of m e) digits) :
    Writes (Layout.shortest.place digits.characters digits.exponent) x := by
  obtain ⟨count, some_, low, high, contained⟩ := inside
  obtain ⟨nonempty, value⟩ := characters_value digits count some_ low high
  obtain ⟨w, formed, text, same⟩ := place_shows digits.characters digits.exponent (characters_all digits) nonempty
  refine ⟨w, formed, text, ?_⟩
  rw [read_unsigned_written w false formed]
  rw [← value, ← same] at contained
  exact congrArg some (of_decimal_near x false m e decoded pos _ _ contained)

theorem shortest_text_writes (x : Float) (m : Nat) (e : Int) (decoded : Binary.ofFloat x = .finite false m e) :
    Writes (shortestText x).toList x := by
  obtain ⟨magnitude, -⟩ := of_float_finite x false m e decoded
  have text : (shortestText x).toList = Layout.shortest.magnitude m e := by simp [shortestText, Layout.render, decoded]
  rw [text]
  rcases Nat.eq_zero_or_pos m with rfl | pos
  · refine ⟨⟨['0'], ['0'], none⟩, ⟨zeros_all 1, by simp, zeros_all 1⟩, rfl, ?_⟩
    rw [read_unsigned_written _ false ⟨zeros_all 1, by simp, zeros_all 1⟩]
    exact congrArg some (of_decimal_zero x false e _ decoded)
  · have digits := digits_write x m e decoded pos _ (Digits.shortest_reads m e magnitude pos)
    rw [Layout.magnitude, if_neg (by omega)]
    exact digits

theorem centre_inside (m : Nat) (e : Int) (pos : 0 < m) : (Digits.Neighbourhood.of m e).Contains (m * 2 ^ e) := by
  have four : (2 : ℚ) ^ e = 2 ^ (e - 2) * 4 := by simpa using quarter_powers e 0
  have quarter : (0 : ℚ) < 2 ^ (e - 2) := by positivity
  have unitOf : (Digits.Neighbourhood.of m e).unit = e - 2 := rfl
  have upper : ((Digits.Neighbourhood.of m e).high : ℚ) = 4 * m + 2 := by simp [Digits.Neighbourhood.of]
  unfold Digits.Neighbourhood.Contains
  rw [unitOf, upper, neighbourhood_low m e pos, four]
  split
  · exact ⟨by linarith, by linarith, fun _ => ⟨by linarith, by linarith⟩⟩
  · exact ⟨by linarith, by linarith, fun _ => ⟨by linarith, by linarith⟩⟩

theorem integral_value (x : Float) (m : Nat) (e n : Int) (decoded : Binary.ofFloat x = .finite false m e)
    (integral : integral? x = some n) : (n.natAbs : ℚ) = m * 2 ^ e ∧ ¬n < 0 := by
  obtain ⟨posDen, value⟩ := scale_binary_ratio m 1 e Nat.one_pos
  rw [Nat.cast_one, div_one] at value
  simp only [integral?, decoded] at integral
  split at integral
  · rename_i divides
    simp only [Bool.false_eq_true, if_false, Option.some.injEq] at integral
    refine ⟨?_, by rw [← integral]; exact Int.not_lt.mpr (Int.natCast_nonneg _)⟩
    rw [← integral, Int.natAbs_natCast, Nat.cast_div (Nat.dvd_of_mod_eq_zero divides) (by exact_mod_cast posDen.ne')]
    exact value
  · cases integral

theorem integer_text_writes (x : Float) (m : Nat) (e n : Int) (decoded : Binary.ofFloat x = .finite false m e)
    (integral : integral? x = some n) : Writes (integerText n).toList x := by
  obtain ⟨value, positive⟩ := integral_value x m e n decoded integral
  have formed : WellFormed ⟨Nat.toDigits 10 n.natAbs, [], none⟩ :=
    ⟨to_digits_all _, List.ne_nil_of_length_pos Nat.length_toDigits_pos, by simp [AllDigits]⟩
  refine ⟨_, formed, by simp [integerText, positive, characters, point, mark], ?_⟩
  rw [read_unsigned_written _ false formed]
  simp only [digits, place, List.append_nil, digits_value_to_digits, Option.getD_none, List.length_nil]
  rcases Nat.eq_zero_or_pos m with rfl | pos
  · have zero : n.natAbs = 0 := by
      rw [Nat.cast_zero, zero_mul] at value
      exact_mod_cast value
    rw [zero]
    exact congrArg some (of_decimal_zero x false e _ decoded)
  · apply congrArg some
    apply of_decimal_near x false m e decoded pos
    simpa [value] using centre_inside m e pos

end Written

end DamagePlan.Decimal
