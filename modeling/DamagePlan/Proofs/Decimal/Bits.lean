import Mathlib
import DamagePlan.Decimal.Binary

/-!
The bits of finite numbers: taking a number apart and putting it together again.
-/
set_option autoImplicit false

namespace DamagePlan.Decimal

open Float.Model (UnpackedFloat)
open Float.Model.UnpackedFloat (Sign unpackSign unpackExponent unpackMantissa packComponents pack unpack)

abbrev double : Float.Model.Format := .binary64

theorem components_value (s : Sign) (e : BitVec 11) (m : BitVec 52) :
    (packComponents double s e m).toNat = s.toBitVec.toNat * 2 ^ 63 + e.toNat * 2 ^ 52 + m.toNat := by
  have small : e.toNat < 2 ^ 11 := e.isLt
  have low : m.toNat < 2 ^ 52 := m.isLt
  change ((s.toBitVec ++ e) ++ m).toNat = _
  rw [BitVec.toNat_append, ← Nat.shiftLeft_add_eq_or_of_lt low, BitVec.toNat_append,
    ← Nat.shiftLeft_add_eq_or_of_lt small, Nat.shiftLeft_eq, Nat.shiftLeft_eq]
  omega

theorem sign_value (b : BitVec 64) : (@unpackSign double b).toNat = b.toNat / 2 ^ 63 := by
  have small := b.isLt
  simp [unpackSign, BitVec.extractLsb, BitVec.extractLsb'_toNat, Nat.shiftRight_eq_div_pow]
  omega

theorem exponent_value (b : BitVec 64) : (@unpackExponent double b).toNat = b.toNat / 2 ^ 52 % 2048 := by
  simp [unpackExponent, BitVec.extractLsb, BitVec.extractLsb'_toNat, Nat.shiftRight_eq_div_pow]

theorem mantissa_value (b : BitVec 64) : (@unpackMantissa double b).toNat = b.toNat % 2 ^ 52 := by
  simp [unpackMantissa, BitVec.extractLsb, BitVec.extractLsb'_toNat]

theorem sign_back (b : BitVec 1) : (Sign.ofBitVec b).toBitVec = b := by
  revert b
  decide

theorem components_back (b : BitVec 64) : packComponents double (Sign.ofBitVec (@unpackSign double b))
    (@unpackExponent double b) (@unpackMantissa double b) = b := by
  apply BitVec.eq_of_toNat_eq
  rw [components_value, sign_back, sign_value, exponent_value, mantissa_value]
  have small := b.isLt
  omega

def signed (s : Sign) (b : BitVec 64) : BitVec 64 :=
  packComponents double s (@unpackExponent double b) (@unpackMantissa double b)

def withSign (s : Sign) : UnpackedFloat → UnpackedFloat
  | .zero _ => .zero s
  | .finite _ m e pos => .finite s m e pos
  | other => other

theorem pack_subnormal (s : Sign) (fraction : BitVec 52) (e : Int) (pos : 0 < fraction.toNat)
    (least : e = -1074) : pack double (.finite s fraction.toNat e pos) = packComponents double s 0#11 fraction := by
  subst least
  have short : fraction.toNat.log2 < 52 := (Nat.log2_lt (by omega)).mpr fraction.isLt
  have subnormal : ¬fraction.toNat.log2 + 1 = Float.Model.Format.mantissaBits double := by
    change ¬fraction.toNat.log2 + 1 = 53
    omega
  simp only [pack]
  rw [if_neg (by decide), if_neg subnormal, BitVec.ofNat_toNat]
  rfl

theorem pack_normal (s : Sign) (field : BitVec 11) (fraction : BitVec 52) (e : Int) (m : Nat) (pos : 0 < m)
    (small : field.toNat < 2047) (exponent : e = (field.toNat : Int) - 1075) (mantissa : m = 2 ^ 52 + fraction.toNat) :
    pack double (.finite s m e pos) = packComponents double s field fraction := by
  subst exponent
  have low := fraction.isLt
  have long : m.log2 = 52 := by
    rw [Nat.log2_eq_iff (by omega)]
    omega
  have normal : m.log2 + 1 = Float.Model.Format.mantissaBits double := by
    change m.log2 + 1 = 53
    omega
  have biased : ((field.toNat : Int) - 1075 + (Float.Model.Format.exponentBias double : Int) + (52 : Nat)).toNat =
      field.toNat := by
    change ((field.toNat : Int) - 1075 + 1023 + 52).toNat = field.toNat
    omega
  simp only [pack]
  rw [biased, if_neg (by omega), if_pos normal, BitVec.ofNat_toNat]
  have whole : BitVec.ofNat 52 m = fraction := by
    apply BitVec.eq_of_toNat_eq
    rw [BitVec.toNat_ofNat]
    omega
  change packComponents double s (field.setWidth 11) (BitVec.ofNat 52 m) = _
  rw [whole, BitVec.setWidth_eq]

theorem pack_with_sign (s : Sign) (b : BitVec 64) (finite : b.toNat / 2 ^ 52 % 2048 ≠ 2047) :
    pack double (withSign s (unpack double b)) = signed s b := by
  have fieldValue := exponent_value b
  have notTop : @unpackExponent double b ≠ -1#11 := by
    intro top
    rw [top] at fieldValue
    exact finite fieldValue.symm
  have small : (@unpackExponent double b).toNat < 2047 := by omega
  simp only [signed, unpack]
  rw [if_neg notTop]
  by_cases least : @unpackExponent double b = 0#11
  · rw [if_pos least]
    by_cases none : @unpackMantissa double b = 0#52
    · rw [dif_pos none, least, none]
      rfl
    · rw [dif_neg none, least]
      exact pack_subnormal s _ _ _ (by rfl)
  · rw [if_neg least]
    refine pack_normal s _ _ _ _ _ small rfl ?_
    have low := (@unpackMantissa double b).isLt
    rw [BitVec.toNat_append, ← Nat.shiftLeft_add_eq_or_of_lt low]
    rfl

theorem with_own_sign (b : BitVec 64) :
    withSign (Sign.ofBitVec (@unpackSign double b)) (unpack double b) = unpack double b := by
  unfold unpack
  dsimp only
  split
  · split <;> rfl
  · split
    · split <;> rfl
    · rfl

theorem neg_unpack (b : BitVec 64) (finite : b.toNat / 2 ^ 52 % 2048 ≠ 2047) :
    (unpack double b).neg = withSign (-Sign.ofBitVec (@unpackSign double b)) (unpack double b) := by
  have notTop : @unpackExponent double b ≠ -1#11 := by
    intro top
    have fieldValue := exponent_value b
    rw [top] at fieldValue
    exact finite fieldValue.symm
  unfold unpack
  dsimp only
  rw [if_neg notTop]
  split
  · split <;> rfl
  · rfl

theorem float_ext (x y : Float) (same : x.toBits.toNat = y.toBits.toNat) : x = y := by
  obtain ⟨⟨a, _⟩⟩ := x
  obtain ⟨⟨b, _⟩⟩ := y
  obtain rfl : a = b := UInt64.toNat_inj.mp same
  rfl

theorem bits_of_bits (n : Nat) (small : n < 2 ^ 64) (finite : n / 2 ^ 52 % 2048 ≠ 2047) :
    (Float.ofBits (UInt64.ofNat n)).toBits.toNat = n := by
  have value : (UInt64.ofNat n).toBitVec.toNat = n := UInt64.toNat_ofNat_of_lt' small
  change (pack double (unpack double (UInt64.ofNat n).toBitVec)).toNat = n
  rw [← with_own_sign, pack_with_sign _ _ (by rwa [value]), signed, components_back, value]

theorem sign_flipped (b : BitVec 1) : (-Sign.ofBitVec b).toBitVec.toNat = 1 - b.toNat := by
  revert b
  decide

theorem bits_of_neg (x : Float) (finite : x.toBits.toNat / 2 ^ 52 % 2048 ≠ 2047) :
    (-x).toBits.toNat = if x.toBits.toNat < 2 ^ 63 then x.toBits.toNat + 2 ^ 63 else x.toBits.toNat - 2 ^ 63 := by
  change (pack double (unpack double x.toBits.toBitVec).neg).toNat = _
  have small := x.toBits.toBitVec.isLt
  have own := sign_value x.toBits.toBitVec
  change _ = x.toBits.toNat / 2 ^ 63 at own
  rw [neg_unpack _ finite, pack_with_sign _ _ finite, signed, components_value, exponent_value, mantissa_value]
  change _ + x.toBits.toNat / 2 ^ 52 % 2048 * 2 ^ 52 + x.toBits.toNat % 2 ^ 52 = _
  change x.toBits.toNat < 2 ^ 64 at small
  rw [sign_flipped, own]
  split <;> omega

structure IsMagnitude (mantissa : Nat) (exponent : Int) : Prop where
  low : -1074 ≤ exponent
  high : exponent ≤ 971
  small : mantissa < 2 ^ 53
  full : exponent = -1074 ∨ 2 ^ 52 ≤ mantissa

def magnitudeBits (mantissa : Nat) (exponent : Int) : Nat := (exponent + 1074).toNat * 2 ^ 52 + mantissa

theorem magnitude_bits_finite (m : Nat) (e : Int) (magnitude : IsMagnitude m e) : magnitudeBits m e < infinityBits := by
  obtain ⟨low, high, small, full⟩ := magnitude
  simp only [magnitudeBits, infinityBits]
  omega

theorem of_float_finite (x : Float) (negative : Bool) (m : Nat) (e : Int)
    (decoded : Binary.ofFloat x = .finite negative m e) : IsMagnitude m e ∧
      x.toBits.toNat = magnitudeBits m e + if negative then 2 ^ 63 else 0 := by
  have small : x.toBits.toNat < 2 ^ 64 := x.toBits.toBitVec.isLt
  simp only [Binary.ofFloat, Binary.leastExponent] at decoded
  split at decoded
  · split at decoded <;> cases decoded
  · split at decoded
    · cases decoded
      refine ⟨⟨by omega, by omega, by omega, .inl rfl⟩, ?_⟩
      simp only [magnitudeBits, decide_eq_true_eq]
      split <;> omega
    · cases decoded
      refine ⟨⟨by omega, by omega, by omega, by omega⟩, ?_⟩
      simp only [magnitudeBits, decide_eq_true_eq]
      split <;> omega

theorem of_bits_magnitude (x : Float) (negative : Bool) (m : Nat) (e : Int)
    (decoded : Binary.ofFloat x = .finite negative m e) :
    Float.ofBits (UInt64.ofNat (magnitudeBits m e + if negative then 2 ^ 63 else 0)) = x := by
  obtain ⟨magnitude, bits⟩ := of_float_finite x negative m e decoded
  have below := magnitude_bits_finite m e magnitude
  simp only [infinityBits] at below
  apply float_ext
  rw [bits_of_bits _ (by split <;> omega) (by split <;> omega), bits]

theorem finite_of_bits (x : Float) (field : x.toBits.toNat / 2 ^ 52 % 2048 ≠ 2047) : isFinite x = true := by
  unfold isFinite Binary.ofFloat
  dsimp only
  rw [if_neg field]
  by_cases least : x.toBits.toNat / 2 ^ 52 % 2048 = 0
  · rw [if_pos least]
  · rw [if_neg least]

theorem nearest_finite (negative : Bool) (num den : Nat) (inside : nearestBits num den ≠ infinityBits) :
    isFinite (nearest negative num den) = true := by
  have most : nearestBits num den ≤ infinityBits := by
    unfold nearestBits
    split
    · exact Nat.zero_le _
    · exact Nat.min_le_right _ _
  simp only [infinityBits] at inside most
  apply finite_of_bits
  rw [nearest, bits_of_bits _ (by split <;> omega) (by split <;> omega)]
  split <;> omega

theorem of_integer_finite (n : Int) (x : Float) (converted : ofInteger n = .ok x) : isFinite x = true := by
  unfold ofInteger nearestInt? at converted
  by_cases beyond : nearestBits n.natAbs 1 = infinityBits
  · simp [beyond] at converted
  · simp only [if_neg beyond, Except.ok.injEq] at converted
    rw [← converted]
    exact nearest_finite _ _ _ beyond

end DamagePlan.Decimal
