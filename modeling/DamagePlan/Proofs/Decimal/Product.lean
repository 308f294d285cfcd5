import DamagePlan.Proofs.Decimal.Sign

/-!
Products of finite numbers: a number times one is the number, bit by bit.
-/
set_option autoImplicit false

namespace DamagePlan.Decimal

open Float.Model (UnpackedFloat totalExponent)
open Float.Model.UnpackedFloat (ExtendedMantissa Sign roundWithAccuracy shiftToExponent shiftToTargetExponent unpack pack)

theorem target_of_magnitude (m : Nat) (e : Int) (pos : 0 < m) (magnitude : IsMagnitude m e) :
    double.targetExponent (totalExponent m e) = e := by
  obtain ⟨low, -, small, full⟩ := magnitude
  have short : m.log2 < 53 := (Nat.log2_lt (by omega)).mpr small
  change max ((m.log2 : Int) + 1 + e - 53) (-1074) = e
  rcases full with least | long
  · omega
  · have whole : m.log2 = 52 := (Nat.log2_eq_iff (by omega)).mpr ⟨long, small⟩
    omega

theorem shifted_multiple (n : Nat) : ∀ m, (⟨m * 2 ^ n, false, false⟩ : ExtendedMantissa) >>> n = ⟨m, false, false⟩ := by
  induction n with
  | zero => simp [HShiftRight.hShiftRight, Nat.repeat]
  | succ n ih =>
    intro m
    have inner := ih (m * 2)
    have same : m * 2 ^ (n + 1) = m * 2 * 2 ^ n := by rw [Nat.pow_succ, Nat.mul_assoc, Nat.mul_comm (2 ^ n)]
    rw [same]
    change ExtendedMantissa.shiftRightOne ((⟨m * 2 * 2 ^ n, false, false⟩ : ExtendedMantissa) >>> n) = _
    rw [inner]
    simp [ExtendedMantissa.shiftRightOne]

theorem shift_to_own_exponent (m n : Nat) (e : Int) (pos : 0 < m) (magnitude : IsMagnitude m e) :
    shiftToTargetExponent double (m * 2 ^ n) (e - n) .exact = (⟨m, false, false⟩, e) := by
  have top : (m * 2 ^ n).log2 = m.log2 + n := by
    obtain ⟨least, most⟩ := (Nat.log2_eq_iff (n := m) (by omega)).mp rfl
    refine (Nat.log2_eq_iff (by positivity)).mpr ⟨?_, ?_⟩
    · rw [Nat.pow_add]
      exact Nat.mul_le_mul_right _ least
    · rw [Nat.add_right_comm, Nat.pow_add]
      exact Nat.mul_lt_mul_of_pos_right most (by positivity)
  have total : totalExponent (m * 2 ^ n) (e - n) = totalExponent m e := by
    simp only [totalExponent, top]
    omega
  unfold shiftToTargetExponent
  dsimp only
  rw [total, target_of_magnitude m e pos magnitude]
  have amount : (e - (e - n)).toNat = n := by omega
  simp only [shiftToExponent, amount, ExtendedMantissa.ofMantissaAndAccuracy, shifted_multiple]
  simp

theorem round_of_magnitude (s : Sign) (m n : Nat) (e : Int) (pos : 0 < m) (magnitude : IsMagnitude m e) :
    roundWithAccuracy double s (m * 2 ^ n) (e - n) .exact = .finite s m e pos := by
  have own := shift_to_own_exponent m 0 e pos magnitude
  simp only [Nat.pow_zero, Nat.mul_one, Nat.cast_zero, Int.sub_zero] at own
  have rounded : (⟨m, false, false⟩ : ExtendedMantissa).roundedMantissa = m := rfl
  simp only [roundWithAccuracy, shift_to_own_exponent m n e pos magnitude, rounded, own]
  rw [dif_neg (by omega)]

theorem one_unpacked : ∃ pos, unpack double (1 : Float).toBits.toBitVec = .finite .positive (2 ^ 52) (-52) pos :=
  ⟨by decide, rfl⟩

theorem times_one (x : Float) (finite : isFinite x = true) : x * 1 = x := by
  have field : x.toBits.toNat / 2 ^ 52 % 2048 ≠ 2047 := by
    unfold isFinite at finite
    split at finite
    · rename_i decoded
      exact field_of_finite x _ _ _ decoded
    · cases finite
  have unit : ∀ s : Sign, s * .positive = s := by
    intro s
    cases s <;> rfl
  obtain ⟨pos, one⟩ := one_unpacked
  have product : UnpackedFloat.mul double (unpack double x.toBits.toBitVec) (unpack double (1 : Float).toBits.toBitVec) =
      unpack double x.toBits.toBitVec := by
    rw [one]
    refine unpack_magnitude (fun u => UnpackedFloat.mul double u (.finite .positive (2 ^ 52) (-52) pos) = u) ?_ ?_ _ field
    · intro s
      simp only [UnpackedFloat.mul, unit]
    · intro s m e pos magnitude
      simp only [UnpackedFloat.mul, unit]
      exact round_of_magnitude s m 52 e pos magnitude
  apply float_ext
  change (pack double (UnpackedFloat.mul double (unpack double x.toBits.toBitVec)
    (unpack double (1 : Float).toBits.toBitVec))).toNat = _
  rw [product, ← with_own_sign, pack_with_sign _ _ field, signed, components_back]
  rfl

end DamagePlan.Decimal
