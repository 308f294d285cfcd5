import Mathlib
import DamagePlan.Decimal.Shortest
import DamagePlan.Proofs.Decimal.Bits

/-!
Signs of finite numbers, and the texts of numbers below zero.
-/
set_option autoImplicit false

namespace DamagePlan.Decimal

open Float.Model (UnpackedFloat)
open Float.Model.UnpackedFloat (unpackExponent unpackMantissa unpack)

theorem field_of_finite (x : Float) (negative : Bool) (m : Nat) (e : Int)
    (decoded : Binary.ofFloat x = .finite negative m e) : x.toBits.toNat / 2 ^ 52 % 2048 ≠ 2047 := by
  intro top
  simp only [Binary.ofFloat, top, if_true] at decoded
  split at decoded <;> cases decoded

theorem unpack_magnitude (P : UnpackedFloat → Prop) (zero : ∀ s, P (.zero s))
    (nonzero : ∀ s m e pos, IsMagnitude m e → P (.finite s m e pos)) (b : BitVec 64)
    (finite : b.toNat / 2 ^ 52 % 2048 ≠ 2047) : P (unpack double b) := by
  have field := exponent_value b
  have notTop : @unpackExponent double b ≠ -1#11 := by
    intro top
    rw [top] at field
    exact finite field.symm
  have low : (@unpackMantissa double b).toNat < 2 ^ 52 := (@unpackMantissa double b).isLt
  unfold unpack
  dsimp only
  rw [if_neg notTop]
  split
  · rename_i least
    split
    · exact zero _
    · refine nonzero _ _ _ _ ⟨?_, ?_, by omega, .inl ?_⟩ <;> rw [least] <;> decide
  · rename_i other
    have positive : (@unpackExponent double b).toNat ≠ 0 := fun none => other (BitVec.eq_of_toNat_eq none)
    have mantissa : (1#1 ++ @unpackMantissa double b).toNat = 2 ^ 52 + (@unpackMantissa double b).toNat := by
      rw [BitVec.toNat_append, ← Nat.shiftLeft_add_eq_or_of_lt low]
      rfl
    have bias : ((double.exponentBias + double.mantissaBitsWithoutImplicit : Nat) : Int) = 1075 := rfl
    refine nonzero _ _ _ _ ⟨?_, ?_, ?_, .inr ?_⟩ <;> push_cast at bias ⊢ <;> omega

theorem finite_not_nan (x : Float) (negative : Bool) (m : Nat) (e : Int)
    (decoded : Binary.ofFloat x = .finite negative m e) : x.isNaN = false :=
  unpack_magnitude (·.isNaN = false) (fun _ => rfl) (fun _ _ _ _ _ => rfl) x.toBits.toBitVec
    (field_of_finite x negative m e decoded)

theorem finite_equals_itself (x : Float) (negative : Bool) (m : Nat) (e : Int)
    (decoded : Binary.ofFloat x = .finite negative m e) : (x == x) = true := by
  refine unpack_magnitude (fun u => u.beq u = true) (fun _ => rfl) ?_ x.toBits.toBitVec
    (field_of_finite x negative m e decoded)
  intro s m e pos _
  cases s <;> simp [UnpackedFloat.beq, UnpackedFloat.compare]

theorem of_float_neg (x : Float) (negative : Bool) (m : Nat) (e : Int)
    (decoded : Binary.ofFloat x = .finite negative m e) : Binary.ofFloat (-x) = .finite (!negative) m e := by
  have bits := bits_of_neg x (field_of_finite x negative m e decoded)
  have small : x.toBits.toNat < 2 ^ 64 := x.toBits.toBitVec.isLt
  have field : (-x).toBits.toNat / 2 ^ 52 % 2048 = x.toBits.toNat / 2 ^ 52 % 2048 := by
    rw [bits]
    split <;> omega
  have fraction : (-x).toBits.toNat % 2 ^ 52 = x.toBits.toNat % 2 ^ 52 := by
    rw [bits]
    split <;> omega
  have sign : decide ((-x).toBits.toNat ≥ 2 ^ 63) = !decide (x.toBits.toNat ≥ 2 ^ 63) := by
    rw [bits, ← decide_not]
    split <;> exact decide_eq_decide.mpr (by omega)
  simp only [Binary.ofFloat] at decoded ⊢
  rw [field, fraction, sign]
  split at decoded
  · split at decoded <;> cases decoded
  · split at decoded
    · rename_i top least
      rw [if_neg top, if_pos least]
      cases decoded
      rfl
    · rename_i top least
      rw [if_neg top, if_neg least]
      cases decoded
      rfl

theorem neg_neg_finite (x : Float) (negative : Bool) (m : Nat) (e : Int)
    (decoded : Binary.ofFloat x = .finite negative m e) : - -x = x := by
  have twice := of_float_neg (-x) _ m e (of_float_neg x negative m e decoded)
  rw [Bool.not_not] at twice
  apply float_ext
  rw [(of_float_finite (- -x) negative m e twice).2, (of_float_finite x negative m e decoded).2]

theorem zeros_equal (x y : Float) (negative negative' : Bool) (e e' : Int)
    (decoded : Binary.ofFloat x = .finite negative 0 e) (decoded' : Binary.ofFloat y = .finite negative' 0 e') :
    (x == y) = true := by
  have least : e = -1074 := (of_float_finite x negative 0 e decoded).1.full.resolve_right (by decide)
  have least' : e' = -1074 := (of_float_finite y negative' 0 e' decoded').1.full.resolve_right (by decide)
  rw [← of_bits_magnitude x negative 0 e decoded, ← of_bits_magnitude y negative' 0 e' decoded', least, least']
  cases negative <;> cases negative' <;> decide +kernel

theorem shortest_text_neg (x : Float) (m : Nat) (e : Int) (decoded : Binary.ofFloat x = .finite true m e) :
    (shortestText x).toList = '-' :: (shortestText (-x)).toList := by
  simp [shortestText, Layout.render, decoded, of_float_neg x true m e decoded]

theorem integral_neg (x : Float) (m : Nat) (e : Int) (decoded : Binary.ofFloat x = .finite true m e) :
    integral? x = (integral? (-x)).map fun n => -n := by
  simp only [integral?, decoded, of_float_neg x true m e decoded]
  split <;> rfl

end DamagePlan.Decimal
