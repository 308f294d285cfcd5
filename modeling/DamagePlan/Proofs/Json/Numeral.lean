import DamagePlan.Proofs.Json.Grammar

/-!
Printed numbers: an integer that is not too long and every floating-point number stand in JSON text as what reads back.
-/
set_option autoImplicit false

namespace DamagePlan.Json

open Decimal (AllDigits Binary Layout IntegerTooLong digitsValue ofDecimal)
open Decimal.Written (point mark)

attribute [local instance (2000)] instPowNat

theorem to_digits_first (n : Nat) (pos : 0 < n) : (Nat.toDigits 10 n).head? ≠ some '0' := by
  induction n using Nat.strongRecOn with
  | ind n ih =>
    rcases Nat.lt_or_ge n 10 with small | large
    · rw [Nat.toDigits_of_lt_base small]
      interval_cases n <;> decide
    · rw [Nat.toDigits_of_base_le (by decide) large, List.head?_append_of_ne_nil _ Nat.toDigits_ne_nil]
      exact ih (n / 10) (by omega) (by omega)

theorem to_digits_lean (n : Nat) : Nat.toDigits 10 n = ['0'] ∨ (Nat.toDigits 10 n).head? ≠ some '0' := by
  rcases Nat.eq_zero_or_pos n with rfl | pos
  · exact .inl rfl
  · exact .inr (to_digits_first n pos)

def IsShort (n : Int) : Prop := (Nat.toDigits 10 n.natAbs).length ≤ Decimal.maxIntegerDigits

theorem integer_figure (n : Int) : ∃ f : Figure, f.WellFormed ∧ (Decimal.integerText n).toList = f.characters ∧
    f.value = (Decimal.readDigits (Nat.toDigits 10 n.natAbs)).map fun _ => .int n := by
  refine ⟨⟨decide (n < 0), Nat.toDigits 10 n.natAbs, [], none⟩,
    ⟨Decimal.to_digits_all _, Nat.toDigits_ne_nil, to_digits_lean _, nofun, nofun⟩, ?_, ?_⟩
  · simp [Decimal.integerText, Figure.characters, Figure.unsigned, Figure.powerText, point]
  · have signed : (if decide (n < 0) then -(n.natAbs : Int) else n.natAbs) = n := by
      rcases Int.lt_or_le n 0 with negative | positive
      · simp [negative, abs_of_neg negative]
      · simp [Int.not_lt.mpr positive, abs_of_nonneg positive]
    have unmarked : (([] : List Char).isEmpty && (none : Option Power).isNone) = true := rfl
    rw [Figure.value, if_pos unmarked, Decimal.readDigits, Decimal.digits_value_to_digits]
    by_cases long : Decimal.maxIntegerDigits < (Nat.toDigits 10 n.natAbs).length
    · rw [if_pos long]
      rfl
    · rw [if_neg long]
      exact congrArg (fun m => Except.ok (Json.int m)) signed

theorem integer_spelled (n : Int) (short : IsShort n) : Spells (Decimal.integerText n).toList (.value (.int n)) := by
  obtain ⟨f, formed, text, value⟩ := integer_figure n
  rw [Decimal.readDigits, if_neg (Nat.not_lt.mpr short)] at value
  rw [text]
  exact .number f formed _ value

structure IsFloating (w : Decimal.Written) : Prop where
  formed : w.WellFormed
  lean : w.whole = ['0'] ∨ w.whole.head? ≠ some '0'
  marked : w.fraction ≠ [] ∨ w.exponent ≠ none

theorem single_lean (c : Char) : [c] = ['0'] ∨ [c].head? ≠ some '0' := by
  by_cases zero : c = '0'
  · exact .inl (by rw [zero])
  · exact .inr (by simpa using zero)

theorem place_floating (cs : List Char) (k : Int) (all : AllDigits cs) (nonempty : cs ≠ []) (lean : cs.head? ≠ some '0') :
    ∃ w : Decimal.Written, IsFloating w ∧ Layout.shortest.place cs k = w.characters := by
  cases cs with
  | nil => exact absurd rfl nonempty
  | cons c cs =>
    have first : AllDigits [c] := fun d member => all d (by simp at member; simp [member])
    have others : AllDigits cs := fun d member => all d (List.mem_cons_of_mem _ member)
    by_cases far : k < -4 ∨ 15 < k
    · refine ⟨⟨[c], cs, some k⟩, ⟨⟨first, List.cons_ne_nil _ _, others⟩, single_lean c, .inr (Option.some_ne_none k)⟩, ?_⟩
      rw [Layout.place, if_pos ((Decimal.Written.far_exponents k).mpr far)]
      cases cs <;> simp [Decimal.Written.characters, point, mark]
    rw [Layout.place, if_neg (mt (Decimal.Written.far_exponents k).mp far)]
    by_cases negative : k < 0
    · refine ⟨⟨['0'], List.replicate (-k - 1).toNat '0' ++ c :: cs, none⟩,
        ⟨⟨Decimal.zeros_all 1, List.cons_ne_nil _ _, Decimal.all_digits_append _ _ (Decimal.zeros_all _) all⟩, .inl rfl, .inl ?_⟩, ?_⟩
      · simp
      · rw [if_pos negative]
        simp [Decimal.Written.characters, point, mark]
    rw [if_neg negative]
    by_cases short : (c :: cs).length ≤ k.toNat + 1
    · refine ⟨⟨c :: cs ++ List.replicate (k.toNat + 1 - (c :: cs).length) '0', ['0'], none⟩,
        ⟨⟨Decimal.all_digits_append _ _ all (Decimal.zeros_all _), by simp, Decimal.zeros_all 1⟩, .inr lean, .inl (List.cons_ne_nil _ _)⟩, ?_⟩
      simp only [if_pos short]
      simp [Decimal.Written.characters, point, mark, Layout.shortest]
    · have more : (c :: cs).drop (k.toNat + 1) ≠ [] := by simp at short ⊢; omega
      refine ⟨⟨(c :: cs).take (k.toNat + 1), (c :: cs).drop (k.toNat + 1), none⟩, ⟨⟨fun d member => all d (List.mem_of_mem_take member),
        by simp, fun d member => all d (List.mem_of_mem_drop member)⟩, .inr lean, .inl more⟩, ?_⟩
      simp only [if_neg short, Decimal.Written.characters, point, mark, more, if_false, List.append_nil]

theorem significant_first (digits : Decimal.Digits) (pos : 0 < digits.value) : digits.characters.head? ≠ some '0' := by
  obtain ⟨n, split⟩ := Decimal.characters_zeros digits
  have first := to_digits_first digits.value pos
  cases text : digits.characters with
  | nil => nofun
  | cons c cs =>
    rw [split, text] at first
    exact first

theorem shortest_text_floating (x : Float) (m : Nat) (e : Int) (decoded : Binary.ofFloat x = .finite false m e) :
    ∃ w : Decimal.Written, IsFloating w ∧ (Decimal.shortestText x).toList = w.characters := by
  obtain ⟨magnitude, -⟩ := Decimal.of_float_finite x false m e decoded
  have text : (Decimal.shortestText x).toList = Layout.shortest.magnitude m e := by
    simp [Decimal.shortestText, Layout.render, decoded]
  rw [text]
  rcases Nat.eq_zero_or_pos m with rfl | pos
  · exact ⟨⟨['0'], ['0'], none⟩, ⟨⟨Decimal.zeros_all 1, List.cons_ne_nil _ _, Decimal.zeros_all 1⟩, .inl rfl, .inl (List.cons_ne_nil _ _)⟩, rfl⟩
  · obtain ⟨count, some_, low, high, -⟩ := Decimal.Digits.shortest_reads m e magnitude pos
    obtain ⟨nonempty, -⟩ := Decimal.characters_value _ count some_ low high
    have positive : 0 < (Decimal.Digits.shortest m e).value := lt_of_lt_of_le (by positivity) low
    rw [Layout.magnitude, if_neg (by omega)]
    exact place_floating _ _ (Decimal.characters_all _) nonempty (significant_first _ positive)

theorem exponent_power (e : Int) : ∃ p : Power, p.WellFormed ∧ mark (some e) = p.characters ∧ p.value = e := by
  obtain ⟨sign, ds, text, all, nonempty, kind, value⟩ := Decimal.Written.exponent_text_digits e
  refine ⟨⟨'e', [sign], ds⟩, ⟨rfl, .inr ?_, all, nonempty⟩, by rw [mark, text]; rfl, ?_⟩
  · rcases kind with ⟨rfl, -⟩ | ⟨rfl, -⟩ <;> simp
  · rcases kind with ⟨rfl, negative⟩ | ⟨rfl, positive⟩
    · simp [Power.value, value, abs_of_neg negative]
    · simp [Power.value, value, abs_of_nonneg positive]

theorem floating_figure (w : Decimal.Written) (floating : IsFloating w) (negative : Bool) : ∃ f : Figure, f.WellFormed ∧
    f.characters = (if negative then ['-'] else []) ++ w.characters ∧
    f.value = .ok (.float (ofDecimal negative (digitsValue w.digits) w.place)) := by
  obtain ⟨whole, fraction, exponent⟩ := w
  obtain ⟨formed, lean, marked⟩ := floating
  cases exponent with
  | none =>
    refine ⟨⟨negative, whole, fraction, none⟩, ⟨formed.whole, formed.nonempty, lean, formed.fraction, nofun⟩, rfl, ?_⟩
    have pointed : fraction ≠ [] := marked.resolve_right fun some_ => some_ rfl
    simp [Figure.value, pointed, Decimal.Written.digits, Decimal.Written.place]
  | some e =>
    obtain ⟨p, power, text, value⟩ := exponent_power e
    refine ⟨⟨negative, whole, fraction, some p⟩, ⟨formed.whole, formed.nonempty, lean, formed.fraction, by rintro _ ⟨⟩; exact power⟩, ?_, ?_⟩
    · simp [Figure.characters, Figure.unsigned, Figure.powerText, Decimal.Written.characters, text]
    · simp [Figure.value, Decimal.Written.digits, Decimal.Written.place, value]

theorem infinity_decoded : Binary.ofFloat Decimal.infinity = .infinite false := by rfl

theorem nearest_neg (x : Float) (m : Nat) (e : Int) (decoded : Binary.ofFloat x = .finite true m e) (num den : Nat)
    (opposite : Decimal.nearest false num den = -x) : Decimal.nearest true num den = x := by
  have own := Decimal.of_float_neg x true m e decoded
  obtain ⟨-, bits⟩ := Decimal.of_float_finite (-x) false m e own
  have most : Decimal.nearestBits num den ≤ Decimal.infinityBits := by
    unfold Decimal.nearestBits
    split
    · exact Nat.zero_le _
    · exact Nat.min_le_right _ _
  have inside : Decimal.nearestBits num den ≠ Decimal.infinityBits := by
    intro top
    have infinite : Decimal.nearest false num den = Decimal.infinity := by
      rw [Decimal.nearest, top, Decimal.infinity]
      simp
    rw [← opposite, infinite, infinity_decoded] at own
    cases own
  have same : Decimal.nearestBits num den = Decimal.magnitudeBits m e := by
    simp only [Decimal.infinityBits] at most inside
    rw [← opposite, Decimal.nearest] at bits
    simp only [Bool.false_eq_true, if_false, Nat.add_zero] at bits
    rw [Decimal.bits_of_bits _ (by omega) (by omega)] at bits
    exact bits
  rw [Decimal.nearest, same, Decimal.of_bits_magnitude x true m e decoded]

theorem of_decimal_nearest (n : Nat) (k : Int) : ∃ num den, ∀ negative, ofDecimal negative n k = Decimal.nearest negative num den := by
  unfold ofDecimal
  dsimp only
  split
  · exact ⟨_, _, fun _ => rfl⟩
  · split <;> exact ⟨_, _, fun _ => rfl⟩

theorem of_decimal_neg (x : Float) (m : Nat) (e : Int) (decoded : Binary.ofFloat x = .finite true m e) (n : Nat) (k : Int)
    (opposite : ofDecimal false n k = -x) : ofDecimal true n k = x := by
  obtain ⟨num, den, nearest⟩ := of_decimal_nearest n k
  rw [nearest] at opposite ⊢
  exact nearest_neg x m e decoded num den opposite

theorem finite_figure (x : Float) (negative : Bool) (m : Nat) (e : Int) (decoded : Binary.ofFloat x = .finite negative m e) :
    ∃ f : Figure, f.WellFormed ∧ (Decimal.shortestText x).toList = f.characters ∧ f.value = .ok (.float x) := by
  -- what the shortest text of a number without sign is read as, which does not depend on how it is split
  have read (y : Float) (decoded : Binary.ofFloat y = .finite false m e) (w : Decimal.Written) (formed : w.WellFormed)
      (text : (Decimal.shortestText y).toList = w.characters) : ofDecimal false (digitsValue w.digits) w.place = y := by
    obtain ⟨w', -, text', read⟩ := Decimal.Written.shortest_text_writes y m e decoded
    rw [← text', text, Decimal.Written.read_unsigned_written w false formed] at read
    exact Option.some.inj read
  cases negative with
  | false =>
    obtain ⟨w, floating, text⟩ := shortest_text_floating x m e decoded
    obtain ⟨f, formed, characters, value⟩ := floating_figure w floating false
    exact ⟨f, formed, by rw [text, characters]; rfl, by rw [value, read x decoded w floating.formed text]⟩
  | true =>
    have own := Decimal.of_float_neg x true m e decoded
    obtain ⟨w, floating, text⟩ := shortest_text_floating (-x) m e own
    obtain ⟨f, formed, characters, value⟩ := floating_figure w floating true
    have opposite := read (-x) own w floating.formed text
    refine ⟨f, formed, ?_, by rw [value, of_decimal_neg x m e decoded _ _ opposite]⟩
    rw [Decimal.shortest_text_neg x m e decoded, text, characters]
    rfl

theorem infinite_is (x : Float) (negative : Bool) (decoded : Binary.ofFloat x = .infinite negative) :
    x = if negative then -Decimal.infinity else Decimal.infinity := by
  have small : x.toBits.toNat < 2 ^ 64 := x.toBits.toBitVec.isLt
  have plain : Decimal.infinity.toBits.toNat = 2047 * 2 ^ 52 := by rfl
  have signed : (-Decimal.infinity).toBits.toNat = 2047 * 2 ^ 52 + 2 ^ 63 := by rfl
  apply Decimal.float_ext
  simp only [Binary.ofFloat] at decoded
  split at decoded
  · split at decoded
    · cases decoded
      by_cases high : x.toBits.toNat ≥ 2 ^ 63
      · rw [if_pos (decide_eq_true high), signed]
        omega
      · rw [if_neg (by simpa using high), plain]
        omega
    · cases decoded
  · split at decoded <;> cases decoded

theorem nan_is (x : Float) (decoded : Binary.ofFloat x = .nan) : x = Decimal.notANumber := by
  have canonical : Decimal.notANumber.toBits.toBitVec = Float.Model.UnpackedFloat.packedNaN Decimal.double := by rfl
  have exponent := Decimal.exponent_value x.toBits.toBitVec
  have mantissa := Decimal.mantissa_value x.toBits.toBitVec
  simp only [Binary.ofFloat] at decoded
  split at decoded
  · rename_i top
    split at decoded
    · cases decoded
    · rename_i some_
      have valid : x.toBits.toBitVec = Float.Model.UnpackedFloat.packedNaN Decimal.double := by
        refine x.toModel.valid.eq_packedNaN (BitVec.eq_of_toNat_eq (exponent.trans top)) fun zero => some_ ?_
        exact mantissa.symm.trans (congrArg BitVec.toNat zero)
      apply Decimal.float_ext
      rw [UInt64.toNat, UInt64.toNat, valid, canonical]
  · split at decoded <;> cases decoded

theorem float_spelled (x : Float) : Spells (floatText x).toList (.value (.float x)) := by
  unfold floatText
  cases decoded : Binary.ofFloat x with
  | nan =>
    rw [nan_is x decoded]
    exact .word "NaN" _ (by simp [words])
  | infinite negative =>
    rw [infinite_is x negative decoded]
    cases negative
    · exact .word "Infinity" _ (by simp [words])
    · exact .word "-Infinity" _ (by simp [words])
  | finite negative m e =>
    obtain ⟨f, formed, text, value⟩ := finite_figure x negative m e decoded
    dsimp only
    rw [text]
    exact .number f formed _ value

end DamagePlan.Json
