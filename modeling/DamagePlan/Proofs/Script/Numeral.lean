import DamagePlan.Proofs.Decimal.Written
import DamagePlan.Proofs.Script.Spelling

/-!
Texts of numbers are taken whole by the scanner and read as the number they were made from.
-/
set_option autoImplicit false

namespace DamagePlan.Script

open Text
open Decimal (AllDigits Written spanDigits)
open Decimal.Written (NoDigit point mark span_digits_append)

structure EndsNumber (rest : List Char) : Prop where
  digit : NoDigit rest
  point : ∀ c more, rest = '.' :: c :: more → isAsciiDigit c = false
  mark : ∀ c ∈ rest.head?, (c == 'e' || c == 'E') = false

theorem apart_ends_number (rest : List Char) (apart : Apart rest) : EndsNumber rest where
  digit := by
    have none : separators.all (fun c => !isAsciiDigit c) = true := by decide
    intro c first
    simpa using List.all_eq_true.mp none c (apart.2 c first)
  point c more text := by
    subst text
    have none := apart.1
    simp only [startsNumber, Bool.or_eq_false_iff] at none
    simpa using none.2
  mark := by
    have none : separators.all (fun c => !(c == 'e' || c == 'E')) = true := by decide
    intro c first
    simpa using List.all_eq_true.mp none c (apart.2 c first)

inductive IsExponent : List Char → Prop
  | absent : IsExponent []
  | marked {m : Char} {sign digits : List Char} (mark : m = 'e' ∨ m = 'E') (signed : sign ∈ [[], ['+'], ['-']])
      (some_ : digits ≠ []) (all : AllDigits digits) : IsExponent (m :: (sign ++ digits))

theorem mark_is_exponent (exponent : Option Int) : IsExponent (mark exponent) := by
  cases exponent with
  | none => exact .absent
  | some e =>
    obtain ⟨sign, digits, text, all, some_, kind, -⟩ := Decimal.Written.exponent_text_digits e
    rw [mark, text]
    obtain ⟨rfl, -⟩ | ⟨rfl, -⟩ := kind
    · change IsExponent ('e' :: (['-'] ++ digits))
      exact .marked (.inl rfl) (by simp) some_ all
    · change IsExponent ('e' :: (['+'] ++ digits))
      exact .marked (.inl rfl) (by simp) some_ all

section Parts

variable {exponent : List Char} (power : IsExponent exponent) (rest : List Char) (ends : EndsNumber rest)
include power ends

theorem span_exponent_text : spanExponent (exponent ++ rest) = (exponent, rest) := by
  cases power with
  | absent =>
    cases rest with
    | nil => rfl
    | cons c rest =>
      have none := ends.mark c rfl
      simp [spanExponent, none]
  | @marked m sign digits mark signed some_ all =>
    have marked : (m == 'e' || m == 'E') = true := by simpa using mark
    have span := span_digits_append digits rest all ends.digit
    cases digits with
    | nil => exact absurd rfl some_
    | cons d digits =>
      have digit : isAsciiDigit d = true := all d List.mem_cons_self
      have noPlus : d ≠ '+' := by rintro rfl; cases digit
      have noMinus : d ≠ '-' := by rintro rfl; cases digit
      rw [List.cons_append] at span
      simp only [List.mem_cons, List.not_mem_nil, or_false] at signed
      rcases signed with rfl | rfl | rfl <;> simp [spanExponent, marked, span, noPlus, noMinus]

theorem exponent_ends :
    NoDigit (exponent ++ rest) ∧ ∀ c more, exponent ++ rest = '.' :: c :: more → isAsciiDigit c = false := by
  cases power with
  | absent => exact ⟨ends.digit, ends.point⟩
  | @marked m sign digits mark signed some_ all =>
    constructor
    · intro c first
      obtain rfl : m = c := by simpa using first
      rcases mark with rfl | rfl <;> rfl
    · intro c more text
      rw [List.cons_append, List.cons.injEq] at text
      rcases mark with rfl | rfl <;> exact absurd text.1 (by decide)

theorem span_fraction_text (fraction : List Char) (all : AllDigits fraction) :
    spanFraction (point fraction ++ (exponent ++ rest)) = (point fraction, exponent ++ rest) := by
  obtain ⟨digit, noFraction⟩ := exponent_ends power rest ends
  generalize exponent ++ rest = after at digit noFraction ⊢
  cases fraction with
  | nil =>
    cases after with
    | nil => rfl
    | cons c after =>
      by_cases dot : c = '.'
      · subst dot
        cases after with
        | nil => rfl
        | cons d after =>
          have none := noFraction d after rfl
          simp [point, spanFraction, spanDigits, none]
      · simp [point, spanFraction, dot]
  | cons d ds =>
    have span := span_digits_append (d :: ds) after all digit
    rw [List.cons_append] at span
    simp [point, spanFraction, span]

theorem span_number_text (whole fraction : List Char) (digits : AllDigits whole) (decimals : AllDigits fraction) :
    spanNumber (whole ++ (point fraction ++ (exponent ++ rest))) = (whole ++ (point fraction ++ exponent), rest) := by
  have noDigit := Decimal.Written.point_no_digit fraction _ (exponent_ends power rest ends).1
  simp only [spanNumber, span_digits_append whole _ digits noDigit, span_fraction_text power rest ends fraction decimals,
    span_exponent_text power rest ends, List.append_assoc]

end Parts

theorem span_number_written (w : Written) (formed : w.WellFormed) (rest : List Char) (ends : EndsNumber rest) :
    spanNumber (w.characters ++ rest) = (w.characters, rest) := by
  simp only [Written.characters, List.append_assoc]
  exact span_number_text (mark_is_exponent w.exponent) rest ends w.whole w.fraction formed.whole formed.fraction

theorem written_last (w : Written) (formed : w.WellFormed) : '\n' ∉ w.characters := by
  have plain : ∀ cs, AllDigits cs → '\n' ∉ cs := fun cs all member => absurd (all _ member) (by decide)
  have fraction : '\n' ∉ point w.fraction := by
    rw [point]
    split
    · exact List.not_mem_nil
    · exact List.not_mem_cons_of_ne_of_not_mem (by decide) (plain _ formed.fraction)
  have exponent : '\n' ∉ mark w.exponent := by
    cases w.exponent with
    | none => exact List.not_mem_nil
    | some e =>
      obtain ⟨sign, ds, text, all, -, kind, -⟩ := Decimal.Written.exponent_text_digits e
      have signed : '\n' ≠ sign := by rcases kind with ⟨rfl, -⟩ | ⟨rfl, -⟩ <;> decide
      rw [mark, text]
      exact List.not_mem_cons_of_ne_of_not_mem (by decide) (List.not_mem_cons_of_ne_of_not_mem signed (plain _ all))
  simp only [Written.characters, List.mem_append, not_or]
  exact ⟨plain _ formed.whole, fraction, exponent⟩

theorem written_numeral (text : List Char) (x : Float) (writes : Decimal.Written.Writes text x) : IsNumeral text x := by
  obtain ⟨w, formed, rfl, reads⟩ := writes
  refine ⟨?_, fun rest apart => span_number_written w formed rest (apart_ends_number rest apart), ?_, reads⟩
  · cases split : w.whole with
    | nil => exact absurd split formed.nonempty
    | cons c cs => exact ⟨c, _, by rw [Written.characters, split]; rfl, formed.whole c (by simp [split])⟩
  · intro newline
    exact written_last w formed (List.mem_of_getLast? newline)

def IsUnsigned (x : Float) : Prop := ∃ mantissa exponent, Decimal.Binary.ofFloat x = .finite false mantissa exponent

theorem numeral_text (x : Float) (unsigned : IsUnsigned x) : IsNumeral (numberText x).toList x := by
  obtain ⟨m, e, decoded⟩ := unsigned
  have shortest := Decimal.Written.shortest_text_writes x m e decoded
  apply written_numeral
  unfold numberText
  cases integral : Decimal.integral? x with
  | none => exact shortest
  | some n =>
    dsimp only
    split
    · exact Decimal.Written.integer_text_writes x m e n decoded integral
    · exact shortest

end DamagePlan.Script
