import DamagePlan.Json.Parser
import DamagePlan.Json.Printer
import DamagePlan.Proofs.Decimal.Sign
import DamagePlan.Proofs.Decimal.Written

/-!
Numbers in JSON text: the reader takes exactly the figures of the grammar, and what is printed for a number is one that
reads back.
-/
set_option autoImplicit false

namespace DamagePlan.Json

open Text (isAsciiDigit)
open Decimal (AllDigits IntegerTooLong all_digits_append digitsValue spanDigits)
open Decimal.Written (NoDigit point point_no_digit span_digits_append)

structure Power where
  mark : Char
  sign : List Char
  digits : List Char

namespace Power

def characters (p : Power) : List Char := p.mark :: (p.sign ++ p.digits)

def value (p : Power) : Int := (if p.sign = ['-'] then -1 else 1) * (digitsValue p.digits : Int)

structure WellFormed (p : Power) : Prop where
  mark : (p.mark == 'e' || p.mark == 'E') = true
  sign : p.sign = [] ∨ p.sign = ['+'] ∨ p.sign = ['-']
  digits : AllDigits p.digits
  nonempty : p.digits ≠ []

end Power

structure Figure where
  negative : Bool
  whole : List Char
  fraction : List Char
  power : Option Power

namespace Figure

def powerText : Option Power → List Char
  | none => []
  | some p => p.characters

def unsigned (f : Figure) : List Char := f.whole ++ (point f.fraction ++ powerText f.power)

def characters (f : Figure) : List Char := (if f.negative then ['-'] else []) ++ f.unsigned

def value (f : Figure) : Except IntegerTooLong Json :=
  if f.fraction.isEmpty && f.power.isNone then
    (Decimal.readDigits f.whole).map fun n => .int (if f.negative then -(n : Int) else n)
  else .ok (.float (Decimal.ofDecimal f.negative (digitsValue (f.whole ++ f.fraction))
    ((f.power.map Power.value).getD 0 - f.fraction.length)))

structure WellFormed (f : Figure) : Prop where
  whole : AllDigits f.whole
  nonempty : f.whole ≠ []
  lean : f.whole = ['0'] ∨ f.whole.head? ≠ some '0'
  fraction : AllDigits f.fraction
  power : ∀ p ∈ f.power, p.WellFormed

end Figure

theorem apart (P : Char → Bool) {c d : Char} (own : P c = true) (other : P d = false) : (c == d) = false := by
  refine beq_false_of_ne fun same => ?_
  rw [same, other] at own
  cases own

def isFigural (c : Char) : Bool := isAsciiDigit c || ['+', '-', '.', 'e', 'E'].contains c

theorem digits_figural (ds : List Char) (all : AllDigits ds) : ∀ c ∈ ds, isFigural c = true := by
  intro c member
  rw [isFigural, all c member, Bool.true_or]

theorem power_figural (p : Power) (formed : p.WellFormed) : ∀ c ∈ p.characters, isFigural c = true := by
  have mark := formed.mark
  simp only [Bool.or_eq_true, beq_iff_eq] at mark
  refine List.forall_mem_cons.mpr ⟨?_, List.forall_mem_append.mpr ⟨?_, digits_figural _ formed.digits⟩⟩
  · rcases mark with e | e <;> rw [e] <;> rfl
  · rcases formed.sign with sign | sign | sign <;> rw [sign] <;> simp [isFigural]

theorem figure_figural (f : Figure) (formed : f.WellFormed) : ∀ c ∈ f.characters, isFigural c = true := by
  unfold Figure.characters Figure.unsigned
  refine List.forall_mem_append.mpr ⟨?_, List.forall_mem_append.mpr ⟨digits_figural _ formed.whole,
    List.forall_mem_append.mpr ⟨?_, ?_⟩⟩⟩
  · split <;> simp [isFigural]
  · unfold point
    split
    · nofun
    · exact List.forall_mem_cons.mpr ⟨rfl, digits_figural _ formed.fraction⟩
  · cases power : f.power with
    | none => nofun
    | some p => exact power_figural p (formed.power p power)

def Ends (rest : List Char) : Prop :=
  ∀ c ∈ rest.head?, isAsciiDigit c = false ∧ c ≠ '.' ∧ (c == 'e' || c == 'E') = false

theorem Ends.no_digit {rest : List Char} (ends : Ends rest) : NoDigit rest := fun c first => (ends c first).1

theorem span_digits_taken (cs : List Char) : AllDigits (spanDigits cs).1 ∧ NoDigit (spanDigits cs).2 ∧
    cs = (spanDigits cs).1 ++ (spanDigits cs).2 := by
  refine ⟨fun c member => List.mem_takeWhile_imp member, fun c first => ?_, List.takeWhile_append_dropWhile.symm⟩
  have stopped := List.head?_dropWhile_not isAsciiDigit cs
  rw [show (cs.dropWhile isAsciiDigit).head? = some c from first] at stopped
  exact Bool.eq_false_iff.mpr (by simpa using stopped)

theorem integer_part_taken (cs whole rest : List Char) (read : integerPart? cs = some (whole, rest)) :
    cs = whole ++ rest ∧ AllDigits whole ∧ whole ≠ [] ∧ (whole = ['0'] ∨ whole.head? ≠ some '0') := by
  unfold integerPart? at read
  split at read
  · cases read
    exact ⟨rfl, by simp [AllDigits, isAsciiDigit], List.cons_ne_nil _ _, .inl rfl⟩
  · rename_i noZero
    obtain ⟨all, -, taken⟩ := span_digits_taken cs
    generalize spanDigits cs = split at *
    obtain ⟨digits, after⟩ := split
    cases digits with
    | nil => cases read
    | cons d ds =>
      cases read
      refine ⟨taken, all, List.cons_ne_nil _ _, .inr fun first => ?_⟩
      obtain rfl := Option.some.inj first
      exact noZero _ taken

theorem read_integer_part (whole rest : List Char) (all : AllDigits whole) (nonempty : whole ≠ [])
    (lean : whole = ['0'] ∨ whole.head? ≠ some '0') (stop : NoDigit rest) :
    integerPart? (whole ++ rest) = some (whole, rest) := by
  rcases lean with rfl | first
  · rfl
  · cases whole with
    | nil => exact absurd rfl nonempty
    | cons d ds =>
      have span := span_digits_append (d :: ds) rest all stop
      unfold integerPart?
      split
      · rename_i same
        cases same
        exact absurd rfl first
      · rw [span]

theorem fraction_part_taken (cs fraction rest : List Char) (read : fractionPart cs = (fraction, rest)) :
    cs = point fraction ++ rest ∧ AllDigits fraction := by
  have none_ : cs = point [] ++ cs ∧ AllDigits [] := ⟨rfl, nofun⟩
  unfold fractionPart at read
  split at read
  · rename_i more
    obtain ⟨all, -, taken⟩ := span_digits_taken more
    generalize spanDigits more = split at *
    obtain ⟨digits, after⟩ := split
    cases digits with
    | nil =>
      cases read
      exact none_
    | cons d ds =>
      cases read
      exact ⟨by rw [taken]; rfl, all⟩
  · cases read
    exact none_

theorem read_fraction_part (fraction rest : List Char) (all : AllDigits fraction) (stop : NoDigit rest)
    (pointless : rest.head? ≠ some '.') : fractionPart (point fraction ++ rest) = (fraction, rest) := by
  cases fraction with
  | nil =>
    change fractionPart rest = _
    unfold fractionPart
    split
    · exact absurd rfl pointless
    · rfl
  | cons d ds =>
    change fractionPart ('.' :: (d :: ds ++ rest)) = _
    rw [fractionPart, span_digits_append (d :: ds) rest all stop]

def splitSign : List Char → List Char × List Char
  | '-' :: cs => (['-'], cs)
  | '+' :: cs => (['+'], cs)
  | cs => ([], cs)

theorem split_sign_taken (cs : List Char) : cs = (splitSign cs).1 ++ (splitSign cs).2 ∧
    ((splitSign cs).1 = [] ∨ (splitSign cs).1 = ['+'] ∨ (splitSign cs).1 = ['-']) := by
  unfold splitSign
  split <;> simp

theorem split_sign_append (sign digits rest : List Char) (signed : sign = [] ∨ sign = ['+'] ∨ sign = ['-'])
    (all : AllDigits digits) (nonempty : digits ≠ []) :
    splitSign (sign ++ (digits ++ rest)) = (sign, digits ++ rest) := by
  rcases signed with rfl | rfl | rfl
  · cases digits with
    | nil => exact absurd rfl nonempty
    | cons d ds =>
      have digit := all d List.mem_cons_self
      change splitSign (d :: (ds ++ rest)) = _
      unfold splitSign
      split
      · rename_i same
        cases same
        cases digit
      · rename_i same
        cases same
        cases digit
      · rfl
  · rfl
  · rfl

theorem split_sign_unsigned (c : Char) (cs : List Char) (minus : c ≠ '-') (plus : c ≠ '+') :
    splitSign (c :: cs) = ([], c :: cs) := by
  simp [splitSign, minus, plus]

theorem read_exponent_marked (mark : Char) (more : List Char) (marked : (mark == 'e' || mark == 'E') = true) :
    Decimal.readExponent (mark :: more) =
      if (spanDigits (splitSign more).2).1 = [] then (0, mark :: more)
      else ((⟨mark, (splitSign more).1, (spanDigits (splitSign more).2).1⟩ : Power).value,
        (spanDigits (splitSign more).2).2) := by
  cases more with
  | nil =>
    rw [Decimal.readExponent.eq_4 mark []
      (fun _ => (List.cons_ne_nil _ _).symm) (fun _ => (List.cons_ne_nil _ _).symm), if_pos marked]
    rfl
  | cons c cs =>
    by_cases minus : c = '-'
    · rw [minus, Decimal.readExponent.eq_2, if_pos marked]
      simp only [splitSign]
      generalize spanDigits cs = span
      obtain ⟨ds, rest⟩ := span
      cases ds <;> simp [Power.value]
    by_cases plus : c = '+'
    · rw [plus, Decimal.readExponent.eq_3, if_pos marked]
      simp only [splitSign]
      generalize spanDigits cs = span
      obtain ⟨ds, rest⟩ := span
      cases ds <;> simp [Power.value]
    rw [split_sign_unsigned c cs minus plus, Decimal.readExponent.eq_4 mark (c :: cs)
      (fun _ same => minus (List.cons.inj same).1) (fun _ same => plus (List.cons.inj same).1), if_pos marked]
    generalize spanDigits (c :: cs) = span
    obtain ⟨ds, rest⟩ := span
    cases ds <;> simp [Power.value]

theorem exponent_taken (cs rest : List Char) (e : Int) (read : Decimal.readExponent cs = (e, rest)) :
    e = 0 ∧ cs = rest ∨ ∃ p : Power, p.WellFormed ∧ cs = p.characters ++ rest ∧ e = p.value := by
  cases cs with
  | nil =>
    cases read
    exact .inl ⟨rfl, rfl⟩
  | cons mark more =>
    by_cases marked : (mark == 'e' || mark == 'E') = true
    · rw [read_exponent_marked mark more marked] at read
      obtain ⟨signed, sign⟩ := split_sign_taken more
      obtain ⟨all, -, taken⟩ := span_digits_taken (splitSign more).2
      split at read
      · cases read
        exact .inl ⟨rfl, rfl⟩
      · rename_i some_
        cases read
        refine .inr ⟨_, ⟨marked, sign, all, some_⟩, ?_, rfl⟩
        rw [Power.characters, List.cons_append, List.append_assoc, ← taken, ← signed]
    · unfold Decimal.readExponent at read
      dsimp only at read
      rw [if_neg marked] at read
      cases read
      exact .inl ⟨rfl, rfl⟩

theorem read_power (p : Power) (formed : p.WellFormed) (rest : List Char) (stop : NoDigit rest) :
    Decimal.readExponent (p.characters ++ rest) = (p.value, rest) := by
  have sign := split_sign_append p.sign p.digits rest formed.sign formed.digits formed.nonempty
  have digits := span_digits_append p.digits rest formed.digits stop
  rw [Power.characters, List.cons_append, List.append_assoc, read_exponent_marked _ _ formed.mark, sign]
  dsimp only
  rw [digits, if_neg formed.nonempty]

theorem read_no_power (rest : List Char) (ends : Ends rest) : Decimal.readExponent rest = (0, rest) := by
  cases rest with
  | nil => rfl
  | cons c rest =>
    have unmarked := (ends c rfl).2.2
    simp only [Decimal.readExponent, unmarked, Bool.false_eq_true, if_false]

theorem power_text_follows (power : Option Power) (formed : ∀ p ∈ power, p.WellFormed) (rest : List Char) (ends : Ends rest) :
    NoDigit (Figure.powerText power ++ rest) ∧ (Figure.powerText power ++ rest).head? ≠ some '.' := by
  cases power with
  | none => exact ⟨ends.no_digit, fun first => (ends '.' first).2.1 rfl⟩
  | some p =>
    have marked := (formed p rfl).mark
    simp only [Bool.or_eq_true, beq_iff_eq] at marked
    change (∀ c ∈ some p.mark, _) ∧ some p.mark ≠ some '.'
    rcases marked with e | e <;> rw [e] <;> exact ⟨fun c first => by cases first; rfl, by decide⟩

theorem read_figure_power (power : Option Power) (formed : ∀ p ∈ power, p.WellFormed) (rest : List Char) (ends : Ends rest) :
    Decimal.readExponent (Figure.powerText power ++ rest) = ((power.map Power.value).getD 0, rest) := by
  cases power with
  | none => exact read_no_power rest ends
  | some p => exact read_power p (formed p rfl) rest ends.no_digit

theorem power_text_empty (power : Option Power) : (Figure.powerText power).length = 0 ↔ power.isNone = true := by
  cases power <;> simp [Figure.powerText, Power.characters]

theorem digit_no_minus (ds rest : List Char) (all : AllDigits ds) (nonempty : ds ≠ []) (more : List Char) :
    ds ++ rest ≠ '-' :: more := by
  cases ds with
  | nil => exact absurd rfl nonempty
  | cons d ds =>
    intro same
    have digit := all d List.mem_cons_self
    rw [(List.cons.inj same).1] at digit
    cases digit

def splitMinus (cs : List Char) : Bool × List Char :=
  match cs with
  | '-' :: rest => (true, rest)
  | _ => (false, cs)

theorem split_minus_taken (cs : List Char) : cs = (if (splitMinus cs).1 then ['-'] else []) ++ (splitMinus cs).2 := by
  unfold splitMinus
  split <;> rfl

theorem split_minus_figure (f : Figure) (formed : f.WellFormed) (rest : List Char) :
    splitMinus (f.characters ++ rest) = (f.negative, f.unsigned ++ rest) := by
  obtain ⟨negative, whole, fraction, power⟩ := f
  cases negative with
  | true => rfl
  | false =>
    have other := digit_no_minus whole (point fraction ++ Figure.powerText power ++ rest) formed.whole formed.nonempty
    unfold splitMinus
    split
    · rename_i more same
      exact absurd (by simpa [Figure.characters, Figure.unsigned] using same) (other more)
    · rfl

def numberOf (negative : Bool) (whole rest : List Char) : Except IntegerTooLong Json × List Char :=
  let (fraction, rest) := fractionPart rest
  let (exponent, final) := Decimal.readExponent rest
  if fraction.isEmpty && final.length == rest.length then
    ((Decimal.readDigits whole).map fun n => .int (if negative then -(n : Int) else n), final)
  else (.ok (.float (Decimal.ofDecimal negative (digitsValue (whole ++ fraction)) (exponent - fraction.length))), final)

theorem number_by_parts (cs : List Char) :
    number? cs = (integerPart? (splitMinus cs).2).map fun (whole, rest) => numberOf (splitMinus cs).1 whole rest := by
  unfold number?
  split
  rename_i negative unsigned signed
  have sign : splitMinus cs = (negative, unsigned) := signed
  rw [sign]
  cases integerPart? unsigned with
  | none => rfl
  | some parts => simp only [Option.map_some, numberOf, apply_ite some]

theorem figure_read (f : Figure) (formed : f.WellFormed) (rest : List Char) (ends : Ends rest) :
    number? (f.characters ++ rest) = some (f.value, rest) := by
  obtain ⟨noDigit, noPoint⟩ := power_text_follows f.power formed.power rest ends
  have whole := read_integer_part f.whole (point f.fraction ++ (Figure.powerText f.power ++ rest)) formed.whole
    formed.nonempty formed.lean (point_no_digit _ _ noDigit)
  have fraction := read_fraction_part f.fraction _ formed.fraction noDigit noPoint
  have power := read_figure_power f.power formed.power rest ends
  have kind : (rest.length == (Figure.powerText f.power ++ rest).length) = f.power.isNone := by
    rw [Bool.eq_iff_iff, ← power_text_empty, List.length_append, beq_iff_eq]
    omega
  rw [number_by_parts, split_minus_figure f formed]
  simp only [Figure.unsigned, List.append_assoc, whole, Option.map_some, numberOf, fraction, power, kind, Figure.value]
  split <;> rfl

theorem number_is_figure (cs rest : List Char) (result : Except IntegerTooLong Json) (read : number? cs = some (result, rest)) :
    ∃ f : Figure, f.WellFormed ∧ cs = f.characters ++ rest ∧ result = f.value := by
  rw [number_by_parts] at read
  obtain ⟨⟨whole, after⟩, integer, rest_⟩ := Option.map_eq_some_iff.mp read
  obtain ⟨taken, all, nonempty, lean⟩ := integer_part_taken _ _ _ integer
  have minus := split_minus_taken cs
  generalize splitMinus cs = signed at *
  obtain ⟨negative, unsigned⟩ := signed
  dsimp only at minus taken rest_
  unfold numberOf at rest_
  cases fractional : fractionPart after with
  | mk fraction afterFraction =>
  obtain ⟨takenFraction, allFraction⟩ := fraction_part_taken _ _ _ fractional
  cases exponential : Decimal.readExponent afterFraction with
  | mk e final =>
  simp only [fractional, exponential] at rest_
  rcases exponent_taken _ _ _ exponential with ⟨rfl, rfl⟩ | ⟨p, formed, takenPower, rfl⟩
  · refine ⟨⟨negative, whole, fraction, none⟩, ⟨all, nonempty, lean, allFraction, nofun⟩, ?_⟩
    rw [beq_self_eq_true, Bool.and_true] at rest_
    simp only [Figure.value, Option.isNone_none, Bool.and_true]
    split at rest_ <;> cases rest_ <;> rename_i kind <;>
      simp [kind, Figure.characters, Figure.unsigned, Figure.powerText, minus, taken, takenFraction]
  · refine ⟨⟨negative, whole, fraction, some p⟩, ⟨all, nonempty, lean, allFraction, by rintro _ ⟨⟩; exact formed⟩, ?_⟩
    have longer : (final.length == afterFraction.length) = false := by
      rw [takenPower, Power.characters]
      simp
      omega
    rw [longer, Bool.and_false, if_neg (by decide)] at rest_
    cases rest_
    simp [Figure.value, Figure.characters, Figure.unsigned, Figure.powerText, minus, taken, takenFraction, takenPower]

end DamagePlan.Json
