import DamagePlan.Decimal.Binary
import DamagePlan.Text.Blank
import DamagePlan.Text.Letter
import DamagePlan.Text.Case

/-!
Reading decimal numbers: plain decimals of the script language and of JSON, and the freer form that
text values may take.
-/
set_option autoImplicit false

namespace DamagePlan.Decimal

open Text

attribute [local instance (2000)] instPowNat

/-- The number nearest to `digits * 10 ^ exponent`. An exponent far outside the range of doubles decides
the result before any power is formed. -/
def ofDecimal (negative : Bool) (digits : Nat) (exponent : Int) : Float :=
  let size : Int := (Nat.toDigits 10 digits).length
  if digits = 0 || size + exponent < -330 then nearest negative 0 1
  else if 310 < size + exponent then nearest negative (2 ^ (1024 : Nat)) 1
  else
    let (num, den) := scaleDecimal digits 1 exponent
    nearest negative num den

def digitsValue (cs : List Char) : Nat := cs.foldl (fun n c => n * 10 + (c.toNat - 48)) 0

def maxIntegerDigits : Nat := 4300

structure IntegerTooLong where
  digits : Nat
deriving DecidableEq

def IntegerTooLong.message (e : IntegerTooLong) : String :=
  s!"Exceeds the limit ({maxIntegerDigits} digits) for integer string conversion: value has {e.digits} digits; "
    ++ "use sys.set_int_max_str_digits() to increase the limit"

inductive IntegerFault where
  | tooLarge (e : IntegerTooLarge)
  | tooLong (e : IntegerTooLong)

namespace IntegerFault

def message : IntegerFault → String
  | .tooLarge e => e.message
  | .tooLong e => e.message

def label : IntegerFault → String
  | .tooLarge _ => "OverflowError"
  | .tooLong _ => "ValueError"

end IntegerFault

instance : MonadLift (Except IntegerTooLarge) (Except IntegerFault) := ⟨(·.mapError .tooLarge)⟩

instance : MonadLift (Except IntegerTooLong) (Except IntegerFault) := ⟨(·.mapError .tooLong)⟩

def readDigits (cs : List Char) : Except IntegerTooLong Nat :=
  if maxIntegerDigits < cs.length then .error ⟨cs.length⟩ else .ok (digitsValue cs)

def spanDigits (cs : List Char) : List Char × List Char := (cs.takeWhile isAsciiDigit, cs.dropWhile isAsciiDigit)

def readExponent : List Char → Int × List Char
  | [] => (0, [])
  | mark :: rest =>
    if mark == 'e' || mark == 'E' then
      let (negative, digitsFrom) := match rest with
        | '-' :: cs => (true, cs)
        | '+' :: cs => (false, cs)
        | cs => (false, cs)
      match spanDigits digitsFrom with
      | ([], _) => (0, mark :: rest)
      | (digits, rest) => ((if negative then -1 else 1) * (digitsValue digits : Int), rest)
    else (0, mark :: rest)

def readFraction : List Char → List Char × List Char
  | '.' :: cs => spanDigits cs
  | cs => ([], cs)

def readUnsigned? (negative : Bool) (cs : List Char) : Option Float :=
  let (whole, rest) := spanDigits cs
  let (fraction, rest) := readFraction rest
  if whole.isEmpty && fraction.isEmpty then none else
  match readExponent rest with
  | (exponent, []) => some (ofDecimal negative (digitsValue (whole ++ fraction)) (exponent - fraction.length))
  | _ => none

def dropUnderscores? (before : Bool) : List Char → Option (List Char)
  | [] => some []
  | '_' :: c :: rest =>
    if before && isAsciiDigit c then (dropUnderscores? true rest).map (c :: ·) else none
  | ['_'] => none
  | c :: rest => (dropUnderscores? (isAsciiDigit c) rest).map (c :: ·)

def plainDigits (cs : List Char) : List Char :=
  cs.map fun c => match decimalDigit? c with
    | some n => Char.ofNat (48 + n)
    | none => c

def readSigned? : List Char → Option Float
  | cs =>
    let (negative, rest) := match cs with
      | '-' :: cs => (true, cs)
      | '+' :: cs => (false, cs)
      | cs => (false, cs)
    let word := rest.map fun c => if 'A' ≤ c && c ≤ 'Z' then Char.ofNat (c.toNat + 32) else c
    if word == "inf".toList || word == "infinity".toList then some (nearest negative (2 ^ (1024 : Nat)) 1)
    else if word == "nan".toList then some notANumber
    else readUnsigned? negative rest

def ofText? (s : String) : Option Float :=
  (dropUnderscores? false (plainDigits (trimWhile isWhiteSpace s.toList))).bind readSigned?

end DamagePlan.Decimal
