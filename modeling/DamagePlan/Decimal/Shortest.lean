import DamagePlan.Decimal.Binary

/-!
Decimal texts of binary numbers: the fewest digits that read back, and a fixed count of significant
digits.
-/
set_option autoImplicit false

namespace DamagePlan.Decimal

attribute [local instance (2000)] instPowNat

structure Digits where
  value : Nat
  exponent : Int
deriving DecidableEq

namespace Digits

def floorLog10 (num den : Nat) : Int :=
  let guess := floorLog2 num den * 30103 / 100000
  let above (e : Int) : Bool := let (n, d) := scaleDecimal num den (-e); d ≤ n
  if above (guess + 1) then guess + 1 else if above guess then guess else guess - 1

structure Neighbourhood where
  low : Nat
  value : Nat
  high : Nat
  unit : Int
  closed : Bool

def Neighbourhood.of (mantissa : Nat) (exponent : Int) : Neighbourhood where
  low := if mantissa = 2 ^ (52 : Nat) && Binary.leastExponent < exponent then 4 * mantissa - 1 else 4 * mantissa - 2
  value := 4 * mantissa
  high := 4 * mantissa + 2
  unit := exponent - 2
  closed := mantissa % 2 = 0

/-- The better of the two neighbours of the magnitude on the grid of the multiples of `10 ^ place`, if
one of them lies in the interval: the nearer, of two as near the even one. -/
def Neighbourhood.onGrid? (around : Neighbourhood) (place : Int) : Option Nat :=
  let (s, d) := scaleBinary 1 1 around.unit
  let (s, d) := scaleDecimal s d (-place)
  let scaled := around.value * s
  let below := scaled / d
  let holds (candidate : Nat) : Bool :=
    let x := candidate * d
    if around.closed then around.low * s ≤ x && x ≤ around.high * s
    else around.low * s < x && x < around.high * s
  match holds below && below != 0, holds (below + 1) with
  | true, true => some (roundDiv scaled d)
  | true, false => some below
  | false, true => some (below + 1)
  | false, false => none

def searchGrids (around : Neighbourhood) (exponent : Int) : (tries count : Nat) → Digits
  | 0, count => ⟨around.value, exponent + count⟩
  | tries + 1, count =>
    match around.onGrid? (exponent - count + 1) with
    | some n => if n = 10 ^ count then ⟨1, exponent + 1⟩ else ⟨n, exponent⟩
    | none => searchGrids around exponent tries (count + 1)

def shortest (mantissa : Nat) (exponent : Int) : Digits :=
  let (n, d) := scaleBinary mantissa 1 exponent
  searchGrids (.of mantissa exponent) (floorLog10 n d) 17 1

def significant (count mantissa : Nat) (exponent : Int) : Digits :=
  let (n, d) := scaleBinary mantissa 1 exponent
  let first := floorLog10 n d
  let (num, den) := scaleDecimal n d (count - 1 - first)
  let rounded := roundDiv num den
  if rounded = 10 ^ count then ⟨1, first + 1⟩ else ⟨rounded, first⟩

def characters (digits : Digits) : List Char :=
  ((Nat.toDigits 10 digits.value).reverse.dropWhile (· == '0')).reverse

end Digits

structure Layout where
  leastPositional : Int
  mostPositional : Int
  integerTail : String
  notANumberText : String
  infinityText : String
  significant : Option Nat

namespace Layout

def exponentText (e : Int) : List Char :=
  let digits := Nat.toDigits 10 e.natAbs
  (if e < 0 then '-' else '+') :: (if digits.length < 2 then '0' :: digits else digits)

def place (layout : Layout) (digits : List Char) (exponent : Int) : List Char :=
  if exponent < layout.leastPositional || layout.mostPositional < exponent then
    let tail := 'e' :: exponentText exponent
    match digits with
    | first :: second :: rest => first :: '.' :: second :: rest ++ tail
    | _ => digits ++ tail
  else if exponent < 0 then
    '0' :: '.' :: List.replicate (-exponent - 1).toNat '0' ++ digits
  else
    let whole := exponent.toNat + 1
    if digits.length ≤ whole then
      digits ++ List.replicate (whole - digits.length) '0' ++ layout.integerTail.toList
    else digits.take whole ++ '.' :: digits.drop whole

def magnitude (layout : Layout) (mantissa : Nat) (exponent : Int) : List Char :=
  if mantissa = 0 then '0' :: layout.integerTail.toList else
  let digits := match layout.significant with
    | some count => Digits.significant count mantissa exponent
    | none => Digits.shortest mantissa exponent
  layout.place digits.characters digits.exponent

def render (layout : Layout) (x : Float) : String :=
  match Binary.ofFloat x with
  | .nan => layout.notANumberText
  | .infinite negative => (if negative then "-" else "") ++ layout.infinityText
  | .finite negative mantissa exponent =>
    String.ofList ((if negative then ['-'] else []) ++ layout.magnitude mantissa exponent)

def shortest : Layout where
  leastPositional := -4
  mostPositional := 15
  integerTail := ".0"
  notANumberText := "nan"
  infinityText := "inf"
  significant := none

def brief : Layout where
  leastPositional := -4
  mostPositional := 5
  integerTail := ""
  notANumberText := "nan"
  infinityText := "inf"
  significant := some 6

end Layout

def shortestText (x : Float) : String := Layout.shortest.render x

def briefText (x : Float) : String := Layout.brief.render x

def integerText (n : Int) : String :=
  String.ofList ((if n < 0 then ['-'] else []) ++ Nat.toDigits 10 n.natAbs)

end DamagePlan.Decimal
