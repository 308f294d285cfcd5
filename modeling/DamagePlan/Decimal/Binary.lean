/-!
Binary floating-point numbers as exact rationals, and the number nearest to a rational.
-/
set_option autoImplicit false

namespace DamagePlan.Decimal

-- every power here is the one of the core library, whatever else is in sight
attribute [local instance (2000)] instPowNat

inductive Binary where
  | nan
  | infinite (negative : Bool)
  | finite (negative : Bool) (mantissa : Nat) (exponent : Int)
deriving DecidableEq

namespace Binary

def leastExponent : Int := -1074

def ofFloat (x : Float) : Binary :=
  let bits := x.toBits.toNat
  let negative := bits ≥ 2 ^ (63 : Nat)
  let field := bits / 2 ^ (52 : Nat) % 2048
  let fraction := bits % 2 ^ (52 : Nat)
  if field = 2047 then if fraction = 0 then .infinite negative else .nan
  else if field = 0 then .finite negative fraction leastExponent
  else .finite negative (2 ^ (52 : Nat) + fraction) (leastExponent + (field - 1 : Nat))

end Binary

def roundDiv (num den : Nat) : Nat :=
  let quotient := num / den
  let twice := 2 * (num % den)
  if twice < den then quotient
  else if den < twice then quotient + 1
  else if quotient % 2 = 0 then quotient else quotient + 1

def scaleBinary (n d : Nat) (e : Int) : Nat × Nat :=
  if 0 ≤ e then (n * 2 ^ e.toNat, d) else (n, d * 2 ^ (-e).toNat)

def scaleDecimal (n d : Nat) (e : Int) : Nat × Nat :=
  if 0 ≤ e then (n * 10 ^ e.toNat, d) else (n, d * 10 ^ (-e).toNat)

def floorLog2 (num den : Nat) : Int :=
  let guess : Int := (num.log2 : Int) - den.log2
  let (n, d) := scaleBinary num den (-guess)
  if n < d then guess - 1 else guess

def infinityBits : Nat := 2047 * 2 ^ (52 : Nat)

/-- Bits of the double nearest to a fraction, a tie to the even mantissa, or of infinity. Adding the
mantissa to the scaled exponent also carries a mantissa that rounds up to the next power of two. -/
def nearestBits (num den : Nat) : Nat :=
  if num = 0 then 0 else
  let unit := max (floorLog2 num den - 52) Binary.leastExponent
  let (n, d) := scaleBinary num den (-unit)
  min ((unit - Binary.leastExponent).toNat * 2 ^ (52 : Nat) + roundDiv n d) infinityBits

def nearest (negative : Bool) (num den : Nat) : Float :=
  Float.ofBits (UInt64.ofNat (nearestBits num den + if negative then 2 ^ (63 : Nat) else 0))

def nearestInt? (n : Int) : Option Float :=
  if nearestBits n.natAbs 1 = infinityBits then none else some (nearest (n < 0) n.natAbs 1)

structure IntegerTooLarge where
  value : Int

def IntegerTooLarge.message (_ : IntegerTooLarge) : String := "int too large to convert to float"

def ofInteger (n : Int) : Except IntegerTooLarge Float :=
  match nearestInt? n with
  | some x => .ok x
  | none => .error ⟨n⟩

def infinity : Float := Float.ofBits (UInt64.ofNat infinityBits)

def notANumber : Float := Float.ofBits (UInt64.ofNat (infinityBits + 2 ^ (51 : Nat)))

def isFinite (x : Float) : Bool :=
  match Binary.ofFloat x with
  | .finite .. => true
  | _ => false

def truncate? (x : Float) : Option Int :=
  match Binary.ofFloat x with
  | .finite negative mantissa exponent =>
    let (n, d) := scaleBinary mantissa 1 exponent
    some (if negative then -((n / d : Nat) : Int) else (n / d : Nat))
  | _ => none

def integral? (x : Float) : Option Int :=
  match Binary.ofFloat x with
  | .finite negative mantissa exponent =>
    let (n, d) := scaleBinary mantissa 1 exponent
    if n % d = 0 then some (if negative then -((n / d : Nat) : Int) else (n / d : Nat)) else none
  | _ => none

/-- The exact remainder of a division that rounds toward zero; it has the dividend's sign. The divisor
is not zero. None for an infinite dividend. -/
def remainder? (x y : Float) : Option Float :=
  match Binary.ofFloat x, Binary.ofFloat y with
  | .nan, _ => some notANumber
  | _, .nan => some notANumber
  | .infinite _, _ => none
  | .finite .., .infinite _ => some x
  | .finite negative m e, .finite _ n f =>
    let unit := min e f
    let dividend := m * 2 ^ (e - unit).toNat
    let divisor := n * 2 ^ (f - unit).toNat
    let (num, den) := scaleBinary (dividend % divisor) 1 unit
    some (nearest negative num den)

/-- Rounds to a number of decimal places, which may be negative, a half to the even neighbour. Numbers
have no decimals beyond 323 places, and none reaches 10 ^ 309. None when the result is out of range. -/
def roundPlaces? (x : Float) (places : Int) : Option Float :=
  match Binary.ofFloat x with
  | .finite negative mantissa exponent =>
    if 323 < places then some x
    else if places < -308 then some (nearest negative 0 1)
    else
      let (n, d) := scaleBinary mantissa 1 exponent
      let (n, d) := scaleDecimal n d places
      let (num, den) := scaleDecimal (roundDiv n d) 1 (-places)
      if nearestBits num den = infinityBits then none else some (nearest negative num den)
  | _ => some x

end DamagePlan.Decimal
