import DamagePlan.Text.Letter.Table

/-!
Letters, word characters and decimal digits of any script.
-/
set_option autoImplicit false

namespace DamagePlan.Text

def isAsciiLetter (c : Char) : Bool := ('a' ≤ c && c ≤ 'z') || ('A' ≤ c && c ≤ 'Z')

def isAsciiDigit (c : Char) : Bool := '0' ≤ c && c ≤ '9'

def isLetter (c : Char) : Bool :=
  if c.toNat < 128 then isAsciiLetter c else letterSpans.contains c.toNat

def isLetterOrNumeral (c : Char) : Bool :=
  if c.toNat < 128 then isAsciiLetter c || isAsciiDigit c
  else letterSpans.contains c.toNat || numeralSpans.contains c.toNat

def isWordChar (c : Char) : Bool := c == '_' || isLetterOrNumeral c

def decimalDigit? (c : Char) : Option Nat :=
  if c.toNat < 128 then if isAsciiDigit c then some (c.toNat - 48) else none
  else (decimalZeros.find? fun first => first ≤ c.toNat && c.toNat ≤ first + 9).map (c.toNat - ·)

def isDecimalDigit (c : Char) : Bool := (decimalDigit? c).isSome

def readNat? (cs : List Char) : Option Nat :=
  cs.foldl (fun acc c => do return (← acc) * 10 + (← decimalDigit? c)) (some 0)

end DamagePlan.Text
