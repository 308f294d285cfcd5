import DamagePlan.Datum.Moment
import DamagePlan.Decimal.Reading

/-!
What may be wrong with a YAML text: its form, the structure of its nodes, or the value of a scalar.
-/
set_option autoImplicit false

namespace DamagePlan.Yaml

attribute [local instance (2000)] instPowNat

inductive Fault where
  | malformed (line column : Nat)
  | keyOfParts
  | unmergeable
  | noValue (sign : String)
  | noCharacter (code : Nat)
  | noDigits (base : Nat)
  | tooLong (e : Decimal.IntegerTooLong)
  | tooManyPlaces
  | moment (e : MomentFault)

namespace Fault

def maxCode : Nat := 2 ^ (31 : Nat) - 1

def isOverflow : Fault → Bool
  | .noCharacter code => maxCode < code
  | .tooManyPlaces => true
  | _ => false

def isOfValue : Fault → Bool
  | .malformed .. | .keyOfParts | .unmergeable | .noValue _ => false
  | .noCharacter _ | .noDigits _ | .tooLong _ | .tooManyPlaces | .moment _ => true

def message : Fault → String
  | .malformed line column => s!"malformed YAML: line {line + 1} column {column + 1}"
  | .keyOfParts => "found unhashable key"
  | .unmergeable => "expected a mapping or list of mappings for merging"
  | .noValue sign => s!"no value for {sign}"
  | .noCharacter code =>
    if maxCode < code then "Python int too large to convert to C int" else "chr() arg not in range(0x110000)"
  | .noDigits base => s!"invalid literal for int() with base {base}: ''"
  | .tooLong e => e.message
  | .tooManyPlaces => "int too large to convert to float"
  | .moment e => e.message

end Fault

end DamagePlan.Yaml
