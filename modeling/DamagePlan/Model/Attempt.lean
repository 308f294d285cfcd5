import DamagePlan.Form.Basic

/-!
Attempts: the state that is carried from one request to the next.
-/
set_option autoImplicit false

namespace DamagePlan

structure Attempt where
  number : Nat := 1
  maxAttempts : Nat := 3
  lastError : Option String := none

namespace Attempt

def isFinal (a : Attempt) : Bool := a.maxAttempts ≤ a.number

def isExhausted (a : Attempt) : Bool := a.maxAttempts < a.number

def next (a : Attempt) (error : String) : Attempt := { a with number := a.number + 1, lastError := some error }

open Form in
def read (record : Fields Datum) : Checked Attempt :=
  Attempt.mk
    <$> defaulted record "number" 1 (Reader.naturalIn 1 none)
    <*> defaulted record "max_attempts" 3 (Reader.naturalIn 1 none)
    <*> optional record "last_error" Reader.string

def ofJson : Json → Form.Checked Attempt := Form.ofObject read

end Attempt

end DamagePlan
