import DamagePlan.Script.Expr
import DamagePlan.Decimal.Binary
import DamagePlan.Json.Basic

/-!
Literal expressions of JSON values.
-/
set_option autoImplicit false

namespace DamagePlan.Script

open Decimal (IntegerTooLarge)

namespace Expr

mutual
def ofJson : Json → Except IntegerTooLarge Expr
  | .null => .ok .null
  | .bool b => .ok (.bool b)
  | .int n => (Decimal.ofInteger n).map .number
  | .float x => .ok (.number x)
  | .str s => .ok (.string s)
  | .arr items => (ofJsonList items).map .list
  | .obj fields => (ofJsonFields fields).map .record

def ofJsonList : List Json → Except IntegerTooLarge (List Expr)
  | [] => .ok []
  | j :: js => do
    let e ← ofJson j
    let es ← ofJsonList js
    return e :: es

def ofJsonFields : List (String × Json) → Except IntegerTooLarge (List (String × Expr))
  | [] => .ok []
  | (k, j) :: rest => do
    let e ← ofJson j
    let es ← ofJsonFields rest
    return (k, e) :: es
end

def callName (func : String) (args : List Expr) : Expr := .call (.name func) args

def natural (n : Nat) : Expr := .number (Float.ofNat n)

end Expr

end DamagePlan.Script
