import DamagePlan.Script.Value

/-!
The stack that evaluations run on. How much of it is left is up to whoever runs a script, so it is a parameter of all that
evaluates scripts; only expressions of little depth are sure to fit.
-/
set_option autoImplicit false

namespace DamagePlan.Script

namespace Expr

mutual
/-- How deep an evaluation nests. A deferred body is not evaluated. -/
def reach : Expr → Nat
  | .number _ | .string _ | .bool _ | .null | .name _ | .verbatim _ | .deferred _ => 1
  | .member obj _ => obj.reach + 1
  | .index obj key => max obj.reach key.reach + 1
  | .call func args => max func.reach (reachOfList args) + 1
  | .unary _ operand => operand.reach + 1
  | .binary _ left right => max left.reach right.reach + 1
  | .conditional test consequent alternative => max test.reach (max consequent.reach alternative.reach) + 1
  | .list items => reachOfList items + 1
  | .record entries => reachOfEntries entries + 1

def reachOfList : List Expr → Nat
  | [] => 0
  | e :: es => max e.reach (reachOfList es)

def reachOfEntries : List (String × Expr) → Nat
  | [] => 0
  | (_, e) :: rest => max e.reach (reachOfEntries rest)
end

mutual
def compares : Expr → Bool
  | .number _ | .string _ | .bool _ | .null | .name _ | .verbatim _ | .deferred _ => false
  | .member obj _ => obj.compares
  | .index obj key => obj.compares || key.compares
  | .call func args => func.compares || comparesInList args
  | .unary _ operand => operand.compares
  | .binary op left right => op = .equal || op = .notEqual || left.compares || right.compares
  | .conditional test consequent alternative => test.compares || consequent.compares || alternative.compares
  | .list items => comparesInList items
  | .record entries => comparesInEntries entries

def comparesInList : List Expr → Bool
  | [] => false
  | e :: es => e.compares || comparesInList es

def comparesInEntries : List (String × Expr) → Bool
  | [] => false
  | (_, e) :: rest => e.compares || comparesInEntries rest
end

end Expr

structure Expr.Fits (k : Nat) (e : Expr) : Prop where
  shallow : e.reach ≤ k
  plain : e.compares = false

namespace Expr.Fits

variable {k l : Nat} {e : Expr}

theorem mono (deeper : k ≤ l) (fits : e.Fits k) : e.Fits l := ⟨Nat.le_trans fits.shallow deeper, fits.plain⟩

theorem leaf (one : e.reach = 1) (plain : e.compares = false) : e.Fits (k + 1) :=
  ⟨one ▸ Nat.le_add_left 1 k, plain⟩

theorem unary (op : UnaryOp) (fits : e.Fits k) : (Expr.unary op e).Fits (k + 1) :=
  ⟨Nat.succ_le_succ fits.shallow, fits.plain⟩

end Expr.Fits

/-- What the host reports when a stack runs out, if it does: in an evaluation of an expression in a scope, and in taking a
value for the name of a game. -/
structure Stack where
  overrun? : Scope → Expr → Option String
  lookUpOverrun? : Value → Option String
  roomy : ∀ scope (e : Expr), e.Fits 64 → overrun? scope e = none

namespace Stack

def overrunMessage : String := "maximum recursion depth exceeded"

def levels (spare : Nat) : Stack where
  overrun? _ e := if e.reach ≤ 64 + spare then none else some overrunMessage
  lookUpOverrun? _ := none
  roomy _ _ fits := if_pos (Nat.le_trans fits.shallow (Nat.le_add_right ..))

end Stack

end DamagePlan.Script
