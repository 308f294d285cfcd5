/-!
Expressions and scripts of the calculation language.
-/
set_option autoImplicit false

namespace DamagePlan.Script

inductive UnaryOp where
  | negate
  | plus
  | not
deriving DecidableEq, Repr

inductive BinaryOp where
  | or
  | and
  | equal
  | notEqual
  | less
  | lessEqual
  | greater
  | greaterEqual
  | add
  | subtract
  | multiply
  | divide
  | remainder
deriving DecidableEq, Repr

def UnaryOp.text : UnaryOp → String
  | .negate => "-"
  | .plus => "+"
  | .not => "!"

def BinaryOp.text : BinaryOp → String
  | .or => "||"
  | .and => "&&"
  | .equal => "=="
  | .notEqual => "!="
  | .less => "<"
  | .lessEqual => "<="
  | .greater => ">"
  | .greaterEqual => ">="
  | .add => "+"
  | .subtract => "-"
  | .multiply => "*"
  | .divide => "/"
  | .remainder => "%"

def BinaryOp.power : BinaryOp → Nat
  | .or => 1
  | .and => 2
  | .equal | .notEqual => 3
  | .less | .lessEqual | .greater | .greaterEqual => 4
  | .add | .subtract => 5
  | .multiply | .divide | .remainder => 6

inductive Expr where
  | number (x : Float)
  | string (s : String)
  | bool (b : Bool)
  | null
  | name (id : String)
  | member (obj : Expr) (name : String)
  | index (obj key : Expr)
  | call (func : Expr) (args : List Expr)
  | unary (op : UnaryOp) (operand : Expr)
  | binary (op : BinaryOp) (left right : Expr)
  | conditional (test consequent alternative : Expr)
  | list (items : List Expr)
  | record (entries : List (String × Expr))
  | deferred (body : Expr)
  | verbatim (text : String)

instance : Inhabited Expr := ⟨.null⟩

structure Assignment where
  name : String
  value : Expr

structure Program where
  header : String := ""
  assignments : List Assignment

namespace Expr

def path (head : String) (parts : List String) : Expr := parts.foldl .member (.name head)

mutual
def names : Expr → List String
  | .number _ | .string _ | .bool _ | .null | .verbatim _ => []
  | .name id => [id]
  | .member obj _ => names obj
  | .index obj key => names obj ++ names key
  | .call func args => names func ++ namesOfList args
  | .unary _ operand => names operand
  | .binary _ left right => names left ++ names right
  | .conditional test consequent alternative => names test ++ names consequent ++ names alternative
  | .list items => namesOfList items
  | .record entries => namesOfEntries entries
  | .deferred body => names body

def namesOfList : List Expr → List String
  | [] => []
  | e :: es => names e ++ namesOfList es

def namesOfEntries : List (String × Expr) → List String
  | [] => []
  | (_, e) :: rest => names e ++ namesOfEntries rest
end

def sortedNames (e : Expr) : List String := (e.names.mergeSort fun a b => a ≤ b).eraseDups

mutual
def same : Expr → Expr → Bool
  | .number x, .number y => x == y
  | .string s, .string t => s == t
  | .bool b, .bool c => b == c
  | .null, .null => true
  | .name a, .name b => a == b
  | .member a n, .member b m => same a b && n == m
  | .index a i, .index b j => same a b && same i j
  | .call f xs, .call g ys => same f g && sameList xs ys
  | .unary o x, .unary p y => o == p && same x y
  | .binary o a b, .binary p c d => o == p && same a c && same b d
  | .conditional a b c, .conditional d e f => same a d && same b e && same c f
  | .list xs, .list ys => sameList xs ys
  | .record xs, .record ys => sameEntries xs ys
  | .deferred x, .deferred y => same x y
  | .verbatim s, .verbatim t => s == t
  | _, _ => false

def sameList : List Expr → List Expr → Bool
  | [], [] => true
  | x :: xs, y :: ys => same x y && sameList xs ys
  | _, _ => false

def sameEntries : List (String × Expr) → List (String × Expr) → Bool
  | [], [] => true
  | (k, x) :: xs, (l, y) :: ys => k == l && same x y && sameEntries xs ys
  | _, _ => false
end

end Expr

end DamagePlan.Script
