import DamagePlan.Decimal.Reading
import DamagePlan.Json.Basic
import DamagePlan.Script.Expr

/-!
Expressions as JSON: a list that begins with the kind of the expression and goes on with its parts.
-/
set_option autoImplicit false

namespace DamagePlan.Script

def UnaryOp.all : List UnaryOp := [.negate, .plus, .not]

def BinaryOp.all : List BinaryOp :=
  [.or, .and, .equal, .notEqual, .less, .lessEqual, .greater, .greaterEqual, .add, .subtract, .multiply, .divide,
    .remainder]

def UnaryOp.ofText? (s : String) : Option UnaryOp := all.find? (·.text == s)

def BinaryOp.ofText? (s : String) : Option BinaryOp := all.find? (·.text == s)

namespace Expr

def node (kind : String) (parts : List Json) : Json := .arr (.str kind :: parts)

mutual
def toTree : Expr → Json
  | .number x => node "Number" [.str (Decimal.shortestText x)]
  | .string s => node "String" [.str s]
  | .bool b => node "Bool" [.bool b]
  | .null => node "Null" []
  | .name id => node "Name" [.str id]
  | .member obj field => node "Member" [toTree obj, .str field]
  | .index obj key => node "Index" [toTree obj, toTree key]
  | .call func args => node "Call" [toTree func, .arr (toTrees args)]
  | .unary op operand => node "Unary" [.str op.text, toTree operand]
  | .binary op left right => node "Binary" [.str op.text, toTree left, toTree right]
  | .conditional test consequent alternative =>
    node "Conditional" [toTree test, toTree consequent, toTree alternative]
  | .list items => node "ListExpr" [.arr (toTrees items)]
  | .record entries => node "RecordExpr" [.arr (entryTrees entries)]
  | .deferred body => node "Deferred" [toTree body]
  | .verbatim text => node "Verbatim" [.str text]

def toTrees : List Expr → List Json
  | [] => []
  | e :: es => toTree e :: toTrees es

def entryTrees : List (String × Expr) → List Json
  | [] => []
  | (key, e) :: rest => .arr [.str key, toTree e] :: entryTrees rest
end

mutual
def ofTree : Json → Expr
  | .arr [.str "Number", .str text] => .number ((Decimal.ofText? text).getD 0)
  | .arr [.str "String", .str s] => .string s
  | .arr [.str "Bool", .bool b] => .bool b
  | .arr [.str "Name", .str id] => .name id
  | .arr [.str "Member", obj, .str field] => .member (ofTree obj) field
  | .arr [.str "Index", obj, key] => .index (ofTree obj) (ofTree key)
  | .arr [.str "Call", func, .arr args] => .call (ofTree func) (ofTrees args)
  | .arr [.str "Unary", .str op, operand] => .unary ((UnaryOp.ofText? op).getD .not) (ofTree operand)
  | .arr [.str "Binary", .str op, left, right] =>
    .binary ((BinaryOp.ofText? op).getD .add) (ofTree left) (ofTree right)
  | .arr [.str "Conditional", test, consequent, alternative] =>
    .conditional (ofTree test) (ofTree consequent) (ofTree alternative)
  | .arr [.str "ListExpr", .arr items] => .list (ofTrees items)
  | .arr [.str "RecordExpr", .arr entries] => .record (ofEntryTrees entries)
  | .arr [.str "Deferred", body] => .deferred (ofTree body)
  | .arr [.str "Verbatim", .str text] => .verbatim text
  | _ => .null

def ofTrees : List Json → List Expr
  | [] => []
  | j :: js => ofTree j :: ofTrees js

def ofEntryTrees : List Json → List (String × Expr)
  | [] => []
  | .arr [.str key, j] :: rest => (key, ofTree j) :: ofEntryTrees rest
  | _ :: rest => ofEntryTrees rest
end

end Expr

end DamagePlan.Script
