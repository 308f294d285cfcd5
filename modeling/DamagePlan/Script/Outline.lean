import DamagePlan.Script.Value

/-!
Outlines: a value on one line for messages, where an expression is shown as its nodes, each with its kind and
its named parts.
-/
set_option autoImplicit false

namespace DamagePlan.Script

namespace Outline

def node (kind : String) (parts : List (String × String)) : String :=
  kind ++ "(" ++ ", ".intercalate (parts.map fun (name, shown) => name ++ "=" ++ shown) ++ ")"

def sequence : List String → String
  | [part] => "(" ++ part ++ ",)"
  | parts => "(" ++ ", ".intercalate parts ++ ")"

def truth (b : Bool) : String := if b then "True" else "False"

mutual
def expr : Expr → String
  | .number x => node "Number" [("value", Decimal.shortestText x)]
  | .string s => node "String" [("value", Text.quoted s)]
  | .bool b => node "Bool" [("value", truth b)]
  | .null => node "Null" []
  | .name id => node "Name" [("id", Text.quoted id)]
  | .member obj name => node "Member" [("obj", expr obj), ("name", Text.quoted name)]
  | .index obj key => node "Index" [("obj", expr obj), ("index", expr key)]
  | .call func args => node "Call" [("func", expr func), ("args", sequence (exprs args))]
  | .unary op operand => node "Unary" [("op", Text.quoted op.text), ("operand", expr operand)]
  | .binary op left right =>
    node "Binary" [("op", Text.quoted op.text), ("left", expr left), ("right", expr right)]
  | .conditional test consequent alternative =>
    node "Conditional" [("test", expr test), ("then", expr consequent), ("orelse", expr alternative)]
  | .list items => node "ListExpr" [("items", sequence (exprs items))]
  | .record entries => node "RecordExpr" [("entries", sequence (entryOutlines entries))]
  | .deferred body => node "Deferred" [("body", expr body)]
  | .verbatim text => node "Verbatim" [("text", Text.quoted text)]

def exprs : List Expr → List String
  | [] => []
  | e :: es => expr e :: exprs es

def entryOutlines : List (String × Expr) → List String
  | [] => []
  | (k, e) :: rest => sequence [Text.quoted k, expr e] :: entryOutlines rest
end

mutual
def value : Value → String
  | .string s => Text.quoted s
  | .null => "None"
  | .bool b => truth b
  | .number x => Decimal.shortestText x.value
  | .emptySum => "0"
  | .list items => "[" ++ ", ".intercalate (values items) ++ "]"
  | .record fields => "\x7b" ++ ", ".intercalate (fieldOutlines fields) ++ "\x7d"
  | .closure body scope =>
    node "Closure" [("body", expr body), ("scope", "\x7b" ++ ", ".intercalate (fieldOutlines scope) ++ "\x7d")]
  | .helper h => h.name
  | .standIn s => s.origin.getD ""

def values : List Value → List String
  | [] => []
  | v :: vs => value v :: values vs

def fieldOutlines : List (String × Value) → List String
  | [] => []
  | (k, v) :: rest => (Text.quoted k ++ ": " ++ value v) :: fieldOutlines rest
end

end Outline

end DamagePlan.Script
