import DamagePlan.Script.Parser

/-!
Acceptance of expressions that are not trusted: an expression is taken if it parses, defers nothing and reads
only the names of a calculation's context.
-/
set_option autoImplicit false

namespace DamagePlan.Script

def contextNames : List String :=
  ["talent", "attr", "calc", "params", "cons", "weapon", "trees", "element", "currentTalent"]

def helperNames : List String :=
  ["dmg", "heal", "shield", "reaction", "calc", "toRatio", "num", "pick", "sum", "isList", "min", "max", "round"]

def maxExpressionLength : Nat := 400

def isArrow : Token → Bool
  | ⟨.symbol .arrow, _⟩ => true
  | _ => false

def Expr.readsContextOnly (e : Expr) : Bool :=
  e.names.all fun name => contextNames.contains name || helperNames.contains name

/-- Whether a text of any length parses in parentheses, defers nothing and reads only the context. -/
def isContextExpression (text : String) : Bool :=
  match tokenize text with
  | .error _ => false
  | .ok tokens =>
    !tokens.any isArrow && match parseExpression ("(" ++ text ++ ")") with
      | .error _ => false
      | .ok e => e.readsContextOnly

def acceptedExpression? (text : String) : Option String :=
  let text := Text.trim text
  if text.isEmpty || maxExpressionLength < text.length then none
  else if isContextExpression text then some text else none

end DamagePlan.Script
