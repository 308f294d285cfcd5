import DamagePlan.Json.Printer
import DamagePlan.Script.Parser
import DamagePlan.Text.Lines

/-!
Script text of expressions and scripts. Operands take parentheses where their binding power asks for it,
and records that hold deferred or nested records span lines.
-/
set_option autoImplicit false

namespace DamagePlan.Script

open Text

attribute [local instance (2000)] instPowNat

structure NonFinite where
  value : Float

def NonFinite.message (e : NonFinite) : String :=
  s!"Cannot emit non-finite number: {Decimal.shortestText e.value}"

def numberText (x : Float) : String :=
  match Decimal.integral? x with
  | some n => if n.natAbs < 10 ^ (15 : Nat) then Decimal.integerText n else Decimal.shortestText x
  | none => Decimal.shortestText x

def stringText (s : String) : String := String.ofList (Json.stringLiteral false s)

def isPlainNameStart (c : Char) : Bool := isAsciiLetter c || c == '_' || c == '$'

def isPlainName : List Char → Bool
  | [] => false
  | c :: cs => isPlainNameStart c && cs.all fun c => isPlainNameStart c || isAsciiDigit c

def isBareKey (key : String) : Bool := isPlainName (withoutFinalNewline key.toList) && !keywords.contains key

def keyText (key : String) : String := if isBareKey key then key else stringText key

namespace Expr

/-- Loosest first: deferred −1, conditional 0, binary operators by their power, unary 7, and the rest 9. -/
def power : Expr → Int
  | .deferred _ => -1
  | .conditional .. => 0
  | .binary op _ _ => op.power
  | .unary .. => 7
  | _ => 9

def postfixPower : Int := 8

def isRecord : Expr → Bool
  | .record _ => true
  | _ => false

def isDeferred : Expr → Bool
  | .deferred _ => true
  | _ => false

def isBlock : Expr → Bool
  | .record entries => entries.any fun (_, v) => v.isDeferred || v.isRecord
  | .list items => items.any isRecord
  | _ => false

def parenthesize (text : List Char) (needed : Bool) : List Char :=
  if needed then '(' :: text ++ [')'] else text

def margin (indent : Int) : List Char := List.replicate (2 * indent.toNat) ' '

def bracketed (opening closing : Char) (block : Bool) (indent : Int) (parts : List (List Char)) : List Char :=
  if parts.isEmpty then [opening, closing]
  else if block then
    opening :: '\n' :: [',', '\n'].intercalate (parts.map (margin (indent + 1) ++ ·))
      ++ '\n' :: margin indent ++ [closing]
  else opening :: [',', ' '].intercalate parts ++ [closing]

mutual
def print (indent : Int) : Expr → List Char
  | .number x => (numberText x).toList
  | .string s => (stringText s).toList
  | .bool b => (if b then "true" else "false").toList
  | .null => "null".toList
  | .name id => id.toList
  | .verbatim text => '(' :: trimList text.toList ++ [')']
  | .member obj part => parenthesize (print indent obj) (obj.power < postfixPower) ++ '.' :: part.toList
  | .index obj key =>
    parenthesize (print indent obj) (obj.power < postfixPower) ++ '[' :: print indent key ++ [']']
  | .call func args =>
    parenthesize (print indent func) (func.power < postfixPower)
      ++ '(' :: [',', ' '].intercalate (printList indent args) ++ [')']
  | .unary op operand => op.text.toList ++ parenthesize (print indent operand) (operand.power < 7)
  | .binary op left right =>
    parenthesize (print indent left) (left.power < op.power) ++ ' ' :: op.text.toList ++ ' ' ::
      parenthesize (print indent right) (right.power < op.power + 1)
  | .conditional test consequent alternative =>
    parenthesize (print indent test) (test.power < 1) ++ ' ' :: '?' :: ' ' ::
      parenthesize (print indent consequent) (consequent.power < 1) ++ ' ' :: ':' :: ' ' ::
      parenthesize (print indent alternative) (alternative.power < 0)
  | .deferred body => '=' :: '>' :: ' ' :: print indent body
  | .list items =>
    let block := (Expr.list items).isBlock
    bracketed '[' ']' block indent (printList (if block then indent + 1 else indent) items)
  | .record entries =>
    let block := (Expr.record entries).isBlock
    bracketed '\x7b' '\x7d' block indent (printEntries (if block then indent + 1 else indent) entries)

def printList (indent : Int) : List Expr → List (List Char)
  | [] => []
  | e :: es => print indent e :: printList indent es

def printEntries (indent : Int) : List (String × Expr) → List (List Char)
  | [] => []
  | (k, e) :: rest => ((keyText k).toList ++ ':' :: ' ' :: print indent e) :: printEntries indent rest
end

mutual
def nonFinite? : Expr → Option NonFinite
  | .number x => if Decimal.isFinite x then none else some ⟨x⟩
  | .string _ | .bool _ | .null | .name _ | .verbatim _ => none
  | .member obj _ => nonFinite? obj
  | .index obj key => (nonFinite? obj).or (nonFinite? key)
  | .call func args => (nonFiniteInList? args).or (nonFinite? func)
  | .unary _ operand => nonFinite? operand
  | .binary _ left right => (nonFinite? left).or (nonFinite? right)
  | .conditional test consequent alternative =>
    ((nonFinite? test).or (nonFinite? consequent)).or (nonFinite? alternative)
  | .deferred body => nonFinite? body
  | .list items => nonFiniteInList? items
  | .record entries => nonFiniteInEntries? entries

def nonFiniteInList? : List Expr → Option NonFinite
  | [] => none
  | e :: es => (nonFinite? e).or (nonFiniteInList? es)

def nonFiniteInEntries? : List (String × Expr) → Option NonFinite
  | [] => none
  | (_, e) :: rest => (nonFinite? e).or (nonFiniteInEntries? rest)
end

def plainText (e : Expr) (indent : Int := 0) : String := String.ofList (e.print indent)

def text (e : Expr) (indent : Int := 0) : Except NonFinite String :=
  match e.nonFinite? with
  | some x => .error x
  | none => .ok (e.plainText indent)

end Expr

namespace Program

def headerLines (header : String) : List String :=
  (lines header).map fun line => if line.isEmpty then "#" else "# " ++ line

def assignmentLines (before : List String) (a : Assignment) : List String :=
  let line := a.name ++ " = " ++ a.value.plainText
  if a.value.isBlock then
    let gap := if before.isEmpty || before.getLast? = some "" then [] else [""]
    before ++ gap ++ [line, ""]
  else before ++ [line]

def plainText (s : Program) : String :=
  let lines := s.assignments.foldl assignmentLines (headerLines s.header)
  String.ofList (dropEndWhile (· == '\n') ("\n".intercalate lines).toList) ++ "\n"

def text (s : Program) : Except NonFinite String :=
  match s.assignments.findSome? fun a => a.value.nonFinite? with
  | some x => .error x
  | none => .ok s.plainText

end Program

end DamagePlan.Script
