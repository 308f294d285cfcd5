import DamagePlan.Script.Printer

/-!
Values of the calculation language, their conversions, and the causes of failing evaluations.
-/
set_option autoImplicit false

namespace DamagePlan.Script

inductive Helper where
  | num | pick | sum | isList | min | max | round
  | dmg | dmgBasic | heal | shield | reaction | calc | toRatio
deriving DecidableEq, Repr

def Helper.name : Helper → String
  | .num => "num" | .pick => "pick" | .sum => "sum" | .isList => "isList" | .min => "min" | .max => "max"
  | .round => "round" | .dmg => "dmg" | .dmgBasic => "dmg.basic" | .heal => "heal" | .shield => "shield"
  | .reaction => "reaction" | .calc => "calc" | .toRatio => "toRatio"

/-- A value that stands in for missing data: it absorbs members, indices and calls, and counts as zero. -/
structure StandIn where
  isTable : Bool
  truthy : Bool
  arrayTables : Bool
  origin : Option String
deriving DecidableEq, Repr

/-- What tells one not-a-number from another: each one that is given has a place among the given data, and each
one that comes up in an evaluation has a place among those. -/
inductive Mark where
  | given (place : Nat)
  | made (place : Nat)
deriving DecidableEq, Repr

structure Numeral where
  value : Float
  mark : Option Mark := none
deriving Repr

namespace Numeral

def zero : Numeral := ⟨0, none⟩

def isUnmarked (x : Numeral) : Bool := x.value.isNaN && x.mark.isNone

def same (x y : Numeral) : Bool := x.value == y.value || (x.value.isNaN && x.mark.isSome && x.mark == y.mark)

end Numeral

inductive Value where
  | null
  | bool (b : Bool)
  | number (x : Numeral)
  /-- The sum of an empty list: zero, and not of the kind that results are checked for. -/
  | emptySum
  | string (s : String)
  | list (items : List Value)
  | record (fields : List (String × Value))
  | closure (body : Expr) (scope : List (String × Value))
  | helper (h : Helper)
  | standIn (s : StandIn)

instance : Inhabited Value := ⟨.null⟩

abbrev Scope := List (String × Value)

namespace Scope

def overlay (outer inner : Scope) : Scope := inner ++ outer.filter fun (k, _) => !inner.any (·.1 == k)

end Scope

inductive Failure where
  | unconvertibleText (s : String)
  | unconvertible (described : String)
  | noText (described : String)
  | undefinedName (id : String)
  | noHelperMember (helper : Helper) (name : String)
  | noMember (name described : String)
  | indexNotText (described : String)
  | notIndexable (described : String)
  | notCallable (described : String)
  | badArity (helper : Helper)
  | noArguments (helper : Helper)
  | verbatimText
  | infiniteInteger
  | notANumberInteger
  | infiniteDividend
  | roundedOutOfRange

inductive FailureClass where
  | evaluation
  | overflow
  | undefined
deriving DecidableEq, Repr

def FailureClass.label : FailureClass → String
  | .evaluation => "EvaluationError"
  | .overflow => "OverflowError"
  | .undefined => "ValueError"

namespace Failure

def message : Failure → String
  | .unconvertibleText s => s!"Cannot convert string {Text.quoted s} to a number"
  | .unconvertible described => s!"Cannot convert {described} to a number"
  | .noText described => s!"Cannot convert {described} to text"
  | .undefinedName id => s!"Name {Text.quoted id} is not defined"
  | .noHelperMember helper name => s!"Helper {helper.name} has no member {Text.quoted name}"
  | .noMember name described => s!"Cannot read member {Text.quoted name} of {described}"
  | .indexNotText described => s!"Record index must be a string, got {described}"
  | .notIndexable described => s!"Cannot index {described}"
  | .notCallable described => s!"{described} is not callable"
  | .badArity helper => s!"Bad call to {helper.name}: arity"
  | .noArguments helper => s!"{helper.name}() needs at least one argument"
  | .verbatimText => "Verbatim text must be parsed before evaluation"
  | .infiniteInteger => "cannot convert float infinity to integer"
  | .notANumberInteger => "cannot convert float NaN to integer"
  | .infiniteDividend => "math domain error"
  | .roundedOutOfRange => "rounded value too large to represent"

def failureClass : Failure → FailureClass
  | .infiniteInteger | .roundedOutOfRange => .overflow
  | .notANumberInteger | .infiniteDividend => .undefined
  | _ => .evaluation

end Failure

namespace Value

def describe : Value → String
  | .null => "null"
  | .bool _ => "boolean"
  | .number _ => "number"
  | .emptySum => "int"
  | .string _ => "string"
  | .list _ => "list"
  | .record _ => "record"
  | .closure .. => "deferred expression"
  | .helper h => s!"helper {h.name}"
  | .standIn _ => "stand-in"

def toNumber : Value → Except Failure Numeral
  | .null => .ok .zero
  | .bool b => .ok ⟨if b then 1 else 0, none⟩
  | .number x => .ok x
  | .emptySum => .ok .zero
  | .standIn _ => .ok .zero
  | .string s =>
    if Text.isBlankText s then .ok .zero else
    match Decimal.ofText? (Text.trim s) with
    | some x => .ok ⟨x, none⟩
    | none => .error (.unconvertibleText s)
  | v => .error (.unconvertible v.describe)

def isTruthy : Value → Bool
  | .null => false
  | .bool b => b
  | .number x => x.value != 0 && !x.value.isNaN
  | .emptySum => false
  | .string s => !s.isEmpty
  | .standIn s => s.truthy
  | _ => true

def toText : Value → Except Failure String
  | .string s => .ok s
  | .null => .ok "null"
  | .bool b => .ok (if b then "true" else "false")
  | .number x => .ok (numberText x.value)
  | .emptySum => .ok "0"
  | .standIn _ => .ok "0"
  | v => .error (.noText v.describe)

def number? : Value → Option Numeral
  | .bool b => some ⟨if b then 1 else 0, none⟩
  | .number x => some x
  | .emptySum => some .zero
  | _ => none

mutual
/-- Equality of values inside of lists and records, and of what deferred expressions have captured. The
order of record fields does not count. -/
def same : Value → Value → Bool
  | .null, .null => true
  | .string s, .string t => s == t
  | .list xs, .list ys => sameList xs ys
  | .record xs, .record ys => xs.length == ys.length && sameFields xs ys
  | .closure body scope, .closure body' scope' =>
    body.same body' && scope.length == scope'.length && sameFields scope scope'
  | .helper h, .helper k => h == k
  | .standIn s, .standIn t => s.origin.isSome && s.origin == t.origin
  | .bool b, w => w.number?.any (Numeral.same ⟨if b then 1 else 0, none⟩)
  | .number x, w => w.number?.any x.same
  | .emptySum, w => w.number?.any Numeral.zero.same
  | _, _ => false

def sameList : List Value → List Value → Bool
  | [], [] => true
  | x :: xs, y :: ys => same x y && sameList xs ys
  | _, _ => false

def sameFields : List (String × Value) → List (String × Value) → Bool
  | [], _ => true
  | (k, x) :: rest, others =>
    (match others.lookup k with
      | some y => same x y
      | none => false) && sameFields rest others
end

def operandNumber? : Value → Option Float
  | .standIn _ => some 0
  | v => v.number?.map (·.value)

def equals (v w : Value) : Bool :=
  match v.operandNumber?, w.operandNumber? with
  | some x, some y => x == y
  | none, none => v.same w
  | _, _ => false

def field (fields : List (String × Value)) (key : String) : Value := (fields.lookup key).getD .null

mutual
/-- The value of given data. Integers become the nearest numbers; each not-a-number is marked with its place. -/
def ofJsonAt (j : Json) (place : Nat) : Except Decimal.IntegerTooLarge (Value × Nat) :=
  match j with
  | .null => .ok (.null, place)
  | .bool b => .ok (.bool b, place)
  | .int n => (Decimal.ofInteger n).map fun x => (.number ⟨x, none⟩, place)
  | .float x => .ok (if x.isNaN then (.number ⟨x, some (.given place)⟩, place + 1) else (.number ⟨x, none⟩, place))
  | .str s => .ok (.string s, place)
  | .arr items => (ofJsonListAt items place).map fun (vs, place) => (.list vs, place)
  | .obj fields => (ofJsonFieldsAt fields place).map fun (fs, place) => (.record fs, place)

def ofJsonListAt (js : List Json) (place : Nat) : Except Decimal.IntegerTooLarge (List Value × Nat) :=
  match js with
  | [] => .ok ([], place)
  | j :: rest => do
    let (v, place) ← ofJsonAt j place
    let (vs, place) ← ofJsonListAt rest place
    return (v :: vs, place)

def ofJsonFieldsAt (fields : List (String × Json)) (place : Nat) :
    Except Decimal.IntegerTooLarge (List (String × Value) × Nat) :=
  match fields with
  | [] => .ok ([], place)
  | (k, j) :: rest => do
    let (v, place) ← ofJsonAt j place
    let (vs, place) ← ofJsonFieldsAt rest place
    return ((k, v) :: vs, place)
end

end Value

end DamagePlan.Script
