import DamagePlan.Kit.Game
import DamagePlan.Script.Value

/-!
Evaluation of expressions. An engine answers the damage functions and keeps a log of the calls, which
survives a failure.
-/
set_option autoImplicit false

namespace DamagePlan.Script

abbrev CallLog := List (List Value)

structure Trace where
  calls : CallLog := []
  marks : Nat := 0

abbrev Evaluation (α : Type) := ExceptT Failure (StateM Trace) α

namespace Evaluation

def lift {α : Type} : Except Failure α → Evaluation α
  | .ok a => pure a
  | .error e => throw e

def log (entry : List Value) : Evaluation Unit := modify fun t => { t with calls := t.calls ++ [entry] }

def mark (x : Numeral) : Evaluation Numeral := do
  if x.isUnmarked then
    let t ← get
    set { t with marks := t.marks + 1 }
    return { x with mark := some (.made t.marks) }
  else return x

def number (x : Except Failure Numeral) : Evaluation Value := do
  let x ← lift x
  return .number (← mark x)

def run {α : Type} (m : Evaluation α) (before : Trace := {}) : Except Failure α × Trace :=
  (ExceptT.run m).run before

end Evaluation

structure Engine where
  answer : Helper → List Value → Evaluation Value

inductive EngineKind where
  | zero
  | recording
deriving DecidableEq, Repr

def toInteger (x : Float) : Except Failure Int :=
  match Decimal.Binary.ofFloat x with
  | .nan => .error .notANumberInteger
  | .infinite _ => .error .infiniteInteger
  | .finite .. => .ok ((Decimal.truncate? x).getD 0)

namespace Helper

def arity : Helper → Nat × Option Nat
  | .num => (0, some 1)
  | .pick => (1, some 2)
  | .sum | .isList | .toRatio | .calc => (1, some 1)
  | .min | .max => (0, none)
  | .round => (1, some 2)
  | .dmg | .dmgBasic => (0, some 3)
  | .heal | .shield | .reaction => (0, some 1)

def accepts (arity : Nat × Option Nat) (count : Nat) : Bool := arity.1 ≤ count && arity.2.all (count ≤ ·)

def finiteNumber : Value → Float
  | .list _ | .record _ => 0
  | v =>
    match v.toNumber with
    | .ok x => if Decimal.isFinite x.value then x.value else 0
    | .error _ => 0

def pickFrom (v position : Value) : Except Failure Value :=
  match v with
  | .list items => do
    let i ← toInteger (← position.toNumber).value
    if 0 ≤ i then return (items[i.toNat]?).getD .null else return .null
  | v => .ok v

def sumOf : Value → Value
  | .list [] => .emptySum
  | .list items => .number ⟨items.foldl (fun total v => total + finiteNumber v) 0, none⟩
  | v => .number ⟨finiteNumber v, none⟩

def numbersOf : List Value → Except Failure (List Numeral)
  | [] => .ok []
  | v :: vs => do
    let x ← v.toNumber
    let xs ← numbersOf vs
    return x :: xs

def best (better : Float → Float → Bool) : Numeral → List Numeral → Numeral
  | x, [] => x
  | x, y :: ys => best better (if better y.value x.value then y else x) ys

def bestOf (h : Helper) (better : Float → Float → Bool) (args : List Value) : Except Failure Numeral := do
  match ← numbersOf args with
  | [] => .error (.noArguments h)
  | x :: xs => return best better x xs

def roundTo (v digits : Value) : Except Failure Numeral := do
  let x ← v.toNumber
  let places ← toInteger (← digits.toNumber).value
  match Decimal.roundPlaces? x.value places with
  | some y => return ⟨y, none⟩
  | none => .error .roundedOutOfRange

def total : Value → Except Failure Numeral
  | .record fields => do
    let base ← (Value.field fields "base").toNumber
    let plus ← (Value.field fields "plus").toNumber
    let pct ← (Value.field fields "pct").toNumber
    return ⟨base.value * (1 + pct.value / 100) + plus.value, none⟩
  | v => v.toNumber

def ratio (game : Game) (v : Value) : Except Failure Numeral := do
  let head : Value := match v with
    | .list [] => .number .zero
    | .list (first :: _) => first
    | v => v
  let x ← head.toNumber
  match game with
  | .gs => return ⟨x.value / 100, none⟩
  | .sr => return x

def damageRecord (x : Numeral) : Value := .record [("dmg", .number x), ("avg", .number x)]

def argument (args : List Value) (i : Nat) : Value := (args[i]?).getD .null

def engage (kind : EngineKind) (h : Helper) (args : List Value) : Evaluation Value := do
  match h, kind with
  | .reaction, .zero => return damageRecord .zero
  | .reaction, .recording =>
    Evaluation.log [.string h.name, argument args 0]
    return damageRecord .zero
  | _, .zero =>
    let _ ← Evaluation.lift (argument args 0).toNumber
    return damageRecord .zero
  | h, .recording =>
    let x ← Evaluation.mark (← Evaluation.lift (argument args 0).toNumber)
    let further := if h = .heal || h = .shield then [] else [argument args 1, argument args 2]
    Evaluation.log (.string h.name :: .number x :: further)
    return damageRecord x

def isEngaged : Helper → Bool
  | .dmg | .dmgBasic | .heal | .shield | .reaction | .calc | .toRatio => true
  | _ => false

def apply (engine : Engine) (h : Helper) (args : List Value) : Evaluation Value :=
  if !h.isEngaged && !accepts h.arity args.length then throw (.badArity h) else
  match h with
  | .num => return .number ⟨finiteNumber (argument args 0), none⟩
  | .pick => Evaluation.lift (pickFrom (argument args 0) ((args[1]?).getD (.number .zero)))
  | .sum => return sumOf (argument args 0)
  | .isList => match argument args 0 with
    | .list _ => return .bool true
    | _ => return .bool false
  | .min => Evaluation.number (bestOf h (· < ·) args)
  | .max => Evaluation.number (bestOf h (fun y x => x < y) args)
  | .round => Evaluation.number (roundTo (argument args 0) ((args[1]?).getD (.number .zero)))
  | .dmg | .dmgBasic | .heal | .shield | .reaction | .calc | .toRatio => engine.answer h args

end Helper

def EngineKind.arity (kind : EngineKind) (h : Helper) : Nat × Option Nat :=
  match kind, h with
  | .zero, .calc => (0, some 1)
  | _, h => h.arity

def Engine.ofKind (kind : EngineKind) (game : Game) : Engine where
  answer h args :=
    if !Helper.accepts (kind.arity h) args.length then throw (.badArity h) else
    match h with
    | .calc => Evaluation.number (Helper.total (Helper.argument args 0))
    | .toRatio => Evaluation.number (Helper.ratio game (Helper.argument args 0))
    | h => h.engage kind args

namespace StandIn

def member (s : StandIn) : StandIn := if s.isTable then { s with origin := none } else s

def zero (truthy : Bool) (origin : Option String) : StandIn := ⟨false, truthy, false, origin⟩

def index (s : StandIn) (key : Value) : Value :=
  if s.isTable then
    let element := Value.standIn (zero s.truthy none)
    match s.arrayTables, key with
    | true, .string _ => .list [element, element]
    | _, _ => element
  else .standIn s

end StandIn

def memberOf (obj : Value) (name : String) : Except Failure Value :=
  match obj with
  | .standIn s => .ok (.standIn s.member)
  | .record fields => .ok (Value.field fields name)
  | .helper h => if h = .dmg && name == "basic" then .ok (.helper .dmgBasic) else .error (.noHelperMember h name)
  | .list items =>
    if name == "length" then .ok (.number ⟨Float.ofNat items.length, none⟩) else .error (.noMember name obj.describe)
  | .string s =>
    if name == "length" then .ok (.number ⟨Float.ofNat s.length, none⟩) else .error (.noMember name obj.describe)
  | _ => .error (.noMember name obj.describe)

def position? (x : Float) : Option Nat :=
  match Decimal.integral? x with
  | some (.ofNat n) => some n
  | _ => none

def indexOf (obj key : Value) : Except Failure Value :=
  match obj with
  | .standIn s => .ok (s.index key)
  | .record fields => match key with
    | .string name => .ok (Value.field fields name)
    | _ => .error (.indexNotText key.describe)
  | .list items => do
    match position? (← key.toNumber).value with
    | some i => return (items[i]?).getD .null
    | none => return .null
  | .string s => do
    match position? (← key.toNumber).value with
    | some i => return ((s.toList[i]?).map fun c => Value.string (String.singleton c)).getD .null
    | none => return .null
  | _ => .error (.notIndexable obj.describe)

def isString : Value → Bool
  | .string _ => true
  | _ => false

def compareWith (texts : String → String → Bool) (numbers : Float → Float → Bool) (left right : Value) :
    Except Failure Value :=
  match left, right with
  | .string s, .string t => .ok (.bool (texts s t))
  | _, _ => do
    let x ← left.toNumber
    let y ← right.toNumber
    return .bool (numbers x.value y.value)

def arithmetic (f : Float → Float → Except Failure Float) (left right : Value) : Except Failure Value := do
  let x ← left.toNumber
  let y ← right.toNumber
  return .number ⟨← f x.value y.value, none⟩

/-- Division by zero yields zero, and so does its remainder. -/
def divide (x y : Float) : Float := if y == 0 then 0 else x / y

def remainder (x y : Float) : Except Failure Float :=
  if y == 0 then .ok 0 else
  match Decimal.remainder? x y with
  | some r => .ok r
  | none => .error .infiniteDividend

def applyBinary (op : BinaryOp) (left right : Value) : Except Failure Value :=
  match op with
  | .equal => .ok (.bool (left.equals right))
  | .notEqual => .ok (.bool (!left.equals right))
  | .less => compareWith (· < ·) (· < ·) left right
  | .lessEqual => compareWith (· ≤ ·) (· ≤ ·) left right
  | .greater => compareWith (fun s t => t < s) (fun x y => y < x) left right
  | .greaterEqual => compareWith (fun s t => t ≤ s) (fun x y => y ≤ x) left right
  | .add =>
    if isString left || isString right then do
      let s ← left.toText
      let t ← right.toText
      return .string (s ++ t)
    else arithmetic (fun x y => .ok (x + y)) left right
  | .subtract => arithmetic (fun x y => .ok (x - y)) left right
  | .multiply => arithmetic (fun x y => .ok (x * y)) left right
  | .divide => arithmetic (fun x y => .ok (divide x y)) left right
  | .remainder => arithmetic remainder left right
  | .and => .ok (if left.isTruthy then right else left)
  | .or => .ok (if left.isTruthy then left else right)

def applyUnary (op : UnaryOp) (v : Value) : Except Failure Value :=
  match op with
  | .not => .ok (.bool (!v.isTruthy))
  | .negate => v.toNumber.map fun x => .number ⟨-x.value, none⟩
  | .plus => v.toNumber.map .number

def settle (v : Except Failure Value) : Evaluation Value := do
  match ← Evaluation.lift v with
  | .number x => return .number (← Evaluation.mark x)
  | v => return v

mutual
def evaluate (engine : Engine) (scope : Scope) : Expr → Evaluation Value
  | .number x => return .number ⟨x, none⟩
  | .string s => return .string s
  | .bool b => return .bool b
  | .null => return .null
  | .name id =>
    match scope.lookup id with
    | some v => return v
    | none => throw (.undefinedName id)
  | .member obj name => do
    let v ← evaluate engine scope obj
    Evaluation.lift (memberOf v name)
  | .index obj key => do
    let v ← evaluate engine scope obj
    let k ← evaluate engine scope key
    Evaluation.lift (indexOf v k)
  | .call func args => do
    let f ← evaluate engine scope func
    let vs ← evaluateList engine scope args
    match f with
    | .helper h => h.apply engine vs
    | .standIn s => return .standIn s
    | v => throw (.notCallable v.describe)
  | .unary op operand => do
    let v ← evaluate engine scope operand
    settle (applyUnary op v)
  | .binary op left right => do
    let v ← evaluate engine scope left
    match op with
    | .and => if v.isTruthy then evaluate engine scope right else return v
    | .or => if v.isTruthy then return v else evaluate engine scope right
    | _ =>
      let w ← evaluate engine scope right
      settle (applyBinary op v w)
  | .conditional test consequent alternative => do
    let v ← evaluate engine scope test
    if v.isTruthy then evaluate engine scope consequent else evaluate engine scope alternative
  | .list items => do
    let vs ← evaluateList engine scope items
    return .list vs
  | .record entries => do
    let fields ← evaluateEntries engine scope entries
    return .record fields
  | .deferred body => return .closure body scope
  | .verbatim _ => throw .verbatimText

def evaluateList (engine : Engine) (scope : Scope) : List Expr → Evaluation (List Value)
  | [] => return []
  | e :: es => do
    let v ← evaluate engine scope e
    let vs ← evaluateList engine scope es
    return v :: vs

def evaluateEntries (engine : Engine) (scope : Scope) : List (String × Expr) → Evaluation (List (String × Value))
  | [] => return []
  | (k, e) :: rest => do
    let v ← evaluate engine scope e
    let vs ← evaluateEntries engine scope rest
    return (k, v) :: vs
end

def invoke (engine : Engine) (bindings : Scope) (body : Expr) (captured : Scope) : Evaluation Value :=
  evaluate engine (Scope.overlay captured bindings) body

end DamagePlan.Script
