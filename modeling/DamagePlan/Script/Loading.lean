import DamagePlan.Script.Context
import DamagePlan.Script.Outline
import DamagePlan.Script.Stack

/-!
Loading a script: its module scope is evaluated without any bindings, and its exports have to keep a
contract.
-/
set_option autoImplicit false

namespace DamagePlan.Script

open Text

inductive StaticFault where
  | badSyntax (e : SyntaxError)
  | assignedTwice (name : String)
  | moduleScope (name : String) (e : Failure)
  | missingExports (names : List String)
  | unknownGame (shown : String)
  | detailsNotRecords
  | buffsNotRecords
  | exportNotText (name described : String)
  | indexNotInteger (described : String)
  | indexOutOfRange (index : Int) (count : Nat)
  | detailUntitled (i : Nat)
  | damageNotDeferred (i : Nat) (title : String)
  | checkNotDeferred (i : Nat)
  | buffUntitled (i : Nat)
  | buffDataNotRecord (i : Nat)
  | outOfBounds (place reason : String)

def StaticFault.message : StaticFault → String
  | .badSyntax e => s!"syntax error: {e.message}"
  | .assignedTwice name => s!"export {quoted name} assigned twice"
  | .moduleScope name e => s!"module scope, {name}: {e.message}"
  | .missingExports names => "missing exports: " ++ ", ".intercalate names
  | .unknownGame shown => s!"game export must be one of gs|sr, got {shown}"
  | .detailsNotRecords => "details must be a list of records"
  | .buffsNotRecords => "buffs must be a list of records"
  | .exportNotText name described => s!"{name} must be a string, got {described}"
  | .indexNotInteger described => s!"defDmgIdx must be an integer, got {described}"
  | .indexOutOfRange index count =>
    s!"defDmgIdx {Decimal.integerText index} out of range for {count} details"
  | .detailUntitled i => s!"details[{i}] has no title"
  | .damageNotDeferred i title => s!"details[{i}] ({title}) dmg must be a deferred expression"
  | .checkNotDeferred i => s!"details[{i}] check must be a deferred expression"
  | .buffUntitled i => s!"buffs[{i}] has no title"
  | .buffDataNotRecord i => s!"buffs[{i}] data must be a record"
  | .outOfBounds place reason => s!"{place}: {reason}"

inductive GateError where
  | static (fault : StaticFault)
  | runtime (place reason : String)
  | uncaught (e : Failure)
  | overrun (report : String)

def GateError.message : GateError → String
  | .static fault => fault.message
  | .runtime place reason => s!"{place}: {reason}"
  | .uncaught e => e.message
  | .overrun report => report

def GateError.surprise? : GateError → Option String
  | .uncaught e => some e.failureClass.label
  | .overrun _ => some "RecursionError"
  | _ => none

structure LoadedDetail where
  title : String
  check : Option (Expr × Scope)
  damage : Expr × Scope
  fields : List (String × Value)

structure LoadedBuff where
  title : String
  data : List (String × Value)
  fields : List (String × Value)

structure LoadedScript where
  game : Game
  details : List LoadedDetail
  buffs : List LoadedBuff
  defaultIndex : Int
  defaultKey : String
  mainAttr : String
  createdBy : String
  exports : Scope
  marks : Nat

def requiredExports : List String := ["details", "defDmgIdx", "defDmgKey", "mainAttr", "buffs", "createdBy", "game"]

/-- Evaluates assignments in order; each sees the earlier ones. A failure of evaluation is the script's
fault, any other failure is not caught. -/
def evaluateAssignments (stack : Stack) (scope : Scope) (marks : Nat) :
    List Assignment → Except GateError (Scope × Nat)
  | [] => .ok (scope, marks)
  | a :: rest =>
    if scope.any (·.1 == a.name) then .error (.static (.assignedTwice a.name)) else
    match stack.overrun? scope a.value with
    | some report => .error (.overrun report)
    | none =>
    match (evaluate Context.empty.engine scope a.value).run { marks } with
    | (.ok v, trace) => evaluateAssignments stack (scope ++ [(a.name, v)]) trace.marks rest
    | (.error e, _) =>
      match e.failureClass with
      | .evaluation => .error (.static (.moduleScope a.name e))
      | _ => .error (.uncaught e)

def recordOf? : Value → Option (List (String × Value))
  | .record fields => some fields
  | _ => none

def recordsOf? : Value → Option (List (List (String × Value)))
  | .list items => items.mapM recordOf?
  | _ => none

def titleOf? (fields : List (String × Value)) : Option String :=
  match Value.field fields "title" with
  | .string s => if s.isEmpty then none else some s
  | _ => none

def closureOf? : Value → Option (Expr × Scope)
  | .closure body scope => some (body, scope)
  | _ => none

def loadDetail (i : Nat) (fields : List (String × Value)) : Except StaticFault LoadedDetail := do
  let some title := titleOf? fields | .error (.detailUntitled i)
  let some damage := closureOf? (Value.field fields "dmg") | .error (.damageNotDeferred i title)
  match Value.field fields "check" with
  | .null => return ⟨title, none, damage, fields⟩
  | .closure body scope => return ⟨title, some (body, scope), damage, fields⟩
  | _ => .error (.checkNotDeferred i)

def loadBuff (i : Nat) (fields : List (String × Value)) : Except StaticFault LoadedBuff := do
  let some title := titleOf? fields | .error (.buffUntitled i)
  match fields.lookup "data" with
  | none => return ⟨title, [], fields⟩
  | some (.record data) => return ⟨title, data, fields⟩
  | some _ => .error (.buffDataNotRecord i)

def loadEach {α β : Type} (load : Nat → α → Except StaticFault β) : (i : Nat) → List α →
    Except StaticFault (List β)
  | _, [] => .ok []
  | i, a :: rest => do
    let b ← load i a
    let bs ← loadEach load (i + 1) rest
    return b :: bs

def textExport (scope : Scope) (name : String) : Except StaticFault String :=
  match Value.field scope name with
  | .string s => .ok s
  | v => .error (.exportNotText name v.describe)

def indexExport (v : Value) (count : Nat) : Except StaticFault Int :=
  match v with
  | .number x =>
    match Decimal.integral? x.value with
    | some i =>
      if count != 0 && !(0 ≤ i && i < count) then .error (.indexOutOfRange i count) else .ok i
    | none => .error (.indexNotInteger v.describe)
  | _ => .error (.indexNotInteger v.describe)

def loadExports (scope : Scope) (marks : Nat) : Except StaticFault LoadedScript := do
  let missing := requiredExports.filter fun name => !scope.any (·.1 == name)
  if !missing.isEmpty then .error (.missingExports missing)
  let gameValue := Value.field scope "game"
  let game ← match gameValue with
    | .string code => match Game.ofCode? code with
      | some game => .ok game
      | none => .error (.unknownGame (Outline.value gameValue))
    | v => .error (.unknownGame (Outline.value v))
  let some details := recordsOf? (Value.field scope "details") | .error .detailsNotRecords
  let some buffs := recordsOf? (Value.field scope "buffs") | .error .buffsNotRecords
  let defaultKey ← textExport scope "defDmgKey"
  let mainAttr ← textExport scope "mainAttr"
  let createdBy ← textExport scope "createdBy"
  let defaultIndex ← indexExport (Value.field scope "defDmgIdx") details.length
  let details ← loadEach loadDetail 0 details
  let buffs ← loadEach loadBuff 0 buffs
  return { game, details, buffs, defaultIndex, defaultKey, mainAttr, createdBy, exports := scope, marks }

def refusal (stack : Stack) (game : Value) : StaticFault → GateError
  | .unknownGame shown =>
    match stack.lookUpOverrun? game with
    | some report => .overrun report
    | none => .static (.unknownGame shown)
  | fault => .static fault

def load (stack : Stack) (text : String) : Except GateError LoadedScript :=
  match parseScript text with
  | .error e => .error (.static (.badSyntax e))
  | .ok script =>
    match evaluateAssignments stack [] 0 script.assignments with
    | .error e => .error e
    | .ok (scope, marks) => (loadExports scope marks).mapError (refusal stack (Value.field scope "game"))

end DamagePlan.Script
