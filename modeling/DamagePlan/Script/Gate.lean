import DamagePlan.Script.Bounds

/-!
The gate every script has to pass: a static pass over its exports and literal values, and a runtime pass
that invokes every entry point with stand-ins.
-/
set_option autoImplicit false

namespace DamagePlan.Script.Gate

def staticCheck (stack : Stack) (text : String) : Except GateError LoadedScript := do
  let loaded ← load stack text
  (Bounds.check loaded.game 0 (loaded.buffs.map fun b => (b.title, b.data))).mapError .static
  return loaded

def contexts (game : Game) : List Context :=
  [false, true].flatMap fun truthy =>
    [false, true].flatMap fun arrayTables =>
      [0, 6].map fun cons => Context.zero game truthy arrayTables ⟨cons, none⟩

def invokeAt (stack : Stack) (context : Context) (place : String) (entry : Expr × Scope) : Except GateError Value :=
  match stack.overrun? (Scope.overlay entry.2 context.bindings) entry.1 with
  | some report => .error (.runtime place s!"RecursionError: {report}")
  | none =>
  match (context.invoke entry.1 entry.2).1 with
  | .ok v => .ok v
  | .error e =>
    match e.failureClass with
    | .evaluation => .error (.runtime place e.message)
    | .overflow => .error (.runtime place s!"{e.failureClass.label}: {e.message}")
    | .undefined => .error (.uncaught e)

def isFiniteNumber : Value → Bool
  | .number x => Decimal.isFinite x.value
  | _ => false

def checkNumber (place : String) (v : Value) : Except GateError Unit :=
  match v with
  | .null | .bool _ => .ok ()
  | v => if isFiniteNumber v then .ok () else .error (.runtime place s!"expected a number, got {v.describe}")

def checkResult (place : String) (v : Value) : Except GateError Unit :=
  match v with
  | .record fields =>
    if !isFiniteNumber (Value.field fields "dmg") then
      .error (.runtime place "damage result has no finite dmg value")
    else match Value.field fields "avg" with
      | .null => .ok ()
      | avg =>
        if isFiniteNumber avg then .ok () else .error (.runtime place "damage result avg is not finite")
  | v => .error (.runtime place s!"expected a damage result record, got {v.describe}")

def runDetail (stack : Stack) (context : Context) (i : Nat) (d : LoadedDetail) : Except GateError Nat := do
  let place := s!"details[{i}] ({d.title})"
  let checks ← match d.check with
    | some entry => (invokeAt stack context s!"{place} check" entry).map fun _ => 1
    | none => .ok 0
  let result ← invokeAt stack context s!"{place} dmg" d.damage
  checkResult place result
  return checks + 1

def runData (stack : Stack) (context : Context) (place : String) : List (String × Value) → Except GateError Nat
  | [] => .ok 0
  | (key, v) :: rest => do
    let at_ := s!"{place} data.{key}"
    match v with
    | .closure body scope =>
      checkNumber at_ (← invokeAt stack context at_ (body, scope))
      return (← runData stack context place rest) + 1
    | v =>
      checkNumber at_ v
      runData stack context place rest

def runBuff (stack : Stack) (context : Context) (i : Nat) (b : LoadedBuff) : Except GateError Nat := do
  let place := s!"buffs[{i}] ({b.title})"
  let checks ← match closureOf? (Value.field b.fields "check") with
    | some entry => (invokeAt stack context s!"{place} check" entry).map fun _ => 1
    | none => .ok 0
  return checks + (← runData stack context place b.data)

def runEach {α : Type} (run : Nat → α → Except GateError Nat) : (i : Nat) → List α → Except GateError Nat
  | _, [] => .ok 0
  | i, a :: rest => do
    let count ← run i a
    let more ← runEach run (i + 1) rest
    return count + more

def runContext (stack : Stack) (loaded : LoadedScript) (context : Context) : Except GateError Nat := do
  let context := { context with marks := loaded.marks }
  let details ← runEach (runDetail stack context) 0 loaded.details
  let buffs ← runEach (runBuff stack context) 0 loaded.buffs
  return details + buffs

def runtimeCheck (stack : Stack) (text : String) : Except GateError Nat := do
  let loaded ← load stack text
  runEach (fun _ context => runContext stack loaded context) 0 (contexts loaded.game)

def validate (stack : Stack) (text : String) : Except GateError Unit := do
  let _ ← staticCheck stack text
  let _ ← runtimeCheck stack text
  return ()

end DamagePlan.Script.Gate
