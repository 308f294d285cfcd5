import DamagePlan.Compile.Answer
import DamagePlan.Model.Prompt
import DamagePlan.Model.Request
import DamagePlan.Planning.Heuristic

/-!
Compiling a kit into a script: attempts with a model, each told why the last one failed, and the heuristic planner
when there is no model or no attempt succeeds.
-/
set_option autoImplicit false

namespace DamagePlan.Compile

open Render (Provenance)

structure Outcome where
  script : String
  usedModel : Bool
  error : Option String
  provenance : Provenance
  attempts : Nat

inductive CompileError where
  | integerTooLarge (e : Decimal.IntegerTooLarge)
  | unreadable (e : Decimal.IntegerTooLong)
  | uncaught (e : Script.Failure)
  | overrun (report : String)

def CompileError.message : CompileError → String
  | .integerTooLarge e => e.message
  | .unreadable e => e.message
  | .uncaught e => e.message
  | .overrun report => report

def emptyPlanMessage : String := "heuristic planner found no damage table"

def emptyPlan : Plan := { mainAttrs := ",".intercalate Heuristic.mainAttrs }

def refineOrKeep (kit : Kit) (plan : Plan) : Except CompileError (Plan × Option String) :=
  match Refinement.refine kit plan with
  | .ok refined => .ok (refined, none)
  | .error (.rejected r) => .ok (plan, some r.message)
  | .error (.integerTooLarge e) => .error (.integerTooLarge e)
  | .error (.unreadable e) => .error (.unreadable e)

/-- The script of the empty plan. It holds no number that could keep it from being rendered. -/
def emptyScript (kit : Kit) (tag : String) : String := (Render.render kit emptyPlan tag).toOption.getD ""

def renderOrEmpty (kit : Kit) (plan : Plan) (tag : String) : Except CompileError (String × Option String) :=
  match Render.render kit plan tag with
  | .ok script => .ok (script, none)
  | .error (.integerTooLarge e) => .error (.integerTooLarge e)
  | .error e => .ok (emptyScript kit tag, some e.message)

def gateMessage? (stack : Script.Stack) (script : String) : Except CompileError (Option String) :=
  match Script.Gate.validate stack script with
  | .ok _ => .ok none
  | .error (.uncaught e) => .error (.uncaught e)
  | .error (.overrun report) => .error (.overrun report)
  | .error e => .ok (some s!"heuristic script failed sandbox: {e.message}")

def heuristic (stack : Script.Stack) (kit : Kit) (tag : String) : Except CompileError Outcome := do
  let provenance := Provenance.ofHeuristic tag
  let plan ← (Heuristic.plan kit).mapError .unreadable
  let noRows := if plan.details.isEmpty then some emptyPlanMessage else none
  let (refined, rejection) ← refineOrKeep kit plan
  let (script, unrendered) ← renderOrEmpty kit refined provenance.tag
  let refusal ← gateMessage? stack script
  return { script, usedModel := false, error := refusal.or (unrendered.or (rejection.or noRows)), provenance, attempts := 0 }

inductive AttemptFailure where
  | unsent (e : Prompt.PromptError)
  | request (e : RequestFailure AnswerError)

def failureText : AttemptFailure → String
  | .unsent e => s!"model request failed: ValueError: {e.message}"
  | .request (.transport e) => s!"model request failed: {e.kind}: {e.message}"
  | .request (.refused e) =>
    match e.surprise? with
    | some label => s!"model request failed: {label}: {e.message}"
    | none => e.message

variable {σ : Type}

def requestSettings? (settings : ModelSettings) (options : CacheOptions) : Option RequestSettings :=
  let temperature := Json.float settings.temperature
  let maxTokens := (settings.maxTokens.map Json.int).getD .null
  if writable : (Json.arr [temperature, maxTokens]).holdsTooLong = false then
    some { options, temperature, maxTokens, writable }
  else none

def attempt (stack : Script.Stack) (settings? : Option RequestSettings) (client : Client σ) (kit : Kit) (tag : String)
    (a : Attempt) (s : Session σ) : Except AttemptFailure String × Session σ :=
  match Prompt.messages kit a, settings? with
  | .error e, _ => (.error (.unsent e), s)
  | .ok _, none => (.error (.unsent .unwritable), s)
  | .ok messages, some settings =>
    let (result, s) := s.request settings client AnswerError.isExpected (scriptOfAnswer stack kit tag) messages
    (result.mapError .request, s)

/-- Attempts until one succeeds or `left` have failed: the script with the number of its attempt, or the last
failure. -/
def attempts (stack : Script.Stack) (settings? : Option RequestSettings) (client : Client σ) (kit : Kit) (tag : String) :
    (left : Nat) → Attempt → Session σ → Except String (String × Nat) × Session σ
  | 0, a, s => (.error (a.lastError.getD ""), s)
  | left + 1, a, s =>
    match attempt stack settings? client kit tag a s with
    | (.ok script, s) => (.ok (script, a.number), s)
    | (.error e, s) => attempts stack settings? client kit tag left (a.next (failureText e)) s

def exhaustedMessage (error : String) : String :=
  s!"all model attempts exhausted, heuristic fallback used, last failure = {error}"

def afterFailure (lastError : String) (maxAttempts : Nat) (fallback : Outcome) : Outcome :=
  let error := match fallback.error with
    | some e => if e.isEmpty then exhaustedMessage lastError else s!"{exhaustedMessage lastError}; heuristic: {e}"
    | none => exhaustedMessage lastError
  { fallback with error := some error, attempts := maxAttempts }

def accepted (tag script : String) (number : Nat) : Outcome where
  script := script
  usedModel := true
  error := none
  provenance := (Provenance.ofTag? tag).getD .modelAssisted
  attempts := number

def withModel (stack : Script.Stack) (settings : ModelSettings) (options : CacheOptions) (client : Client σ) (kit : Kit)
    (tag : String) (s : Session σ) : Except CompileError Outcome × Session σ :=
  match attempts stack (requestSettings? settings options) client kit tag settings.maxAttempts
      { maxAttempts := settings.maxAttempts } s with
  | (.ok (script, number), s) => (.ok (accepted tag script number), s)
  | (.error lastError, s) => ((heuristic stack kit tag).map (afterFailure lastError settings.maxAttempts), s)

end DamagePlan.Compile
