import Mathlib.Data.List.Forall2
import DamagePlan.Script.Gate

/-!
Scripts that are given line by line. Their characters are those of the lines, so that what is computed of a script need not
take the whole text apart.
-/
set_option autoImplicit false

namespace DamagePlan.Script

theorem joined_chars (lines : List String) (css : List (List Char))
    (each : List.Forall₂ (fun line cs => line = String.ofList cs) lines css) : (String.join lines).toList = css.flatten := by
  induction each with
  | nil => rfl
  | cons first _ ih => rw [String.join_cons, String.toList_append, first, String.toList_ofList, ih, List.flatten_cons]

def parseChars (cs : List Char) : Except SyntaxError Program := do
  let tokens ← tokenizeList cs
  let (assignments, _) ← Parser.assignments tokens.length [] (Parser.skipNewlines tokens)
  return { assignments }

def loadChars (stack : Stack) (cs : List Char) : Except GateError LoadedScript :=
  match parseChars cs with
  | .error e => .error (.static (.badSyntax e))
  | .ok script =>
    match evaluateAssignments stack [] 0 script.assignments with
    | .error e => .error e
    | .ok (scope, marks) => (loadExports scope marks).mapError (refusal stack (Value.field scope "game"))

def Gate.validateChars (stack : Stack) (cs : List Char) : Except GateError Unit := do
  let loaded ← loadChars stack cs
  (Bounds.check loaded.game 0 (loaded.buffs.map fun b => (b.title, b.data))).mapError .static
  let _ ← runEach (fun _ context => runContext stack loaded context) 0 (contexts loaded.game)
  return ()

theorem load_chars (stack : Stack) (text : String) : load stack text = loadChars stack text.toList := rfl

theorem Gate.validate_chars (stack : Stack) (text : String) : validate stack text = validateChars stack text.toList := by
  rw [validate, staticCheck, runtimeCheck, load_chars, validateChars]
  -- a script that loads for the first pass loads for the second
  cases loadChars stack text.toList with
  | error _ => rfl
  | ok loaded =>
    simp only [bind, Except.bind]
    cases Bounds.check loaded.game 0 (loaded.buffs.map fun b => (b.title, b.data)) <;> rfl

section Lines

variable {lines : List String} {css : List (List Char)} (stack : Stack)
  (each : List.Forall₂ (fun line cs => line = String.ofList cs) lines css)
include each

theorem lines_load : load stack (String.join lines) = loadChars stack css.flatten := by
  rw [load_chars, joined_chars lines css each]

theorem Gate.lines_validate : validate stack (String.join lines) = validateChars stack css.flatten := by
  rw [validate_chars, joined_chars lines css each]

end Lines

end DamagePlan.Script
