import DamagePlan.Model.Reply
import DamagePlan.Refine.Basic
import DamagePlan.Render.Script
import DamagePlan.Script.Gate

/-!
Answers of a model as scripts: an answer is accepted if its plan is valid and the script of that passes the gate.
-/
set_option autoImplicit false

namespace DamagePlan

inductive AnswerError where
  | reply (e : Reply.ReplyError)
  | plan (e : PlanError)
  | render (e : Render.RenderError)
  | gate (e : Script.GateError)

namespace AnswerError

def message : AnswerError → String
  | .reply e => e.message
  | .plan e => e.message
  | .render e => e.message
  | .gate e => e.message

def surprise? : AnswerError → Option String
  | .plan (.integerTooLarge _) | .render (.integerTooLarge _) => some "OverflowError"
  | .plan (.unreadable _) | .reply (.integerTooLong _) => some "ValueError"
  | .gate e => e.surprise?
  | _ => none

def isExpected (e : AnswerError) : Bool := e.surprise?.isNone

end AnswerError

def scriptOfAnswer (stack : Script.Stack) (kit : Kit) (tag answer : String) : Except AnswerError String := do
  let raw ← (Reply.objectOf answer).mapError .reply
  let plan ← (Refinement.validate kit (.obj raw)).mapError .plan
  let script ← (Render.render kit plan tag).mapError .render
  let _ ← (Script.Gate.validate stack script).mapError .gate
  return script

end DamagePlan
