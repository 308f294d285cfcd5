import DamagePlan.Decimal.Reading
import DamagePlan.Text.Quoted

/-!
Rejected plans: why a raw plan gives no plan, with the faults of its rows, in the wording that goes back to the
model.
-/
set_option autoImplicit false

namespace DamagePlan

inductive PlanFault where
  | noMainAttribute
  | notAnObject (row : Nat)
  | unknownReaction (row : Nat) (text : String)
  | missingReaction (row : Nat)
  | pruned (count : Nat)

def PlanFault.message : PlanFault → String
  | .noMainAttribute => "mainAttr is empty"
  | .notAnObject row => s!"details[{row}]: not an object"
  | .unknownReaction row text => s!"details[{row}]: unknown reaction {Text.quoted text}"
  | .missingReaction row => s!"details[{row}]: reaction detail without a valid reaction id"
  | .pruned count => s!"all {count} details were pruned as unsupported by the input"

inductive RejectionReason where
  | planNotAnObject
  | noDetails
  | noMainAttribute
  | tableNotAllowed

def RejectionReason.message : RejectionReason → String
  | .planNotAnObject => "plan must be a JSON object"
  | .noDetails => "no valid details"
  | .noMainAttribute => "mainAttr is empty"
  | .tableNotAllowed => "detail references a table outside the allowed list"

structure Rejection where
  reason : RejectionReason
  faults : List PlanFault := []
  tables : List (String × String) := []

namespace Rejection

def compose (reason : String) (faults : List String) (tables : List (String × String)) : String :=
  let listed := ", ".intercalate ((tables.take 8).map fun (talent, table) => talent ++ ":" ++ Text.quoted table)
  " | ".intercalate ([reason]
    ++ (if tables.isEmpty then [] else ["rejected tables (not in allowed list): " ++ listed])
    ++ (if faults.isEmpty then [] else ["; ".intercalate (faults.take 6)]))

def faultMessages (r : Rejection) : List String := r.faults.map (·.message)

def message (r : Rejection) : String := compose r.reason.message r.faultMessages r.tables

end Rejection

inductive PlanError where
  | rejected (r : Rejection)
  | integerTooLarge (e : Decimal.IntegerTooLarge)
  | unreadable (e : Decimal.IntegerTooLong)

def PlanError.message : PlanError → String
  | .rejected r => r.message
  | .integerTooLarge e => e.message
  | .unreadable e => e.message

def PlanError.ofFault : Decimal.IntegerFault → PlanError
  | .tooLarge e => .integerTooLarge e
  | .tooLong e => .unreadable e

end DamagePlan
