import DamagePlan.Refine.BuffFilter
import DamagePlan.Refine.Enrichment
import DamagePlan.Refine.Reading

/-!
Refinement: a plan enriched, pruned and filtered, and the validation of a raw plan as reading and refinement.
-/
set_option autoImplicit false

namespace DamagePlan.Refinement

def strayDetail? (kit : Kit) (plan : Plan) : Option Detail :=
  plan.details.find? fun d => d.kind != .reaction && !kit.hasTable d.talent d.table

def shown (s : Option String) : String := (s.filter (!·.isEmpty)).getD "?"

def refine (kit : Kit) (plan : Plan) (policy : EvictionPolicy := .default) : Except PlanError Plan := do
  match strayDetail? kit plan with
  | some d => .error (.rejected { reason := .tableNotAllowed, tables := [(shown d.talent, shown d.table)] })
  | none =>
    let enriched ← (Enrichment.enrich kit (plan.details.take Plan.maxDetails) policy).mapError .ofFault
    let details := Evidence.prune kit Evidence.maxSpecialRows enriched
    let buffs ← (BuffFilter.filter kit (plan.buffs.take Plan.maxBuffs)).mapError .unreadable
    return {
      mainAttrs := plan.mainAttrs
      defaultDamageKey := plan.defaultDamageKey.filter fun key => details.any (·.damageKey == key)
      details
      buffs }

def validate (kit : Kit) (raw : Json) (policy : EvictionPolicy := .default) : Except PlanError Plan := do
  let plan ← RawPlan.read kit raw
  let refined ← refine kit plan policy
  if refined.details.isEmpty then
    .error (.rejected { reason := .noDetails, faults := [.pruned plan.details.length] })
  else return refined

end DamagePlan.Refinement
