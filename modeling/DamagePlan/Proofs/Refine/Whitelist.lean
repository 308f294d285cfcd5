import DamagePlan.Proofs.Planning.Heuristic
import DamagePlan.Proofs.Refine.Validated
import DamagePlan.Proofs.Render.Loaded

/-!
Plans on the whitelist: the rows of every validated plan, and of the refined heuristic plan, are rows of the kit's tables
with accepted texts.
-/
set_option autoImplicit false

namespace DamagePlan

open Script (acceptedExpression?)
open Render (IsAccepted Whitelisted WhitelistedPlan given)

theorem taken_is_accepted (text taken : String) (accepted : acceptedExpression? text = some taken) : IsAccepted taken := by
  have context := Script.taken_is_context_expression text taken accepted
  have trimmed : Text.trim taken = taken := by
    unfold acceptedExpression? at accepted
    dsimp only at accepted
    split at accepted
    · cases accepted
    · split at accepted
      · cases accepted
        exact Text.trim_trimmed text
      · cases accepted
  rwa [IsAccepted, trimmed]

theorem composite_is_accepted (e : Script.Expr) (composite : Formula.Composite e) : IsAccepted e.plainText := by
  have trimmed : Text.trim e.plainText = e.plainText := by
    rw [Text.trim, Script.Expr.plainText, String.toList_ofList, Script.crisp_trimmed _ composite.crisp]
  rw [IsAccepted, trimmed]
  exact composite.taken

theorem given_among (text? : Option String) : ∀ text ∈ given text?, text ∈ text? := fun _ own =>
  (Option.filter_eq_some_iff.mp own).1

theorem RawPlan.read_row_whitelisted (kit : Kit) (d : Detail) (read : IsReadRow kit d) : Whitelisted kit d := by
  have sound := read_row_sound kit d read
  have cons := read_row_cons kit d read
  obtain ⟨fields, own⟩ := read
  have taken := read_row_taken kit _ d own
  exact
    { titled := sound.titled
      listed := sound.listed
      pick := sound.pick
      cons
      check := fun text there => taken_is_accepted _ text (taken.check ▸ given_among _ text there)
      raw := fun text there => taken_is_accepted _ text (taken.raw ▸ given_among _ text there) }

theorem Enrichment.whitelist_sustained (kit : Kit) : Sustains kit (Whitelisted kit) where
  titled d own := own.titled
  named d own damage := Render.listed_talent kit d.talent d.table (own.listed (by simp [damage]))
  low d own := own.pick
  fresh d fresh :=
    { titled := fresh.titled
      listed := fresh.listed
      pick := by simp [fresh.pick]
      cons := by simp [fresh.cons]
      check := by simp [fresh.check, given]
      raw := by simp [fresh.raw, given] }
  variant d title element own titled _ := { own with titled }
  derived d derived own _ made := by
    obtain ⟨title, e, titled, composite, rfl⟩ := made
    refine { own with titled, pick := by simp, raw := fun text there => ?_ }
    cases given_among _ text there
    exact composite_is_accepted e composite
  state d key title own titled := { own with titled }

namespace Refinement

theorem refined_whitelisted (kit : Kit) (policy : EvictionPolicy) (plan refined : Plan)
    (listed : ∀ d ∈ plan.details, Whitelisted kit d) (made : refine kit plan policy = .ok refined) :
    WhitelistedPlan kit refined := by
  obtain ⟨rows, few⟩ := refined_rows kit (Enrichment.whitelist_sustained kit) policy plan refined listed made
  exact ⟨rows, few⟩

/-- A plan that comes of a raw plan, or of refining the heuristic plan. -/
inductive IsMade (kit : Kit) (plan : Plan) : Prop
  | validated (raw : Json) (policy : EvictionPolicy) (made : validate kit raw policy = .ok plan)
  | heuristic (policy : EvictionPolicy) (first : Plan) (planned : Heuristic.plan kit = .ok first)
      (made : refine kit first policy = .ok plan)

theorem made_whitelisted (kit : Kit) (plan : Plan) (made : IsMade kit plan) :
    WhitelistedPlan kit plan := by
  cases made with
  | validated raw policy made =>
    obtain ⟨first, read, refines, -⟩ := validated_steps kit raw policy plan made
    have rows := RawPlan.read_plan_rows kit raw first read
    exact refined_whitelisted kit policy first plan
      (fun d member => RawPlan.read_row_whitelisted kit d (rows d member)) refines
  | heuristic policy first planned made =>
    exact refined_whitelisted kit policy first plan (fun d member =>
      (Enrichment.whitelist_sustained kit).fresh d (Heuristic.plan_fresh first planned d member)) made

end Refinement

end DamagePlan
