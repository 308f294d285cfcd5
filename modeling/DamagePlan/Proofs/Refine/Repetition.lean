import DamagePlan.Proofs.Refine.History
import DamagePlan.Proofs.Refine.Protected
import DamagePlan.Proofs.Refine.Validated

/-!
Repetitions in a validated plan. Reading leaves out rows of an identity that is there, and so does a budget; rows that
are changed in their places are not compared with the others.
-/
set_option autoImplicit false

namespace DamagePlan

namespace Budget

def Excused (E : Detail → Detail → Prop) (details : List Detail) : Prop :=
  details.Pairwise fun d e => d.identity = e.identity → E d e

section Excused

variable {E : Detail → Detail → Prop} {b : Budget}

theorem excused_iff : Excused E b.details ↔ ∀ (i j : Nat) (first second : Row), i < j → b.rows[i]? = some first →
    b.rows[j]? = some second → first.detail.identity = second.detail.identity → E first.detail second.detail := by
  rw [Excused, List.pairwise_iff_getElem]
  constructor
  · intro apart i j first second before one other same
    obtain ⟨inside, rfl⟩ := List.getElem?_eq_some_iff.mp one
    obtain ⟨inside', rfl⟩ := List.getElem?_eq_some_iff.mp other
    simpa [details, same] using apart i j (by simpa [details] using inside) (by simpa [details] using inside') before
  · intro apart i j inside inside' before same
    simp only [details, List.length_map] at inside inside'
    simp only [details, List.getElem_map] at same ⊢
    exact apart i j _ _ before (List.getElem?_eq_getElem inside) (List.getElem?_eq_getElem inside') same

theorem push_excused (excused : Excused E b.details) (d : Detail) (b' : Budget) (pushed : b.push d = .ok b') :
    Excused E b'.details := by
  rw [excused_iff] at excused ⊢
  intro i j first second before one other same
  obtain ⟨taken, adds⟩ := push_cases b d b' pushed
  obtain ⟨one, other⟩ := adds.apart i j first second (Nat.ne_of_lt before) one other (.inl same)
  exact excused i j first second before one other same

theorem update_excused (excused : Excused E b.details) (tag : Nat) (d : Detail) (own : ∀ e, E d e ∧ E e d) :
    Excused E (b.update tag d).details := by
  unfold update
  rcases replace_cases b ⟨tag, d⟩ ⟨tag, d⟩ with ⟨missing, -⟩ | ⟨k, -, -, -, made⟩
  · rw [missing]
    exact excused
  · rw [made, Option.getD_some]
    rw [excused_iff] at excused ⊢
    intro i j first second before one other same
    rcases set_placed b.rows k ⟨tag, d⟩ i first one with old | ⟨-, rfl⟩
    · rcases set_placed b.rows k ⟨tag, d⟩ j second other with old' | ⟨-, rfl⟩
      · exact excused i j first second before old old' same
      · exact (own first.detail).2
    · exact (own second.detail).1

end Excused

end Budget

namespace Enrichment

open Budget (Excused)

theorem burst_state_identity (d : Detail) : { (burstStateRow d).identity with damageKey := d.damageKey } = d.identity := by
  rcases burst_state_row_shape d with same | ⟨-, -, ⟨key, title, params, shape⟩, -⟩
  · rw [same]
    rfl
  · rw [shape]
    rfl

/-- Rows of a burst that converts attacks come to one identity in its state: nothing but their keys told them apart. -/
def Merge (kit : Kit) (details : List Detail) (d e : Detail) : Prop :=
  kit.game = .gs ∧ convertsAttacks kit = .ok true ∧ ∃ first second : Detail, [first, second].Sublist details ∧
    first.damageKey ≠ second.damageKey ∧ d = burstStateRow first ∧ e = burstStateRow second

/-- The row is a total of all targets that went over a row of its group when the plan was enriched. -/
def IsOverlay (kit : Kit) (details : List Detail) (policy : EvictionPolicy) (cap : Int) (d : Detail) : Prop :=
  ∃ (enriched : List Detail) (stages : Stages kit details policy cap enriched) (old : Row),
    Overlays kit stages.totalled.rows stages.finished.isFull old d

def MayRepeat (kit : Kit) (details : List Detail) (policy : EvictionPolicy) (cap : Int) (d e : Detail) : Prop :=
  Merge kit details d e ∨ IsOverlay kit details policy cap d ∨ IsOverlay kit details policy cap e

section Rules

variable {kit : Kit} {E : Detail → Detail → Prop} {b b' : Budget}

theorem Pushes.excuse {M : Detail → Prop} (pushes : Pushes M b b') (excused : Excused E b.details) : Excused E b'.details :=
  pushes.keeps (I := fun b => Excused E b.details) excused fun _ d b' _ pushed kept => Budget.push_excused kept d b' pushed

theorem opened_excused (details : List Detail) (part : b.details.Sublist details)
    (apart : details.Pairwise fun d e => d.identity ≠ e.identity) (merged : ∀ d e, Merge kit details d e → E d e)
    (opened : openedBudget kit b = .ok b') : Excused E b'.details := by
  rw [opened_details kit b b' opened, Excused, List.pairwise_map, List.pairwise_iff_forall_sublist]
  intro first second pair same
  have pair := pair.trans part
  have different := List.pairwise_iff_forall_sublist.mp apart pair
  unfold opening at same ⊢
  split at same
  · rename_i converts
    rw [if_pos converts, if_pos converts]
    refine merged _ _ ⟨converts.1, converts.2, first, second, pair, fun sameKey => different ?_, rfl, rfl⟩
    rw [← burst_state_identity first, ← burst_state_identity second, same, sameKey]
  · exact absurd same different

theorem blasts_excused (excused : Excused E b.details) (done : addBlastTotals kit b = .ok b')
    (overlaid : ∀ old d, Overlays kit b.rows b'.isFull old d → ∀ e, E d e ∧ E e d) : Excused E b'.details :=
  blasts_keep kit b b' done (I := fun b => Excused E b.details) excused
    (fun _ old d overlays kept => Budget.update_excused kept old.tag d (overlaid old d overlays))
    fun _ _ d c _ _ pushed kept => Budget.push_excused kept d c pushed

theorem last_rules_excused (excused : Excused E b.details) (done : applyRules kit (lastRules kit.game) b = .ok b')
    (overlaid : ∀ old d, Overlays kit b.rows b'.isFull old d → ∀ e, E d e ∧ E e d) : Excused E b'.details := by
  obtain ⟨blasted, blasts, added⟩ := last_rules_push kit b b' done
  exact added.excuse (blasts_excused excused blasts fun old d overlays => overlaid old d (overlays.mono added.grows.full))

end Rules

theorem of_details_part (cap : Int) (policy : EvictionPolicy) (details : List Detail) :
    (Budget.ofDetails cap policy details).details.Sublist details := by
  have part := (List.take_sublist (if cap < 0 then (Budget.tagged details).length - cap.natAbs else cap.toNat)
    (Budget.tagged details)).map (·.detail)
  rwa [Budget.tagged_details] at part

theorem enriched_excused (kit : Kit) (details enriched : List Detail) (policy : EvictionPolicy) (cap : Int)
    (apart : details.Pairwise fun d e => d.identity ≠ e.identity) (made : enrich kit details policy cap = .ok enriched) :
    Excused (MayRepeat kit details policy cap) enriched := by
  obtain ⟨stages⟩ := enriched_stages kit details enriched policy cap made
  obtain ⟨opened, core, opens, cores, pushes⟩ := first_rules_push kit _ stages.filled stages.fills
  have begun : Excused (MayRepeat kit details policy cap) opened.details :=
    opened_excused details (of_details_part cap policy details) apart (fun d e merge => .inl merge) opens
  have first := pushes.excuse ((core_rows_push kit cores).excuse begun)
  rw [stages.ends]
  refine last_rules_excused ((multi_hit_totals_push kit stages.totals).excuse first) stages.finishes fun old d overlays e => ?_
  have own : IsOverlay kit details policy cap d := ⟨enriched, stages, old, overlays⟩
  exact ⟨.inr (.inl own), .inr (.inr own)⟩

end Enrichment

namespace Refinement

theorem refined_part (kit : Kit) (policy : EvictionPolicy) (plan refined : Plan) (made : refine kit plan policy = .ok refined) :
    ∃ enriched, Enrichment.enrich kit (plan.details.take Plan.maxDetails) policy = .ok enriched ∧
      refined.details.Sublist enriched := by
  obtain ⟨enriched, buffs, enriches, -, rfl⟩ := refined_steps kit policy plan refined made
  exact ⟨enriched, enriches, Evidence.pruned_part kit _ enriched⟩

/-- No two rows of a plan that is read have one identity. Two rows of the validated plan have one only if their keys told
them apart and a burst's state put another key in the place of both, or if one of them is a total of all targets that
went over another row. -/
theorem repetitions_come_of_changes (kit : Kit) (raw : Json) (policy : EvictionPolicy) (plan : Plan)
    (made : validate kit raw policy = .ok plan) : ∃ first, RawPlan.read kit raw = .ok first ∧
      first.details.Pairwise (fun d e => d.identity ≠ e.identity) ∧
      plan.details.Pairwise fun d e => d.identity = e.identity →
        Enrichment.MayRepeat kit first.details policy Plan.maxDetails d e := by
  unfold validate at made
  obtain ⟨first, read, made⟩ := bind_ok _ _ _ made
  obtain ⟨refined, refines, made⟩ := bind_ok _ _ _ made
  split at made
  · cases made
  · cases made
    obtain ⟨enriched, enriches, part⟩ := refined_part kit policy first plan refines
    have apart := RawPlan.read_plan_apart kit raw first read
    -- a plan that is read is within the limit already
    rw [List.take_of_length_le (RawPlan.read_plan_few kit raw first read)] at enriches
    exact ⟨first, read, apart, (Enrichment.enriched_excused kit _ enriched policy _ apart enriches).sublist part⟩

def bladeKit : Kit where
  game := .gs
  name := "X"
  tables := [("q", ["1-Hit DMG"])]
  descriptions := [("q", "Normal attacks become blows.")]

def twoBlades : Json := .obj [
  ("mainAttr", .str "atk"),
  ("details", .arr [
    .obj [("title", .str "Blade"), ("talent", .str "q"), ("table", .str "1-Hit DMG")],
    .obj [("title", .str "Burst Blade"), ("talent", .str "q"), ("table", .str "1-Hit DMG"), ("key", .str "q,x")]])]

theorem two_blades_validated : ∃ plan, validate bladeKit twoBlades = .ok plan ∧
    plan.details.map (·.identity) = List.replicate 2 ⟨.dmg, some "q", some "1-Hit DMG", "a", none, none, none, none⟩ :=
  evaluated_ok _ (fun plan : Plan => plan.details.map (·.identity)) _ (by decide +kernel)

theorem two_blades_repeat : ¬∀ plan, validate bladeKit twoBlades = .ok plan →
    plan.details.Pairwise fun d e => d.identity ≠ e.identity := by
  intro never
  obtain ⟨plan, made, identities⟩ := two_blades_validated
  have apart := List.pairwise_map.mpr (never plan made)
  rw [identities] at apart
  simp [List.replicate_succ] at apart

theorem two_blades_come_of_changes : ∃ plan first, validate bladeKit twoBlades = .ok plan ∧
    RawPlan.read bladeKit twoBlades = .ok first ∧ first.details.Pairwise (fun d e => d.identity ≠ e.identity) ∧
    plan.details.Pairwise fun d e => d.identity = e.identity →
      Enrichment.MayRepeat bladeKit first.details .default Plan.maxDetails d e := by
  obtain ⟨plan, made, -⟩ := two_blades_validated
  obtain ⟨first, read, apart, excused⟩ := repetitions_come_of_changes bladeKit twoBlades .default plan made
  exact ⟨plan, first, made, read, apart, excused⟩

end Refinement

end DamagePlan
