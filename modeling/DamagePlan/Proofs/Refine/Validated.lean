import DamagePlan.Proofs.Refine.BuffFilter
import DamagePlan.Proofs.Refine.Enrichment
import DamagePlan.Proofs.Refine.Pruning
import DamagePlan.Proofs.Refine.Reading
import DamagePlan.Proofs.Render.RoundTrip
import DamagePlan.Refine.Basic

/-!
Validated plans: what is read soundly stays sound through enrichment, pruning and filtering, whatever the raw plan was.
-/
set_option autoImplicit false

namespace DamagePlan

open RawPlan (SoundRow SoundBuff SoundReading commaParts)

theorem Enrichment.sound_sustained (kit : Kit) : Sustains kit (SoundRow kit) where
  titled d own := own.titled
  named d own damage := Render.listed_talent kit d.talent d.table (own.listed (by simp [damage]))
  low d own := own.pick
  fresh d fresh :=
    { titled := fresh.titled
      listed := fresh.listed
      reacts := fresh.reacts
      element := fresh.element
      pick := by simp [fresh.pick]
      check := by simp [fresh.check]
      raw := by simp [fresh.raw] }
  variant d title element own titled known := by
    refine { own with titled, element := ?_ }
    rintro e ⟨⟩
    exact known
  derived d derived own _ made := by
    obtain ⟨title, e, titled, composite, rfl⟩ := made
    refine { own with titled, pick := nofun, raw := ?_ }
    rintro text ⟨⟩
    exact Script.context_expression_reads _ composite.taken
  state d key title own titled := { own with titled }

namespace BuffFilter

theorem filtered_part (game : Game) (hints : List (Nat × String)) (b filtered : Buff)
    (made : filterBuff game hints b = .ok (some filtered)) :
    ∃ data, data.Sublist b.data ∧ filtered = { b with data } ∧ (b.effectKeys ≠ [] → filtered.effectKeys ≠ []) := by
  obtain ⟨evidence, intent, -, -, thins⟩ := filter_buff_ok game hints b _ made
  rw [eq_comm, thin] at thins
  dsimp only at thins
  split at thins
  · cases thins
    exact ⟨b.data, .refl _, rfl, id⟩
  · split at thins
    · cases thins
    · rename_i effective
      cases thins
      exact ⟨_, List.filter_sublist, rfl, fun _ => by simpa using effective⟩

theorem filtered_of (kit : Kit) (buffs filtered : List Buff) (made : filter kit buffs = .ok filtered) :
    filtered.length ≤ buffs.length ∧
      ∀ b ∈ filtered, ∃ hints, ∃ whole ∈ buffs, filterBuff kit.game hints whole = .ok (some b) := by
  obtain ⟨hints, results, -, rfl, each⟩ := filter_ok kit buffs filtered made
  refine ⟨Nat.le_trans (List.length_filterMap_le _ _) each.length_eq.ge, fun b member => ?_⟩
  obtain ⟨result, among, shape⟩ := List.mem_filterMap.mp member
  obtain ⟨whole, there, made⟩ := paired_right _ _ each result among
  exact ⟨hints, whole, there, by rw [made, ← shape, id]⟩

theorem filtered_sound (game : Game) (hints : List (Nat × String)) (b filtered : Buff) (sound : SoundBuff game b)
    (made : filterBuff game hints b = .ok (some filtered)) : SoundBuff game filtered := by
  obtain ⟨data, part, rfl, effective⟩ := filtered_part game hints b filtered made
  exact ⟨fun entry member => sound.entries entry (part.subset member), effective sound.effect, sound.check⟩

end BuffFilter

namespace Refinement

structure Validated (kit : Kit) (plan : Plan) : Prop where
  attributes : plan.mainAttrs ≠ ""
  distinct : (commaParts plan.mainAttrs).Nodup
  named : ∀ part ∈ commaParts plan.mainAttrs, RawPlan.isAttribute part = true
  filled : plan.details ≠ []
  few : plan.details.length ≤ 20
  rows : ∀ d ∈ plan.details, SoundRow kit d
  fewSpecial : plan.details.countP (Evidence.isSpecialRow kit.game) ≤ 2
  evident : ∀ d ∈ plan.details, ∀ id ∈ Evidence.mechanicOf? kit.game d, Evidence.supports kit id = true
  fewBuffs : plan.buffs.length ≤ 30
  buffs : ∀ b ∈ plan.buffs, SoundBuff kit.game b
  defaultKey : ∀ key ∈ plan.defaultDamageKey, ∃ d ∈ plan.details, d.damageKey = key

theorem refined_steps (kit : Kit) (policy : EvictionPolicy) (plan refined : Plan) (made : refine kit plan policy = .ok refined) :
    ∃ enriched buffs, Enrichment.enrich kit (plan.details.take Plan.maxDetails) policy = .ok enriched ∧
      BuffFilter.filter kit (plan.buffs.take Plan.maxBuffs) = .ok buffs ∧
      refined = {
        mainAttrs := plan.mainAttrs
        defaultDamageKey := plan.defaultDamageKey.filter fun key =>
          (Evidence.prune kit Evidence.maxSpecialRows enriched).any (·.damageKey == key)
        details := Evidence.prune kit Evidence.maxSpecialRows enriched
        buffs } := by
  unfold refine at made
  split at made
  · cases made
  · obtain ⟨enriched, enriches, made⟩ := lifted_ok _ _ _ _ made
    obtain ⟨buffs, filters, shape⟩ := lifted_ok _ _ _ _ made
    exact ⟨enriched, buffs, enriches, filters, (Except.ok.inj shape).symm⟩

theorem refined_rows {P : Detail → Prop} (kit : Kit) (sustains : Enrichment.Sustains kit P) (policy : EvictionPolicy)
    (plan refined : Plan) (each : ∀ d ∈ plan.details, P d) (made : refine kit plan policy = .ok refined) :
    (∀ d ∈ refined.details, P d) ∧ refined.details.length ≤ Plan.maxDetails := by
  obtain ⟨enriched, buffs, enriches, -, rfl⟩ := refined_steps kit policy plan refined made
  obtain ⟨rows, few⟩ := Enrichment.enriched_rows sustains _ enriched policy
    (fun d member => each d (List.mem_of_mem_take member)) enriches
  have part := Evidence.pruned_part kit Evidence.maxSpecialRows enriched
  exact ⟨fun d member => rows d (part.subset member), Nat.le_trans part.length_le few⟩

theorem refined_buffs {P : Buff → Prop} (kit : Kit) (policy : EvictionPolicy) (plan refined : Plan)
    (filters : ∀ hints b filtered, P b → BuffFilter.filterBuff kit.game hints b = .ok (some filtered) → P filtered)
    (each : ∀ b ∈ plan.buffs, P b) (made : refine kit plan policy = .ok refined) : ∀ b ∈ refined.buffs, P b := by
  obtain ⟨enriched, buffs, -, filtered, rfl⟩ := refined_steps kit policy plan refined made
  intro b member
  obtain ⟨hints, whole, among, thins⟩ := (BuffFilter.filtered_of kit _ buffs filtered).2 b member
  exact filters hints whole b (each whole (List.mem_of_mem_take among)) thins

theorem refined_valid (kit : Kit) (policy : EvictionPolicy) (plan refined : Plan)
    (reading : SoundReading kit plan) (made : refine kit plan policy = .ok refined) (filled : refined.details ≠ []) :
    Validated kit refined := by
  obtain ⟨rows, few⟩ := refined_rows kit (Enrichment.sound_sustained kit) policy plan refined reading.rows made
  have buffs := refined_buffs kit policy plan refined (BuffFilter.filtered_sound kit.game) reading.buffs made
  obtain ⟨enriched, kept, -, filtered, rfl⟩ := refined_steps kit policy plan refined made
  refine
    { attributes := reading.attributes
      distinct := reading.distinct
      named := reading.named
      filled
      few
      rows
      fewSpecial := Evidence.pruned_few kit _ enriched
      evident := Evidence.pruned_supported kit _ enriched
      fewBuffs := Nat.le_trans (BuffFilter.filtered_of kit _ kept filtered).1 (List.length_take_le _ _)
      buffs
      defaultKey := fun key own => ?_ }
  obtain ⟨-, there⟩ := Option.filter_eq_some_iff.mp own
  simpa using there

theorem validated_steps (kit : Kit) (raw : Json) (policy : EvictionPolicy) (plan : Plan)
    (made : validate kit raw policy = .ok plan) :
    ∃ first, RawPlan.read kit raw = .ok first ∧ refine kit first policy = .ok plan ∧ plan.details ≠ [] := by
  obtain ⟨first, read, made⟩ := bind_ok _ _ _ made
  obtain ⟨refined, refines, made⟩ := bind_ok _ _ _ made
  split at made
  · cases made
  · rename_i filled
    cases made
    exact ⟨first, read, refines, by simpa using filled⟩

/-- Whatever the raw plan is, a plan that comes of it refers only to what its kit and its game know, is within all
limits, and has expressions that read their context only. -/
theorem validated_plan_sound (kit : Kit) (raw : Json) (policy : EvictionPolicy) (plan : Plan)
    (made : validate kit raw policy = .ok plan) : Validated kit plan := by
  obtain ⟨first, read, refines, filled⟩ := validated_steps kit raw policy plan made
  exact refined_valid kit policy first plan (RawPlan.read_plan_sound kit raw first read) refines filled

def anemoKit : Kit where
  game := .gs
  name := "X"
  element := "anemo"
  tables := [("e", ["Skill DMG"])]
  hints := ["C2: Swirl DMG is increased by 20%."]

def sampleRaw : Json := .obj [
  ("mainAttr", .str "atk, mastery, atk"), ("defDmgKey", .str " e"),
  ("details", .arr [
    .obj [("talent", .str "e"), ("table", .str "Skill DMG"), ("ele", .str "Swirl"), ("check", .str "cons >= 2")],
    .obj [("talent", .str "e"), ("table", .str "Other")],
    .obj [("kind", .str "reaction"), ("reaction", .str "swirl")]]),
  ("buffs", .arr [
    .obj [("title", .str "C2: Swirl DMG"),
      ("data", .obj [(" swirl ", .int 20), ("_x", .str "cons => 1"), ("aPlus", .str "attr.atk * 2")])]])]

theorem sample_validated : ∃ plan, validate anemoKit sampleRaw .default = .ok plan ∧
    (plan.details.length, plan.buffs.length) = (2, 1) := evaluated_ok _ _ _ (by decide +kernel)

theorem sample_plan_sound : ∃ plan, validate anemoKit sampleRaw .default = .ok plan ∧
    plan.details.length = 2 ∧ plan.buffs.length = 1 ∧ Validated anemoKit plan := by
  obtain ⟨plan, made, same⟩ := sample_validated
  obtain ⟨rows, buffs⟩ := Prod.mk.inj same
  exact ⟨plan, made, rows, buffs, validated_plan_sound anemoKit sampleRaw .default plan made⟩

end Refinement

end DamagePlan
