import DamagePlan.Compile.Basic
import DamagePlan.Proofs.Planning.Heuristic
import DamagePlan.Proofs.Refine.Validated
import DamagePlan.Proofs.Render.RoundTrip
import DamagePlan.Proofs.Script.StandIns

/-!
The heuristic path: the plan that is made from a kit's tables alone is refined, rendered and let through the gate.
-/
set_option autoImplicit false

namespace DamagePlan.Compile

open Script Render
open Enrichment (Sustains Fresh IsDerived burstParameters)
open Formula (Composite isTalent)

structure Native (d : Detail) : Prop where
  titled : d.title ≠ ""
  talent : d.kind ≠ .reaction → isTalent (d.talent.getD "") = true
  pick : d.pick = none
  cons : d.cons = none
  check : d.check = none
  params : ∀ params ∈ d.params, params = [("q", .bool true)]
  raw : ∀ text ∈ d.raw, ∃ e, Composite e ∧ text = e.plainText

theorem native_sustained (kit : Kit) : Sustains kit Native where
  titled d own := own.titled
  named d own damage := own.talent (by simp [damage])
  low d own p picked := by simp [own.pick] at picked
  fresh d fresh :=
    { titled := fresh.titled
      talent := fun other => listed_talent kit d.talent d.table (fresh.listed other)
      pick := fresh.pick
      cons := fresh.cons
      check := fresh.check
      params := by simp [fresh.params]
      raw := by simp [fresh.raw] }
  variant d title element own titled _ := { own with titled }
  derived d derived own _ made := by
    obtain ⟨title, e, titled, composite, rfl⟩ := made
    refine { own with titled, pick := rfl, raw := ?_ }
    rintro text ⟨⟩
    exact ⟨e, composite, rfl⟩
  state d key title own titled := by
    refine { own with titled, params := ?_ }
    rintro params ⟨⟩
    unfold burstParameters
    cases given_ : d.params with
    | none => rfl
    -- the burst state has been turned on before; turning it on again changes nothing
    | some params =>
      rw [own.params params given_]
      rfl

theorem native_fits (d : Detail) (own : Native d) : DetailFits 26 d where
  titled := own.titled
  talent := own.talent
  pick := by simp [own.pick]
  cons := by simp [own.cons]
  params params given_ := by
    have safe : Legible.IsSafeKey "q" := by decide +kernel
    rw [own.params params given_]
    simp [safe, ScalarFits]
  check := by simp [own.check, given]
  raw text given_ := by
    obtain ⟨e, composite, rfl⟩ := own.raw text (Option.filter_eq_some_iff.mp given_).1
    exact composite.fits.1

theorem native_idle (kit : Kit) (d : Detail) (own : Native d) (loaded : LoadedDetail) (decodes : DetailDecodes kit d loaded) :
    Gate.IsIdle loaded where
  free := by
    have check := decodes.check
    rwa [show given d.check = none by simp [own.check, given]] at check
  fits := by
    have damage := decodes.damage
    unfold IsDamage at damage
    cases written : given d.raw with
    | none =>
      rw [written] at damage
      dsimp only at damage
      rw [of_detail_formula kit d written] at damage
      have writable := Formula.formula_writable kit d own.talent (by simp [own.pick]) _ damage
      exact writable.fits.mono (by decide)
    | some text =>
      rw [written] at damage
      obtain ⟨e, composite, rfl⟩ := own.raw text (Option.filter_eq_some_iff.mp written).1
      rw [← text_body _ _ damage, composite.fits.2]
      exact composite.writable.fits.mono (by decide)
  idle engine scope stage := by
    have damage := decodes.damage
    unfold IsDamage at damage
    cases written : given d.raw with
    | none =>
      rw [written] at damage
      dsimp only at damage
      rw [of_detail_formula kit d written] at damage
      exact Formula.formula_gives stage kit d _ damage
    | some text =>
      rw [written] at damage
      obtain ⟨e, composite, rfl⟩ := own.raw text (Option.filter_eq_some_iff.mp written).1
      rw [← text_body _ _ damage, composite.fits.2]
      exact composite.idle engine scope stage

structure NativePlan (plan : Plan) : Prop where
  details : ∀ d ∈ plan.details, Native d
  few : plan.details.length ≤ Plan.maxDetails
  plain : plan.buffs = []

theorem native_plan_passes (stack : Stack) (kit : Kit) (plan : Plan) (native : NativePlan plan) (tag : String) :
    (∃ d ∈ plan.details, ∃ x, Formula.ofDetail kit d = .error x ∧ render kit plan tag = .error (.ofFault kit.name x)) ∨
      ∃ script, render kit plan tag = .ok script ∧ Gate.validate stack script = .ok () := by
  have fits : PlanFits 25 plan := by
    refine ⟨fun d member => native_fits d (native.details d member), ?_, native.few⟩
    rw [native.plain]
    nofun
  refine (plan_loads stack kit plan tag 25 (by decide) fits).imp_right ?_
  rintro ⟨script, rendered, -, loads⟩
  obtain ⟨loaded, loads, decodes⟩ := loads (by decide)
  have buffs := decodes.buffs
  rw [native.plain] at buffs
  refine ⟨script, rendered, Gate.idle_script_passes stack script loaded loads (List.forall₂_nil_left_iff.mp buffs) ?_⟩
  intro row member
  obtain ⟨d, among, decoded⟩ := paired_right _ _ decodes.details row member
  exact native_idle kit d (native.details d among) row decoded

theorem empty_plan_native : NativePlan emptyPlan := ⟨List.forall_mem_nil _, Nat.zero_le _, rfl⟩

theorem empty_script_passes (stack : Stack) (kit : Kit) (tag : String) :
    render kit emptyPlan tag = .ok (emptyScript kit tag) ∧ Gate.validate stack (emptyScript kit tag) = .ok () := by
  rcases native_plan_passes stack kit emptyPlan empty_plan_native tag with ⟨d, member, -⟩ | ⟨script, rendered, passes⟩
  · cases member
  · have same : emptyScript kit tag = script := by rw [emptyScript, rendered]; rfl
    rw [same]
    exact ⟨rendered, passes⟩

theorem plan_listed (kit : Kit) (plan : Plan) (planned : Heuristic.plan kit = .ok plan) :
    Refinement.strayDetail? kit plan = none := by
  rw [Refinement.strayDetail?, List.find?_eq_none]
  intro d member
  by_cases reaction : d.kind = .reaction
  · simp [reaction]
  · simp [(Heuristic.plan_fresh plan planned d member).listed reaction]

theorem plan_not_rejected (kit : Kit) (plan : Plan) (planned : Heuristic.plan kit = .ok plan) :
    Fails (fun e => ∀ r, e ≠ .rejected r) (Refinement.refine kit plan) := by
  have fault (f : Decimal.IntegerFault) (r : Rejection) : PlanError.ofFault f ≠ .rejected r := by cases f <;> nofun
  unfold Refinement.refine
  rw [plan_listed kit plan planned]
  refine fails_bind _ _ (fails_map_error _ PlanError.ofFault _ (P := fun _ => True) (fun _ _ => trivial) fun f _ => fault f) ?_
  exact fun _ _ => fails_bind _ _ (fails_map_error _ _ _ (P := fun _ => True) (fun _ _ => trivial) nofun) fun _ _ => fails_ok _

theorem refined_native (kit : Kit) (plan refined : Plan) (planned : Heuristic.plan kit = .ok plan)
    (refines : Refinement.refine kit plan = .ok refined) : NativePlan refined := by
  have sustained := native_sustained kit
  obtain ⟨details, few⟩ := Refinement.refined_rows kit sustained .default plan refined
    (fun d member => sustained.fresh d (Heuristic.plan_fresh plan planned d member)) refines
  obtain ⟨_, buffs, -, filtered, rfl⟩ := Refinement.refined_steps kit .default plan refined refines
  obtain ⟨-, plain⟩ := Heuristic.plan_frame plan planned
  rw [plain, List.take_nil] at filtered
  obtain ⟨none, -⟩ := BuffFilter.filtered_of kit [] buffs filtered
  exact ⟨details, few, List.length_eq_zero_iff.mp (Nat.le_zero.mp none)⟩

theorem plan_total (kit : Kit) (brief : Scaling.BriefTexts kit) : ∃ plan, Heuristic.plan kit = .ok plan := by
  unfold Heuristic.plan
  split
  · exact ⟨_, rfl⟩
  · refine map_total _ _ (map_m_total _ _ fun entry member => map_total _ _ (Text.normalize_total _ ?_))
    have among : entry.2 ∈ Scaling.texts kit :=
      List.mem_append_left _ (List.mem_append_right _ (List.mem_map.mpr ⟨entry, member, rfl⟩))
    exact Text.Brief.mono (brief entry.2 among) (by decide)

theorem refine_total (kit : Kit) (brief : Scaling.BriefTexts kit) (inRange : Scaling.SamplesInRange kit) (plan : Plan)
    (planned : Heuristic.plan kit = .ok plan) : ∃ refined, Refinement.refine kit plan = .ok refined := by
  have legible := Enrichment.in_range_legible kit brief inRange
  obtain ⟨enriched, enriches, -⟩ := Enrichment.enrichment_total legible (plan.details.take Plan.maxDetails)
    (fun d member => Heuristic.plan_readable legible.named plan planned d (List.mem_of_mem_take member)) .default Plan.maxDetails
  obtain ⟨-, plain⟩ := Heuristic.plan_frame plan planned
  obtain ⟨filtered, filters⟩ := BuffFilter.filter_total kit [] (fun hint member =>
    Text.Brief.mono (brief hint (List.mem_append_right _ member)) (by decide)) (List.forall_mem_nil _)
  unfold Refinement.refine
  rw [plan_listed kit plan planned, plain]
  exact ⟨_, lift_made enriches (lift_made filters rfl)⟩

def unaided (plan : Plan) (tag script : String) (problem? : Option String) : Outcome where
  script := script
  usedModel := false
  error := problem?.or (if plan.details.isEmpty then some emptyPlanMessage else none)
  provenance := Provenance.ofHeuristic tag
  attempts := 0

section Course

variable (stack : Stack) (kit : Kit) (tag : String)

inductive Shows (plan refined : Plan) : Outcome → Prop
  | script (script : String) (rendered : render kit refined (Provenance.ofHeuristic tag).tag = .ok script)
      (passes : Gate.validate stack script = .ok ()) : Shows plan refined (unaided plan tag script none)
  | nothing (d : Detail) (member : d ∈ refined.details) (e : Decimal.IntegerTooLong)
      (untold : Formula.ofDetail kit d = .error (.tooLong e))
      (failed : render kit refined (Provenance.ofHeuristic tag).tag = .error (.unreadable kit.name e)) :
      Shows plan refined (unaided plan tag (emptyScript kit (Provenance.ofHeuristic tag).tag)
        (some (RenderError.unreadable kit.name e).message))

theorem heuristic_course (outcome : Outcome) (made : heuristic stack kit tag = .ok outcome) : ∃ plan refined,
    Heuristic.plan kit = .ok plan ∧ Refinement.refine kit plan = .ok refined ∧ Shows stack kit tag plan refined outcome := by
  obtain ⟨plan, planned, made⟩ := lifted_ok _ _ _ _ made
  obtain ⟨⟨refined, rejection⟩, refines, made⟩ := bind_ok _ _ _ made
  obtain ⟨⟨script, unrendered⟩, renders, made⟩ := bind_ok _ _ _ made
  obtain ⟨refusal, judged, made⟩ := bind_ok _ _ _ made
  cases made
  have accepts (text : String) (passes : Gate.validate stack text = .ok ()) : gateMessage? stack text = .ok none := by
    rw [gateMessage?, passes]
  obtain ⟨own, rfl⟩ : Refinement.refine kit plan = .ok refined ∧ rejection = none := by
    unfold refineOrKeep at refines
    split at refines
    · rename_i own
      cases refines
      exact ⟨own, rfl⟩
    · rename_i r rejected
      exact absurd rfl (plan_not_rejected kit plan planned _ rejected r)
    · cases refines
    · cases refines
  refine ⟨plan, refined, planned, own, ?_⟩
  have native := refined_native kit plan refined planned own
  rcases native_plan_passes stack kit refined native (Provenance.ofHeuristic tag).tag with
    ⟨d, member, x, untold, failed⟩ | ⟨text, rendered, passes⟩
  · cases x with
    | tooLarge e =>
      rw [renderOrEmpty, failed] at renders
      cases renders
    | tooLong e =>
      rw [renderOrEmpty, failed] at renders
      obtain ⟨rfl, rfl⟩ := Prod.mk.inj (Except.ok.inj renders)
      rw [accepts _ (empty_script_passes stack kit _).2] at judged
      cases judged
      exact .nothing d member e untold failed
  · rw [renderOrEmpty, rendered] at renders
    cases renders
    rw [accepts script passes] at judged
    cases judged
    exact .script script rendered passes

theorem heuristic_made (inRange : Scaling.SamplesInRange kit) (plan refined : Plan) (planned : Heuristic.plan kit = .ok plan)
    (refines : Refinement.refine kit plan = .ok refined) : ∃ outcome, heuristic stack kit tag = .ok outcome := by
  have native := refined_native kit plan refined planned refines
  have passes := (empty_script_passes stack kit (Provenance.ofHeuristic tag).tag).2
  rcases native_plan_passes stack kit refined native (Provenance.ofHeuristic tag).tag with
    ⟨d, member, x, untold, failed⟩ | ⟨script, rendered, passes⟩
  · obtain ⟨e, rfl⟩ := Formula.formula_too_long inRange d (by simp [(native.details d member).pick]) x untold
    rw [RenderError.ofFault] at failed
    refine ⟨unaided plan tag (emptyScript kit (Provenance.ofHeuristic tag).tag)
      (some (RenderError.unreadable kit.name e).message), lift_made planned ?_⟩
    simp only [refineOrKeep, refines, renderOrEmpty, failed, gateMessage?, passes, bind, Except.bind]
    rfl
  · refine ⟨unaided plan tag script none, lift_made planned ?_⟩
    simp only [refineOrKeep, refines, renderOrEmpty, rendered, gateMessage?, passes, bind, Except.bind]
    rfl

theorem heuristic_returns (brief : Scaling.BriefTexts kit) (inRange : Scaling.SamplesInRange kit) :
    ∃ plan script, Heuristic.plan kit = .ok plan ∧ heuristic stack kit tag = .ok (unaided plan tag script none) ∧
      Gate.validate stack script = .ok () := by
  obtain ⟨plan, planned⟩ := plan_total kit brief
  obtain ⟨refined, refines⟩ := refine_total kit brief inRange plan planned
  obtain ⟨outcome, made⟩ := heuristic_made stack kit tag inRange plan refined planned refines
  obtain ⟨plan', refined', planned', refines', shows⟩ := heuristic_course stack kit tag outcome made
  cases shows with
  | script script rendered passes => exact ⟨plan', script, planned', made, passes⟩
  | nothing d member e untold failed =>
    have native := refined_native kit plan' refined' planned' refines'
    obtain ⟨_, told⟩ := Formula.formula_total (Scaling.in_range_told kit brief inRange) d
      (by simp [(native.details d member).pick])
    rw [untold] at told
    cases told

end Course

/-- Whenever the heuristic path gives a script, the gate lets it pass and its plan was refined. The script is that of the
plan, and nothing is wrong unless there was no damage table to plan with, or the formula of a row needs a text that cannot
be read, so that the script is that of the empty plan. -/
theorem heuristic_script_sound (stack : Stack) (kit : Kit) (tag : String) (outcome : Outcome)
    (made : heuristic stack kit tag = .ok outcome) : Gate.validate stack outcome.script = .ok () ∧
      ∃ plan refined, Heuristic.plan kit = .ok plan ∧ Refinement.refine kit plan = .ok refined ∧
        (render kit refined outcome.provenance.tag = .ok outcome.script ∧
            outcome.error = (if plan.details.isEmpty then some emptyPlanMessage else none) ∨
          ∃ d ∈ refined.details, ∃ e, Formula.ofDetail kit d = .error (.tooLong e) ∧
            render kit refined outcome.provenance.tag = .error (.unreadable kit.name e) ∧
            render kit emptyPlan outcome.provenance.tag = .ok outcome.script ∧
            outcome.error = some (RenderError.unreadable kit.name e).message) := by
  obtain ⟨plan, refined, planned, refines, shows⟩ := heuristic_course stack kit tag outcome made
  cases shows with
  | script script rendered passes =>
    exact ⟨passes, plan, refined, planned, refines, .inl ⟨rendered, rfl⟩⟩
  | nothing d member e untold failed =>
    obtain ⟨rendered, passes⟩ := empty_script_passes stack kit (Provenance.ofHeuristic tag).tag
    exact ⟨passes, plan, refined, planned, refines, .inr ⟨d, member, e, untold, failed, rendered, rfl⟩⟩

theorem sample_script_sound : ∃ outcome, heuristic (.levels 200) sampleKit "calcplan:heuristic" = .ok outcome ∧
    Gate.validate (.levels 200) outcome.script = .ok () ∧ outcome.error = none := by
  obtain ⟨plan, script, planned, made, -⟩ := heuristic_returns (.levels 200) sampleKit "calcplan:heuristic" (by decide) nofun
  have rows : (Heuristic.plan sampleKit).toOption.map (·.details.isEmpty) = some false := by decide +kernel
  rw [planned] at rows
  have filled : plan.details.isEmpty = false := Option.some.inj rows
  refine ⟨_, made, (heuristic_script_sound (.levels 200) sampleKit _ _ made).1, ?_⟩
  simp [unaided, filled]

def kitWithUnit (unit : String) : Kit where
  game := .gs
  name := "X"
  tables := [("e", ["Skill DMG"])]
  units := [("e", [("Skill DMG", unit)])]

theorem kit_with_unit (unit : String) : Scaling.unitOf (kitWithUnit unit) "e" "Skill DMG" = Text.normalizeMarkup unit := by
  have whole : Text.stripTableSuffix "Skill DMG" = "Skill DMG" := by decide
  have own : Scaling.entryOf (kitWithUnit unit).units "e" "Skill DMG" = unit := by
    simp [Scaling.entryOf, kitWithUnit, Fields.find?, whole]
  rw [Scaling.unitOf, own]

def endlessKit : Kit := kitWithUnit (String.ofList Text.endless)

def isBareRow (d : Detail) : Bool :=
  d.kind == .dmg && d.talent == some "e" && d.table == some "Skill DMG" && d.raw.isNone && d.scaleStat.isNone

theorem bare_row_untold (kit : Kit) (x : Decimal.IntegerTooLong) (failed : Scaling.unitOf kit "e" "Skill DMG" = .error x)
    (d : Detail) (bare : isBareRow d = true) (e : Expr) : Formula.ofDetail kit d ≠ .ok e := by
  simp only [isBareRow, Bool.and_eq_true, beq_iff_eq, Option.isNone_iff_eq_none] at bare
  obtain ⟨⟨⟨⟨damage, talent⟩, table⟩, unwritten⟩, unscaled⟩ := bare
  intro made
  rw [of_detail_formula kit d (by simp [unwritten, given]), Formula.ofDetail.formula, damage] at made
  obtain ⟨stat, told, -⟩ := lifted_ok _ _ _ _ made
  simp only [Formula.damageRowOf, talent, table, unscaled, Option.getD_some] at told
  obtain ⟨unit, read, -⟩ := bind_ok _ _ _ told
  rw [failed] at read
  cases read

/-- A unit that cannot be read keeps the plan of a kit from being shown. -/
theorem endless_unit_hides_plan : ∃ outcome e, heuristic (.levels 200) endlessKit "calcplan:heuristic" = .ok outcome ∧
    outcome.error = some (RenderError.unreadable "X" e).message := by
  have planned : Heuristic.plan endlessKit = .ok (Heuristic.planGs endlessKit) := rfl
  obtain ⟨refined, refines, bare⟩ := evaluated_ok (Refinement.refine endlessKit (Heuristic.planGs endlessKit))
    (·.details.any isBareRow) true (by decide +kernel)
  obtain ⟨outcome, made⟩ := heuristic_made (.levels 200) endlessKit "calcplan:heuristic" nofun _ refined planned refines
  obtain ⟨plan', refined', planned', refines', shows⟩ := heuristic_course (.levels 200) endlessKit _ outcome made
  refine ⟨outcome, ?_⟩
  cases shows with
  | nothing d member e untold failed => exact ⟨e, made, rfl⟩
  | script script rendered passes =>
    obtain rfl := Except.ok.inj (planned'.symm.trans planned)
    obtain rfl := Except.ok.inj (refines'.symm.trans refines)
    obtain ⟨d, member, own⟩ := List.any_eq_true.mp bare
    obtain ⟨_, _, _, -, -, rows, -⟩ := rendered_program endlessKit _ _ script rendered
    obtain ⟨e, -, record⟩ := map_m_each _ _ _ rows d member
    obtain ⟨_, -, record⟩ := bind_ok _ _ _ record
    obtain ⟨amount, told, -⟩ := bind_ok _ _ _ record
    obtain ⟨x, failed⟩ := Text.endless_fails
    exact absurd told (bare_row_untold endlessKit x ((kit_with_unit _).trans failed) d own amount)

end DamagePlan.Compile
