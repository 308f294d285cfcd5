import DamagePlan.Proofs.Render.RoundTrip
import DamagePlan.Proofs.Script.Room
import DamagePlan.Proofs.Steps

/-!
Scripts of plans and the limit on nesting: which accepted texts a script has room for.
-/
set_option autoImplicit false

namespace DamagePlan.Render

open Script Decimal
open Legible (IsSafeKey)
open DamagePlan.Script.Parser (FailsDeep)

structure Admitted (kit : Kit) (d : Detail) : Prop where
  titled : d.title ≠ ""
  listed : d.kind ≠ .reaction → kit.hasTable d.talent d.table = true
  pick : ∀ p ∈ d.pick, p ≤ 10
  cons : ∀ c ∈ d.cons, 1 ≤ c ∧ c ≤ 6
  params : ∀ params ∈ d.params, (params.map (·.1)).Nodup ∧ ∀ field ∈ params, IsSafeKey field.1
  check : ∀ text ∈ given d.check, IsAccepted text
  raw : ∀ text ∈ given d.raw, IsAccepted text

structure AdmittedBuff (b : Buff) : Prop where
  titled : b.title ≠ ""
  cons : ∀ c ∈ b.constellation, 1 ≤ c ∧ c ≤ 6
  trace : ∀ t ∈ b.trace, 1 ≤ t ∧ t ≤ 10
  check : ∀ text ∈ given b.check, IsAccepted text
  distinct : (b.data.map (·.1)).Nodup
  keys : ∀ entry ∈ b.data, IsSafeKey entry.1
  data : ∀ entry ∈ b.data, ∀ text, entry.2 = .expression text → IsAccepted text

structure AdmittedPlan (kit : Kit) (plan : Plan) : Prop where
  details : ∀ d ∈ plan.details, Admitted kit d
  buffs : ∀ b ∈ plan.buffs, AdmittedBuff b
  few : plan.details.length ≤ Plan.maxDetails

structure Writable (plan : Plan) : Prop where
  params : ∀ d ∈ plan.details, ∀ params ∈ d.params, ∀ field ∈ params, ScalarFits field.2
  sort : ∀ b ∈ plan.buffs, ∀ s ∈ b.sort, ∃ x, ofInteger s = .ok x
  data : ∀ b ∈ plan.buffs, ∀ entry ∈ b.data, ∀ x, entry.2 = .number x → isFinite x = true

theorem Writable.buff {plan : Plan} (writable : Writable plan) (b : Buff) (member : b ∈ plan.buffs) (admitted : AdmittedBuff b) :
    ExpressibleBuff b := by
  refine ⟨admitted.titled, writable.sort b member, admitted.cons, admitted.trace, admitted.check, admitted.distinct, ?_⟩
  rintro ⟨key, v⟩ among
  refine ⟨admitted.keys _ among, ?_⟩
  cases v with
  | number x => exact writable.data b member _ among x rfl
  | expression text => exact admitted.data _ among text rfl

theorem expressible_iff (kit : Kit) (plan : Plan) : ExpressiblePlan kit plan ↔ AdmittedPlan kit plan ∧ Writable plan := by
  constructor
  · intro expressible
    refine ⟨⟨fun d member => ?_, fun b member => ?_, expressible.few⟩, fun d member params given_ field among => ?_,
      fun b member => (expressible.buffs b member).sort, fun b member entry among x own => ?_⟩
    · have own := expressible.details d member
      exact ⟨own.titled, own.listed, own.pick, own.cons, fun params given_ =>
        ⟨(own.params params given_).1, fun field among => ((own.params params given_).2 field among).1⟩, own.check, own.raw⟩
    · have own := expressible.buffs b member
      exact ⟨own.titled, own.cons, own.trace, own.check, own.distinct, fun entry among => (own.data entry among).1,
        expressible_datum b own⟩
    · exact (((expressible.details d member).params params given_).2 field among).2
    · have value := ((expressible.buffs b member).data entry among).2
      rwa [own] at value
  · rintro ⟨admitted, writable⟩
    refine ⟨fun d member => ?_, fun b member => ?_, admitted.few⟩
    · have own := admitted.details d member
      exact ⟨own.titled, own.listed, own.pick, own.cons, fun params given_ =>
        ⟨(own.params params given_).1, fun field among =>
          ⟨(own.params params given_).2 field among, writable.params d member params given_ field among⟩⟩, own.check, own.raw⟩
    · exact writable.buff b member (admitted.buffs b member)

/-- The texts of a row stand three levels deeper in a script than alone. -/
structure DetailRoom (d : Detail) : Prop where
  check : ∀ text ∈ given d.check, HasRoom 3 text
  raw : ∀ text ∈ given d.raw, HasRoom 3 text

/-- The check of a buff stands three levels deeper in a script than alone, and its data four. -/
structure BuffRoom (b : Buff) : Prop where
  check : ∀ text ∈ given b.check, HasRoom 3 text
  data : ∀ entry ∈ b.data, ∀ text, entry.2 = .expression text → HasRoom 4 text

structure PlanRoom (plan : Plan) : Prop where
  details : ∀ d ∈ plan.details, DetailRoom d
  buffs : ∀ b ∈ plan.buffs, BuffRoom b

theorem room_plan_fits (kit : Kit) (plan : Plan) (expressible : ExpressiblePlan kit plan)
    (room : PlanRoom plan) : PlanFits 59 plan where
  details d member := by
    have own := expressible.details d member
    exact expressible_fits kit d own 60
      (fun text there => room_fits text (own.check text there) 3 (by decide) ((room.details d member).check text there))
      fun text there => room_fits text (own.raw text there) 3 (by decide) ((room.details d member).raw text there)
  buffs b member := by
    have own := expressible.buffs b member
    exact expressible_buff_fits b own 59
      (fun text there => room_fits text (own.check text there) 3 (by decide) ((room.buffs b member).check text there))
      fun entry among text there => room_fits text (expressible_datum b own entry among text there) 4 (by decide)
        ((room.buffs b member).data entry among text there)
  few := expressible.few

theorem deferred_room (text : String) (accepted : IsAccepted text) (d : Nat) (few : d ≤ 64)
    (within : (deferText text).ReadWithin (d + 1)) : HasRoom (64 - d) text := by
  have body := body_within (.verbatim text) _ (accepted_fits text accepted).shown within
  refine (verbatim_within text accepted (64 - d) (Nat.sub_le 64 d)).mpr ?_
  rwa [Nat.sub_sub_self few]

theorem detail_room (kit : Kit) (d : Detail) (n : Nat) (enough : 19 ≤ n) (fits : DetailFits n d)
    (check : ∀ text ∈ given d.check, IsAccepted text) (raw : ∀ text ∈ given d.raw, IsAccepted text) (e : Expr)
    (made : detailRecord kit d = .ok e) (within : e.ReadWithin 63) : DetailRoom d := by
  obtain ⟨params, paramsMade, deliver, -⟩ := parameters_deliver d n fits
  cases formula : Formula.ofDetail kit d with
  | error x =>
    unfold detailRecord at made
    rw [paramsMade, formula] at made
    cases made
  | ok amount =>
    obtain ⟨shown, -⟩ := damage_shown kit n d enough fits amount formula
    rw [detail_record_fields kit d params amount paramsMade formula] at made
    cases made
    have entries := present_entries (n + 1) 3 (detailFields d params amount) (detail_keys d params amount ▸ detail_keys_fine.2)
      (detail_fields_deliver n d (by omega) fits params amount deliver shown)
    have inside := entries_within _ entries within
    refine ⟨fun text own => ?_, fun text own => ?_⟩
    · have there : ("check", deferText text) ∈ Fields.present (detailFields d params amount) := by
        have own : given d.check = some text := own
        simp [Fields.present, detailFields, own]
      exact deferred_room text (check text own) 61 (by decide) (inside _ there)
    · rw [of_detail_raw kit d text own] at formula
      cases formula
      have there : ("dmg", deferText text) ∈ Fields.present (detailFields d params (.verbatim text)) := by
        simp [Fields.present, detailFields, deferText]
      exact deferred_room text (raw text own) 61 (by decide) (inside _ there)

theorem buff_room (b : Buff) (n : Nat) (fits : BuffFits n b) (check : ∀ text ∈ given b.check, IsAccepted text)
    (data : ∀ entry ∈ b.data, ∀ text, entry.2 = .expression text → IsAccepted text) (e : Expr)
    (made : buffRecord b = .ok e) (within : e.ReadWithin 63) : BuffRoom b := by
  obtain ⟨sort, converted, finite, -⟩ := sort_converts n b fits
  rw [buff_record_fields b sort converted] at made
  cases made
  have entries := present_entries (n + 2) 3 (buffFields b sort) (buff_keys b sort ▸ buff_keys_fine.2)
    (buff_fields_deliver n b fits sort finite)
  have inside := entries_within _ entries within
  refine ⟨fun text own => ?_, fun entry among text own => ?_⟩
  · have there : ("check", deferText text) ∈ Fields.present (buffFields b sort) := by
      have own : given b.check = some text := own
      simp [Fields.present, buffFields, own]
    exact deferred_room text (check text own) 61 (by decide) (inside _ there)
  · have there : ("data", Expr.record (dataEntries b)) ∈ Fields.present (buffFields b sort) := by
      simp [Fields.present, buffFields]
    have held := entries_within _ (data_entries_deliver n b fits) (inside _ there)
    obtain ⟨key, v⟩ := entry
    obtain rfl : v = .expression text := own
    have there' : (key, deferText text) ∈ dataEntries b := List.mem_map.mpr ⟨_, among, rfl⟩
    exact deferred_room text (data _ among text rfl) 60 (by decide) (held _ there')

theorem list_finite (es : List Expr) (finite : (Expr.list es).nonFinite? = none) : ∀ e ∈ es, e.nonFinite? = none := by
  simp only [Expr.nonFinite?] at finite
  induction es with
  | nil => nofun
  | cons e es ih =>
    simp only [Expr.nonFiniteInList?, Option.or_eq_none_iff] at finite
    exact List.forall_mem_cons.mpr ⟨finite.1, ih finite.2⟩

theorem record_finite (entries : List (String × Expr)) (finite : (Expr.record entries).nonFinite? = none) :
    ∀ entry ∈ entries, entry.2.nonFinite? = none := by
  simp only [Expr.nonFinite?] at finite
  induction entries with
  | nil => nofun
  | cons entry rest ih =>
    simp only [Expr.nonFiniteInEntries?, Option.or_eq_none_iff] at finite
    exact List.forall_mem_cons.mpr ⟨finite.1, ih finite.2⟩

theorem number_finite (x : Float) (finite : (Expr.number x).nonFinite? = none) : isFinite x = true := by
  simpa [Expr.nonFinite?] using finite

theorem fields_made (fields : Fields Json) (es : List (String × Expr)) (made : Expr.ofJsonFields fields = .ok es) :
    ∀ field ∈ fields, ∃ e, Expr.ofJson field.2 = .ok e ∧ (field.1, e) ∈ es := by
  induction fields generalizing es with
  | nil => nofun
  | cons field rest ih =>
    obtain ⟨key, j⟩ := field
    obtain ⟨e, first, made⟩ := bind_ok _ _ _ made
    obtain ⟨more, later, made⟩ := bind_ok _ _ _ made
    cases made
    intro other member
    rcases List.mem_cons.mp member with rfl | among
    · exact ⟨e, first, List.mem_cons_self⟩
    · obtain ⟨f, madeOther, there⟩ := ih more later other among
      exact ⟨f, madeOther, List.mem_cons_of_mem _ there⟩

theorem scalar_made (j : Json) (e : Expr) (made : Expr.ofJson j = .ok e) (finite : e.nonFinite? = none) : ScalarFits j := by
  cases j with
  | int n =>
    obtain ⟨x, converted, -⟩ := map_ok _ _ _ made
    exact ⟨x, converted⟩
  | float x =>
    cases made
    exact number_finite x finite
  | _ => trivial

theorem other_fits (j : Json) (other : isPlainParameter j ≠ true) : ScalarFits j := by
  cases j with
  | int n => exact absurd rfl other
  | float x => exact absurd rfl other
  | _ => trivial

theorem detail_record_made (kit : Kit) (d : Detail) (e : Expr) (made : detailRecord kit d = .ok e)
    (finite : e.nonFinite? = none) : ∀ params ∈ d.params, ∀ field ∈ params, ScalarFits field.2 := by
  intro params own field among
  by_cases plain : isPlainParameter field.2 = true
  · obtain ⟨fields, paramsMade, made⟩ := lifted_ok _ _ _ _ made
    obtain ⟨amount, -, made⟩ := bind_ok _ _ _ made
    cases made
    have own : d.params = some params := own
    unfold parametersOf at paramsMade
    rw [own] at paramsMade
    cases params with
    | nil => cases among
    | cons first rest =>
      obtain ⟨es, converted, shape⟩ := bind_ok _ _ _ paramsMade
      cases shape
      obtain ⟨e, scalar, there⟩ := fields_made _ es converted field (List.mem_filter.mpr ⟨among, plain⟩)
      have held := record_finite _ finite ("params", .record es) (by simp)
      exact scalar_made field.2 e scalar (record_finite es held _ there)
  · exact other_fits field.2 plain

theorem buff_record_made (b : Buff) (e : Expr) (made : buffRecord b = .ok e) (finite : e.nonFinite? = none) :
    (∀ s ∈ b.sort, ∃ x, ofInteger s = .ok x) ∧
      ∀ entry ∈ b.data, ∀ x, entry.2 = .number x → isFinite x = true := by
  obtain ⟨sort, converted, made⟩ := bind_ok _ _ _ made
  cases made
  constructor
  · intro s own
    have own : b.sort = some s := own
    rw [own] at converted
    obtain ⟨x, single, -⟩ := map_ok _ _ _ converted
    exact ⟨x, single⟩
  · rintro ⟨key, v⟩ among x rfl
    have held := record_finite _ finite ("data", .record (dataEntries b)) (by simp [dataEntries])
    exact number_finite x (record_finite (dataEntries b) held (key, .number x) (List.mem_map.mpr ⟨_, among, rfl⟩))

theorem rendered_writable (kit : Kit) (plan : Plan) (tag text : String) (rendered : render kit plan tag = .ok text) :
    Writable plan := by
  obtain ⟨p, details, buffs, -, assignments, rows, modifiers, finite⟩ := rendered_program kit plan tag text rendered
  rw [assignments] at finite
  have held := list_finite details (finite ⟨"details", .list details⟩ (by simp [planAssignments]))
  have held' := list_finite buffs (finite ⟨"buffs", .list buffs⟩ (by simp [planAssignments]))
  refine ⟨fun d member => ?_, fun b member => ?_, fun b member => ?_⟩
  · obtain ⟨e, among, made⟩ := map_m_each _ _ _ rows d member
    exact detail_record_made kit d e made (held e among)
  · obtain ⟨e, among, made⟩ := map_m_each _ _ _ modifiers b member
    exact (buff_record_made b e made (held' e among)).1
  · obtain ⟨e, among, made⟩ := map_m_each _ _ _ modifiers b member
    exact (buff_record_made b e made (held' e among)).2

theorem loads_parses (stack : Stack) (text : String) (loaded : LoadedScript) (loads : load stack text = .ok loaded) :
    ∃ script, parseScript text = .ok script := by
  unfold load at loads
  cases parsed : parseScript text with
  | ok script => exact ⟨script, rfl⟩
  | error fault => rw [parsed] at loads; cases loads

theorem parses_with_room (kit : Kit) (plan : Plan) (expressible : ExpressiblePlan kit plan)
    (tag text : String) (rendered : render kit plan tag = .ok text) :
    ((∃ script, parseScript text = .ok script) ↔ PlanRoom plan) ∧
      ((∃ script, parseScript text = .ok script) ∨ FailsDeep (parseScript text)) := by
  have fits := expressible_plan_fits kit plan expressible
  rcases plan_made kit plan tag 63 (by decide) fits with ⟨d, -, x, -, failed⟩ |
    ⟨header, details, buffs, rows, modifiers, rowsLoad, modifiersLoad, assignable, made⟩
  · rw [failed] at rendered
    cases rendered
  obtain rfl := Except.ok.inj (made.symm.trans rendered)
  refine ⟨⟨?_, fun room => ?_⟩, literals_settled _ _ assignable⟩
  -- one level each for the list and the record of a row, counted down from the 64 of a script
  · rintro ⟨script, parsed⟩
    have within := literals_within _ _ assignable script parsed
    have rowsWithin := items_within details (each_delivers _ _ rowsLoad)
      (within ⟨"details", .list details⟩ (by simp [planAssignments]))
    have modifiersWithin := items_within buffs (each_delivers _ _ modifiersLoad)
      (within ⟨"buffs", .list buffs⟩ (by simp [planAssignments]))
    constructor
    · intro d member
      obtain ⟨e, among, record⟩ := map_m_each _ _ _ rows d member
      have own := expressible.details d member
      exact detail_room kit d 64 (by decide) (fits.details d member) own.check own.raw e record (rowsWithin e among)
    · intro b member
      obtain ⟨e, among, record⟩ := map_m_each _ _ _ modifiers b member
      have own := expressible.buffs b member
      exact buff_room b 63 (fits.buffs b member) own.check (expressible_datum b own) e record (modifiersWithin e among)
  -- texts with room leave 59 levels to the values of the rows, so that the plan loads
  -- how deep the host nests does not matter to a parser
  · rcases plan_loads (.levels 0) kit plan tag 59 (by decide) (room_plan_fits kit plan expressible room) with
      ⟨d, -, x, -, failed⟩ | ⟨text, rendered, -, loads⟩
    · rw [failed] at made
      cases made
    · obtain rfl := Except.ok.inj (made.symm.trans rendered)
      obtain ⟨loaded, loads, -⟩ := loads (by decide)
      exact loads_parses _ _ loaded loads

/-- The script of a plan parses if and only if each of its texts has room in it; without room it is nested too deeply.
There is no script only for numbers that a script cannot hold, or for a row whose formula cannot be told. -/
theorem rendered_plan_parses (kit : Kit) (plan : Plan) (admitted : AdmittedPlan kit plan)
    (tag : String) :
    (∃ text, render kit plan tag = .ok text ∧ ((∃ script, parseScript text = .ok script) ↔ PlanRoom plan) ∧
      (¬PlanRoom plan → FailsDeep (parseScript text))) ∨
    ∃ e, render kit plan tag = .error e ∧
      (Writable plan → ∃ d ∈ plan.details, ∃ x, Formula.ofDetail kit d = .error x ∧ e = .ofFault kit.name x) := by
  cases rendered : render kit plan tag with
  | ok text =>
    have expressible := (expressible_iff kit plan).mpr ⟨admitted, rendered_writable kit plan tag text rendered⟩
    obtain ⟨room, settled⟩ := parses_with_room kit plan expressible tag text rendered
    exact .inl ⟨text, rfl, room, fun tight => settled.resolve_left fun parsed => tight (room.mp parsed)⟩
  | error e =>
    refine .inr ⟨e, rfl, fun writable => ?_⟩
    have fits := expressible_plan_fits kit plan ((expressible_iff kit plan).mpr ⟨admitted, writable⟩)
    rcases plan_made kit plan tag 63 (by decide) fits with ⟨d, member, x, untold, failed⟩ | ⟨_, _, _, -, -, -, -, -, made⟩
    · rw [failed] at rendered
      cases rendered
      exact ⟨d, member, x, untold, rfl⟩
    · rw [made] at rendered
      cases rendered

theorem sample_plan_parses : AdmittedPlan sampleKit samplePlan ∧ ∃ text script,
    render sampleKit samplePlan "by \"me\"" = .ok text ∧ parseScript text = .ok script := by
  have admitted := ((expressible_iff sampleKit samplePlan).mp sample_expressible).1
  have room : PlanRoom samplePlan := by
    refine ⟨fun d member => ⟨fun text own => ?_, fun text own => ?_⟩,
      fun b member => ⟨fun text own => ?_, fun entry among text own => ?_⟩⟩
    · simp only [samplePlan, List.mem_cons, List.not_mem_nil, or_false] at member
      rcases member with rfl | rfl
      · cases own
        decide +kernel
      · cases own
    · simp only [samplePlan, List.mem_cons, List.not_mem_nil, or_false] at member
      rcases member with rfl | rfl
      · cases own
        decide +kernel
      · cases own
    · simp only [samplePlan, List.mem_cons, List.not_mem_nil, or_false] at member
      subst member
      cases own
    · simp only [samplePlan, List.mem_cons, List.not_mem_nil, or_false] at member
      subst member
      simp only [List.mem_cons, List.not_mem_nil, or_false] at among
      rcases among with rfl | rfl
      · cases own
      · cases own
        decide +kernel
  refine ⟨admitted, ?_⟩
  rcases rendered_plan_parses sampleKit samplePlan admitted "by \"me\"" with
    ⟨text, rendered, parses, -⟩ | ⟨e, -, told⟩
  · obtain ⟨script, parsed⟩ := parses.mpr room
    exact ⟨text, script, rendered, parsed⟩
  · obtain ⟨d, member, x, failed, -⟩ := told ((expressible_iff sampleKit samplePlan).mp sample_expressible).2
    simp only [samplePlan, List.mem_cons, List.not_mem_nil, or_false] at member
    rcases member with rfl | rfl
    · cases failed
    · cases failed

def negations (n : Nat) : String := String.ofList (List.replicate n '!' ++ ['1'])

def negatedPlan : Plan where
  mainAttrs := "atk"
  details := [{ title := "Hit", talent := some "e", table := some "Skill DMG", check := some (negations 62) }]

theorem negated_admitted : AdmittedPlan sampleKit negatedPlan where
  details := by
    have accepted : IsAccepted (negations 62) := by decide +kernel
    intro d member
    simp only [negatedPlan, List.mem_cons, List.not_mem_nil, or_false] at member
    subst member
    refine ⟨by decide, fun _ => by decide, nofun, nofun, nofun, ?_, nofun⟩
    rintro text ⟨⟩
    exact accepted
  buffs := nofun
  few := by decide

theorem negated_writable : Writable negatedPlan where
  params d member params given_ := by
    simp only [negatedPlan, List.mem_cons, List.not_mem_nil, or_false] at member
    subst member
    cases given_
  sort := nofun
  data := nofun

/-- An accepted check that spoils the script of its plan. -/
theorem negated_check_spoils_script : acceptedExpression? (negations 62) = some (negations 62) ∧
    AdmittedPlan sampleKit negatedPlan ∧ ∃ text fault,
      render sampleKit negatedPlan "calcplan:heuristic" = .ok text ∧ parseScript text = .error fault := by
  have accepted : acceptedExpression? (negations 62) = some (negations 62) := by decide +kernel
  have tight : ¬HasRoom 3 (negations 62) := by decide +kernel
  refine ⟨accepted, negated_admitted, ?_⟩
  have expressible := (expressible_iff sampleKit negatedPlan).mpr ⟨negated_admitted, negated_writable⟩
  cases rendered : render sampleKit negatedPlan "calcplan:heuristic" with
  | ok text =>
    obtain ⟨room, settled⟩ := parses_with_room sampleKit negatedPlan expressible _ text rendered
    rcases settled with parsed | ⟨pos, deep⟩
    · exact absurd (((room.mp parsed).details _ List.mem_cons_self).check _ rfl) tight
    · exact ⟨text, _, rfl, deep⟩
  | error e =>
    have fits := expressible_plan_fits sampleKit negatedPlan expressible
    rcases plan_made sampleKit negatedPlan "calcplan:heuristic" 63 (by decide) fits with
      ⟨d, member, x, failed, -⟩ | ⟨_, _, _, -, -, -, -, -, made⟩
    · simp only [negatedPlan, List.mem_cons, List.not_mem_nil, or_false] at member
      subst member
      cases failed
    · rw [made] at rendered
      cases rendered

end DamagePlan.Render
