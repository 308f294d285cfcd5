import DamagePlan.Proofs.Json.Fields
import DamagePlan.Proofs.Render.Loads
import DamagePlan.Proofs.Script.Prefix

/-!
Every plan over the tables of a kit comes back from its script.
-/
set_option autoImplicit false

namespace DamagePlan.Render

open Script Decimal
open Legible (IsSafeKey)

def IsAccepted (text : String) : Prop := isContextExpression (Text.trim text) = true

instance (text : String) : Decidable (IsAccepted text) := inferInstanceAs (Decidable (_ = true))

structure Expressible (kit : Kit) (d : Detail) : Prop where
  titled : d.title ≠ ""
  listed : d.kind ≠ .reaction → kit.hasTable d.talent d.table = true
  pick : ∀ p ∈ d.pick, p ≤ 10
  cons : ∀ c ∈ d.cons, 1 ≤ c ∧ c ≤ 6
  params : ∀ params ∈ d.params, (params.map (·.1)).Nodup ∧ ∀ field ∈ params, IsSafeKey field.1 ∧ ScalarFits field.2
  check : ∀ text ∈ given d.check, IsAccepted text
  raw : ∀ text ∈ given d.raw, IsAccepted text

structure ExpressibleBuff (b : Buff) : Prop where
  titled : b.title ≠ ""
  sort : ∀ s ∈ b.sort, ∃ x, ofInteger s = .ok x
  cons : ∀ c ∈ b.constellation, 1 ≤ c ∧ c ≤ 6
  trace : ∀ t ∈ b.trace, 1 ≤ t ∧ t ≤ 10
  check : ∀ text ∈ given b.check, IsAccepted text
  distinct : (b.data.map (·.1)).Nodup
  data : ∀ entry ∈ b.data, IsSafeKey entry.1 ∧ match entry.2 with
    | .number x => isFinite x = true
    | .expression text => IsAccepted text

structure ExpressiblePlan (kit : Kit) (plan : Plan) : Prop where
  details : ∀ d ∈ plan.details, Expressible kit d
  buffs : ∀ b ∈ plan.buffs, ExpressibleBuff b
  few : plan.details.length ≤ Plan.maxDetails

theorem listed_talent (kit : Kit) (talent table : Option String)
    (listed : kit.hasTable talent table = true) : Formula.isTalent (talent.getD "") = true := by
  unfold Kit.hasTable at listed
  split at listed
  · rename_i t n
    simp only [Bool.and_eq_true, Kit.tablesOf, List.contains_iff_mem] at listed
    cases found : kit.tables.find? t with
    | none => simp [found] at listed
    | some names =>
      exact Formula.known_talent t (kit.talent_known (t, names) (Fields.found_entry _ _ _ found))
  · cases listed

theorem expressible_fits (kit : Kit) (d : Detail) (expressible : Expressible kit d) (n : Nat)
    (check : ∀ text ∈ given d.check, TextFits n text) (raw : ∀ text ∈ given d.raw, TextFits n text) : DetailFits n d where
  titled := expressible.titled
  talent other := listed_talent kit d.talent d.table (expressible.listed other)
  pick := expressible.pick
  cons c own := by
    have := expressible.cons c own
    omega
  params := expressible.params
  check := check
  raw := raw

theorem expressible_buff_fits (b : Buff) (expressible : ExpressibleBuff b) (n : Nat)
    (check : ∀ text ∈ given b.check, TextFits (n + 1) text)
    (data : ∀ entry ∈ b.data, ∀ text, entry.2 = .expression text → TextFits n text) : BuffFits n b where
  titled := expressible.titled
  sort := expressible.sort
  cons c own := by
    have := expressible.cons c own
    omega
  trace t own := by
    have := expressible.trace t own
    omega
  check := check
  distinct := expressible.distinct
  data := by
    rintro ⟨key, v⟩ member
    obtain ⟨safe, value⟩ := expressible.data (key, v) member
    refine ⟨safe, ?_⟩
    cases v with
    | number x => exact value
    | expression text => exact data _ member text rfl

theorem expressible_datum (b : Buff) (expressible : ExpressibleBuff b) (entry : String × BuffValue) (member : entry ∈ b.data)
    (text : String) (own : entry.2 = .expression text) : IsAccepted text := by
  have value := (expressible.data entry member).2
  rwa [own] at value

theorem expressible_plan_fits (kit : Kit) (plan : Plan)
    (expressible : ExpressiblePlan kit plan) : PlanFits 63 plan where
  details d member := expressible_fits kit d (expressible.details d member) 64
    (fun text own => (accepted_fits text ((expressible.details d member).check text own)).mono (by decide))
    fun text own => (accepted_fits text ((expressible.details d member).raw text own)).mono (by decide)
  buffs b member := expressible_buff_fits b (expressible.buffs b member) 63
    (fun text own => (accepted_fits text ((expressible.buffs b member).check text own)).mono (by decide))
    fun entry among text own =>
      accepted_fits text (expressible_datum b (expressible.buffs b member) entry among text own)
  few := expressible.few

/-- The script of a plan loads as the plan, or is nested too deeply. There is no script only for a row whose formula
cannot be told. -/
theorem rendered_plan_loads_back (stack : Stack) (kit : Kit) (plan : Plan)
    (expressible : ExpressiblePlan kit plan) (tag : String) :
    (∃ text, render kit plan tag = .ok text ∧
      ((∃ loaded, load stack text = .ok loaded ∧ PlanDecodes kit plan tag loaded) ∨ TooDeep stack text)) ∨
    ∃ d ∈ plan.details, ∃ x, Formula.ofDetail kit d = .error x ∧ render kit plan tag = .error (.ofFault kit.name x) := by
  have fits := expressible_plan_fits kit plan expressible
  rcases plan_loads stack kit plan tag 63 (by decide) fits with failed | ⟨text, rendered, outcome, -⟩
  · exact .inr failed
  · exact .inl ⟨text, rendered, outcome⟩

def sampleKit : Kit := { game := .gs, name := "x\n\"y\"", tables := [("e", ["Skill DMG", "Healing"])] }

def samplePlan : Plan where
  mainAttrs := "atk,\"#\""
  details := [
    { title := "Hit # 1", talent := some "e", table := some "Skill DMG", cons := some 2
      check := some "cons >= 2 # \"why\"\n && params.q", raw := some "dmg(num(talent.e[\"Skill DMG\"]), \"e\")"
      params := some [("q", .bool true), ("1st", .int (-3))] },
    { title := "Heal", kind := .heal, talent := some "e", table := some "Healing" }]
  buffs := [{ title := "C1\r", sort := some 4, constellation := some 1
              data := [("atkPct", .number (-12.5)), ("cpct", .expression "cons > 1 ? 10 : 5")] }]

theorem sample_expressible : ExpressiblePlan sampleKit samplePlan where
  details := by
    intro d member
    simp only [samplePlan, List.mem_cons, List.not_mem_nil, or_false] at member
    rcases member with rfl | rfl
    · refine ⟨by decide, fun _ => by decide, nofun, by simp, ?_, ?_, ?_⟩
      · have safe : IsSafeKey "q" ∧ IsSafeKey "1st" := by decide +kernel
        have converts : ∃ x, ofInteger (-3) = .ok x := ⟨_, rfl⟩
        rintro params ⟨⟩
        refine ⟨by decide, fun field member => ?_⟩
        simp only [List.mem_cons, List.not_mem_nil, or_false] at member
        rcases member with rfl | rfl
        · exact ⟨safe.1, trivial⟩
        · exact ⟨safe.2, converts⟩
      · rintro text ⟨⟩
        decide +kernel
      · rintro text ⟨⟩
        decide +kernel
    · exact ⟨by decide, fun _ => by decide, nofun, nofun, nofun, nofun, nofun⟩
  buffs := by
    intro b member
    simp only [samplePlan, List.mem_cons, List.not_mem_nil, or_false] at member
    subst member
    refine ⟨by decide, ?_, by simp, nofun, nofun, by decide, ?_⟩
    · rintro s ⟨⟩
      exact ⟨_, rfl⟩
    · have safe : IsSafeKey "atkPct" ∧ IsSafeKey "cpct" := by decide +kernel
      have finite : isFinite (-12.5) = true := by decide +kernel
      have accepted : IsAccepted "cons > 1 ? 10 : 5" := by decide +kernel
      simp [safe, finite, accepted]
  few := by decide

theorem sample_plan_loads_back : ∃ text, render sampleKit samplePlan "by \"me\"" = .ok text ∧
    ((∃ loaded, load (.levels 200) text = .ok loaded ∧ PlanDecodes sampleKit samplePlan "by \"me\"" loaded) ∨
      TooDeep (.levels 200) text) := by
  rcases rendered_plan_loads_back (.levels 200) sampleKit samplePlan sample_expressible "by \"me\"" with
    loaded | ⟨d, member, x, failed, -⟩
  · exact loaded
  · simp only [samplePlan, List.mem_cons, List.not_mem_nil, or_false] at member
    rcases member with rfl | rfl
    · cases failed
    · cases failed

theorem exports_loaded (scope : Scope) (marks : Nat) (script : LoadedScript)
    (loaded : loadExports scope marks = .ok script) :
    (∃ code, Value.field scope "game" = .string code ∧ Game.ofCode? code = some script.game) ∧
      textExport scope "defDmgKey" = .ok script.defaultKey ∧ textExport scope "mainAttr" = .ok script.mainAttr ∧
      textExport scope "createdBy" = .ok script.createdBy ∧
      (∃ records, recordsOf? (Value.field scope "details") = some records ∧
        indexExport (Value.field scope "defDmgIdx") records.length = .ok script.defaultIndex ∧
        loadEach loadDetail 0 records = .ok script.details) ∧
      ∃ records, recordsOf? (Value.field scope "buffs") = some records ∧ loadEach loadBuff 0 records = .ok script.buffs := by
  unfold loadExports at loaded
  dsimp only at loaded
  split at loaded
  · cases loaded
  split at loaded
  · rename_i code exported
    split at loaded
    · rename_i game known
      obtain ⟨game, named, loaded⟩ := bind_ok _ _ _ loaded
      cases named
      split at loaded
      · split at loaded
        · rename_i records areRecords _ buffs areBuffs
          obtain ⟨key, keyed, loaded⟩ := bind_ok _ _ _ loaded
          obtain ⟨mainAttr, scaled, loaded⟩ := bind_ok _ _ _ loaded
          obtain ⟨tag, marked, loaded⟩ := bind_ok _ _ _ loaded
          obtain ⟨index, placed, loaded⟩ := bind_ok _ _ _ loaded
          obtain ⟨rows, rowsLoad, loaded⟩ := bind_ok _ _ _ loaded
          obtain ⟨modifiers, modifiersLoad, loaded⟩ := bind_ok _ _ _ loaded
          cases loaded
          exact ⟨⟨code, exported, known⟩, keyed, scaled, marked, ⟨records, areRecords, placed, rowsLoad⟩, buffs,
            areBuffs, modifiersLoad⟩
        · cases loaded
      · cases loaded
    · cases loaded
  · cases loaded

theorem rendered_origin (stack : Stack) (kit : Kit) (plan : Plan) (tag text : String)
    (rendered : render kit plan tag = .ok text) (script : LoadedScript) (loaded : load stack text = .ok script) :
    script.game = kit.game ∧ script.createdBy = tag := by
  obtain ⟨p, details, buffs, rfl, assignments, -⟩ := rendered_program kit plan tag text rendered
  have origin : List.Forall₂ AssignsConveying [⟨"game", .string kit.game.code⟩, ⟨"createdBy", .string tag⟩]
      [⟨"game", .string kit.game.code⟩, ⟨"createdBy", .string tag⟩] :=
    .cons (text_assignable 0 "game" (by decide) _).conveys (.cons (text_assignable 0 "createdBy" (by decide) _).conveys .nil)
  obtain ⟨later, marks, exports⟩ := script_exports stack p _ _ _ ⟨"mainAttr", .string plan.mainAttrs⟩ assignments
    (required_free "mainAttr" (by decide)).1 origin (by simp) script loaded
  obtain ⟨⟨code, exported, known⟩, -, -, marked, -⟩ := exports_loaded _ _ _ exports
  cases exported
  cases marked
  rw [Game.ofCode?_code, Option.some.injEq] at known
  exact ⟨known.symm, rfl⟩

end DamagePlan.Render
