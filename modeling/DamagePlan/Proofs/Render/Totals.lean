import DamagePlan.Proofs.Refine.Whitelist
import DamagePlan.Proofs.Render.Multiples
import DamagePlan.Proofs.Text.Matching

/-!
Totals of several hits: a total that a description states gives a multiple of what its row gives, and a total of a table
that holds a count of hits calls the engine as its row does, for the amount of all hits.
-/
set_option autoImplicit false

namespace DamagePlan.Enrichment

open Formula (totalMarker)

theorem total_title_marked (title : String) : totalMarker.occursIn (totalTitle title none) = true := by
  unfold totalTitle totalMarker
  split
  · refine Text.Pattern.any_text_occurs _ "总" (by decide) _ ['总'] "伤害".toList ?_ _ String.toList_append
    have letters : "总".toList = ['总'] := rfl
    rw [letters]
    exact .cons (by decide) .nil
  · refine Text.Pattern.any_text_occurs _ "total" (by decide) (title.toList ++ [' ']) "Total".toList [] ?_ _ ?_
    · have folds : ∀ pair ∈ "total".toList.zip "Total".toList, Text.foldsTo pair.1 pair.2 = true := by decide
      exact List.forall₂_iff_zip.mpr ⟨by decide, fun {a b} member => folds (a, b) member⟩
    · simp

theorem may_have_total_plain (d : Detail) (may : mayHaveTotal d = true) :
    Detail.isGiven d.raw = false ∧ Detail.isGiven d.element = false ∧ totalMarker.occursIn d.title = false := by
  simp only [mayHaveTotal, isPlainDamage, Bool.and_eq_true, Bool.not_eq_true'] at may
  obtain ⟨⟨⟨⟨⟨-, unwritten⟩, -⟩, -⟩, bare⟩, unmarked⟩ := may
  exact ⟨unwritten, bare, unmarked⟩

end DamagePlan.Enrichment

namespace DamagePlan.Formula

open Script

section Counted

variable {game : Game} {talents attrs : List (String × Value)} {engine : Engine} {scope : Scope} {e : Expr} {total : Float}
  {v : TableValue}

theorem call_without_element (row : DamageRow) (bare : Detail.isGiven row.element = false) (title : String) (stat : String)
    (amount : Float) : { row with element := none, pick := none, title }.callIn game stat total amount =
      row.callIn game stat total amount := by
  obtain ⟨talent, table, key, element, pick, scaleStat, title⟩ := row
  cases element with
  | none => rfl
  | some e =>
    obtain rfl : e = "" := by simpa [Detail.isGiven] using bare
    rfl

theorem counted_damage_engages (recorded : Recorded game talents attrs engine scope) (kit : Kit) (base : Detail)
    (bare : Detail.isGiven base.element = false) (title schemaStat : String)
    (shaped : Scaling.schema kit (base.talent.getD "") (base.table.getD "") = .ok (some (.statTimes schemaStat)))
    (holds : Holds talents (base.talent.getD "") (base.table.getD "") v) (stat : String)
    (told : (damageRowOf base).stat kit = .ok stat)
    (totals : overAttack stat schemaStat ≠ "atk" → HasTotal (Value.field attrs (overAttack stat schemaStat)) total)
    (made : Enrichment.tableDamageOf kit base title = .ok e) :
    Engages (evaluate engine scope e) ((damageRowOf base).callIn game (overAttack stat schemaStat) total
      (if totalMarker.occursIn title && v.isList then v.part 0 * v.part 1 else v.part 0)) := by
  rw [← call_without_element (damageRowOf base) bare title]
  let row : DamageRow := { damageRowOf base with element := none, pick := none, title }
  have shape : e = row.scaled (if totalMarker.occursIn row.title then
      times (row.part 0) (.conditional (isList (tableRef row.talent row.table)) (row.part 1) (.natural 1))
      else row.part 0) (overAttack stat schemaStat) := by
    have whole : tableDamage kit row = .ok (damageAs row stat (some (.statTimes schemaStat))) :=
      (table_damage_ok_iff kit row _).mpr (.shaped stat _ told rfl shaped)
    exact Except.ok.inj (made.symm.trans whole)
  rw [shape]
  exact scaled_damage_engages recorded row totals (counted_amount_finds recorded row holds)

end Counted

end DamagePlan.Formula

namespace DamagePlan.Render

open Script
open Enrichment (totalRow totalTitle tableDamageOf statedHits? IsTotal)
open Formula (Holds DamageRow damageRowOf)

def CallsOnce (context : Context) (row : LoadedDetail) (call : EngineCall) : Prop :=
  ∃ entry v after, context.invoke row.damage.1 row.damage.2 = (.ok v, after) ∧ after.calls = [entry] ∧
    IsLogged call entry v

def Multiplies (n : Float) (row row' : LoadedDetail) : Prop :=
  ∀ (game : Game) (talent attr params : Value) (cons : Numeral) (weapon trees : Value) (element currentTalent : String)
    (marks marks' : Nat) (v : Value) (after : Trace) (d a : Float),
    let context := Context.recording game talent attr params cons weapon trees element currentTalent
    { context with marks := marks }.invoke row.damage.1 row.damage.2 = (.ok v, after) → IsResult v d a →
      ∃ w after', { context with marks := marks' }.invoke row'.damage.1 row'.damage.2 = (.ok w, after') ∧
        IsResult w (d * n) (a * n)

/-- Over given data of a table, a loaded row calls the engine once for the first part of the table, and another one does
so for the product of the first two parts, if the table holds a list. -/
def CountsHits (base : Detail) (stat : String) (row row' : LoadedDetail) : Prop :=
  ∀ (game : Game) (talents attrs : List (String × Value)) (v : TableValue) (total : Float) (params : Value) (cons : Numeral)
    (weapon trees : Value) (element currentTalent : String) (marks : Nat),
    Holds talents (base.talent.getD "") (base.table.getD "") v →
    (stat ≠ "atk" → HasTotal (Value.field attrs stat) total) →
      let recording := Context.recording game (.record talents) (.record attrs) params cons weapon trees element currentTalent
      let context := { recording with marks := marks }
      let call := (damageRowOf base).callIn game stat total
      CallsOnce context row (call (v.part 0)) ∧
        CallsOnce context row' (call (if v.isList then v.part 0 * v.part 1 else v.part 0))

theorem engages_once (context : Context) (row : LoadedDetail) (call : EngineCall)
    (engages : Engages (Script.invoke context.engine context.bindings row.damage.1 row.damage.2) call) :
    CallsOnce context row call := by
  obtain ⟨entry, v, after, ran, logged, isLogged⟩ := engages { marks := context.marks }
  exact ⟨entry, v, after, ran, logged, isLogged⟩

theorem given_text (text : String) (filled : text ≠ "") : given (some text) = some text := by
  simp [given, filled]

theorem not_given (text? : Option String) (bare : Detail.isGiven text? = false) : given text? = none := by
  cases text? with
  | none => rfl
  | some text => simpa [given, Detail.isGiven] using bare

theorem composite_row {kit : Kit} {scope : Scope} {d : Detail} {row : LoadedDetail} {e : Expr} (composite : Formula.Composite e)
    (own : d.raw = some e.plainText) (isRow : IsRow kit scope d row) : row.damage = (e, scope) := by
  have filled : given d.raw = some e.plainText := by rw [own, given_text _ composite.filled]
  rw [written_row filled isRow, composite.fits.2]

theorem derived_presentable {d derived : Detail} (presentable : Presentable d) (made : Enrichment.IsDerived d derived) :
    Presentable derived := by
  obtain ⟨title, e, titled, composite, rfl⟩ := made
  refine { presentable with titled, pick := nofun, raw := fun text there => ?_ }
  cases given_among _ text there
  exact composite_is_accepted e composite

theorem composite_plan_loads (stack : Stack) (kit : Kit) (plan : Plan) (presentable : PresentablePlan plan)
    (simple : ∀ d ∈ plan.details, d.params = none ∧ given d.check = none)
    (formulas : ∀ d ∈ plan.details, given d.raw = none ∧ (Formula.ofDetail kit d).isOk = true ∨
      ∃ e, Formula.Composite e ∧ d.raw = some e.plainText) (buffs : plan.buffs = []) (tag : String) :
    ∃ text loaded, render kit plan tag = .ok text ∧ load stack text = .ok loaded := by
  have shown : ∀ d ∈ plan.details, (∀ text ∈ given d.raw, TextFits 60 text) ∧ (Formula.ofDetail kit d).isOk = true := by
    intro d member
    rcases formulas d member with ⟨unwritten, made⟩ | ⟨e, composite, own⟩
    · exact ⟨by simp [unwritten], made⟩
    · have written : given d.raw = some e.plainText := by rw [own, given_text _ composite.filled]
      refine ⟨fun text there => ?_, by rw [of_detail_raw kit d _ written]; rfl⟩
      rw [written] at there
      cases there
      exact composite.fits.1.mono (by decide)
  have fits : PlanFits 59 plan := by
    refine ⟨fun d member => ?_, by simp [buffs], presentable.few⟩
    have own := (presentable.details d member).fits
    obtain ⟨params, check⟩ := simple d member
    exact { own with params := by simp [params], check := by simp [check], raw := (shown d member).1 }
  rcases plan_loads stack kit plan tag 59 (by decide) fits with ⟨d, member, x, failed, -⟩ | ⟨text, rendered, -, loads⟩
  · have made := (shown d member).2
    rw [failed] at made
    cases made
  · obtain ⟨loaded, loads, -⟩ := loads (by decide)
    exact ⟨text, loaded, rendered, loads⟩

theorem total_base_row {kit : Kit} {scope : Scope} {base : Detail} {row : LoadedDetail} (presentable : Presentable base)
    (may : Enrichment.mayHaveTotal base = true) (isRow : IsRow kit scope base row) :
    ∃ e, tableDamageOf kit base base.title = .ok e ∧ row.damage = (e, scope) := by
  obtain ⟨damage, unpicked⟩ := Enrichment.may_have_total base may
  obtain ⟨unwritten, bare, -⟩ := Enrichment.may_have_total_plain base may
  obtain ⟨e, made, own⟩ := formula_row presentable (not_given _ unwritten) isRow
  refine ⟨e, ?_, own⟩
  rw [Formula.ofDetail.formula, damage] at made
  have whole : { damageRowOf base with element := none, pick := none, title := base.title } =
      { damageRowOf base with element := none } := by simp [damageRowOf, unpicked]
  rw [tableDamageOf, whole, Formula.table_damage_without_element kit (damageRowOf base) bare]
  exact made

/-- In a loaded script, the total of hits that a description states gives that many times what its row gives, and the total
of a table that holds the count of hits makes the call of its row for all of them. -/
theorem multi_hit_total_multiplies_base (stack : Stack) (kit : Kit) (plan : Plan) (presentable : PresentablePlan plan)
    (tag text : String) (rendered : render kit plan tag = .ok text) (loaded : LoadedScript)
    (loads : load stack text = .ok loaded) (i j : Nat)
    (base total : Detail) (atBase : plan.details[i]? = some base) (atTotal : plan.details[j]? = some total)
    (derived : totalRow kit base = .ok (some total)) :
    ∃ row row', loaded.details[i]? = some row ∧ loaded.details[j]? = some row' ∧
      ((∃ n, statedHits? kit base = .ok (some n) ∧ 2 ≤ n ∧ n ≤ 60 ∧ Multiplies (Float.ofNat n) row row') ∨
        ∃ schemaStat stat, Scaling.schema kit (base.talent.getD "") (base.table.getD "") = .ok (some (.statTimes schemaStat)) ∧
          (damageRowOf base).stat kit = .ok stat ∧ CountsHits base (Formula.overAttack stat schemaStat) row row') := by
  obtain ⟨-, -, rows⟩ := presented_rows stack kit plan presentable tag text rendered loaded loads
  obtain ⟨row, there, isRow⟩ := paired_at _ _ rows i base atBase
  obtain ⟨row', there', isRow'⟩ := paired_at _ _ rows j total atTotal
  refine ⟨row, row', there, there', ?_⟩
  obtain ⟨may, shape⟩ := Enrichment.total_row_cases kit base total derived
  obtain ⟨damage, -⟩ := Enrichment.may_have_total base may
  obtain ⟨-, bare, unmarked⟩ := Enrichment.may_have_total_plain base may
  have own := presentable.details base (List.mem_of_getElem? atBase)
  have named := own.named (by simp [damage])
  obtain ⟨e, made, body⟩ := total_base_row own may isRow
  cases shape with
  | stated n x said found =>
    obtain rfl : e = x := Except.ok.inj (made.symm.trans found)
    obtain ⟨low, few⟩ := Enrichment.stated_hits_few kit base n said
    obtain ⟨writable, composite⟩ := Enrichment.table_damage_of_composite kit base named _ e made
    have body' := composite_row (Formula.scaled_result_composite writable composite n few) rfl isRow'
    refine .inl ⟨n, said, low, few, ?_⟩
    intro game talent attr params cons weapon trees element currentTalent marks marks' v after d a context ran result
    rw [body] at ran
    have again := result_again (Formula.table_damage_equations kit _ e made) _ after v ran result
    obtain ⟨w, after', ran', result', -⟩ := scaled_result_runs again (fun _ _ _ holds => holds) (Float.ofNat n)
      { marks := marks' }
    rw [body']
    exact ⟨w, after', ran', result'⟩
  | counted schemaStat x shaped found =>
    have composite := (Enrichment.table_damage_of_composite kit base named _ x found).2
    have body' := composite_row composite rfl isRow'
    obtain ⟨stat, told, -⟩ := lifted_ok _ _ _ _ (made : Formula.tableDamage kit _ = .ok e)
    refine .inr ⟨schemaStat, stat, shaped, told, ?_⟩
    intro game talents attrs v total params cons weapon trees element currentTalent marks holds totals recording context call
    have recorded := recording_recorded game talents attrs params cons weapon trees element currentTalent
      (headExports kit plan tag)
    have one := Formula.counted_damage_engages recorded kit base bare _ schemaStat shaped holds stat told totals made
    have all := Formula.counted_damage_engages recorded kit base bare _ schemaStat shaped holds stat told totals found
    rw [unmarked] at one
    rw [Enrichment.total_title_marked] at all
    exact ⟨engages_once context row _ (body ▸ one), engages_once context row' _ (body' ▸ all)⟩

def voltKit : Kit :=
  { game := .gs, name := "X", tables := [("q", ["Volt DMG"])],
    textSamples := [("q", [("Volt DMG", "80%ATK*3")])], samples := [("q", [("Volt DMG", .arr [.int 80, .int 3])])] }

def voltRow : Detail := { title := "Volt", talent := some "q", table := some "Volt DMG" }

def voltPlan (total : Detail) : Plan := { mainAttrs := "atk", details := [voltRow, total] }

def voltTalents : List (String × Value) := [("q", .record [("Volt DMG", (TableValue.list [80, 3]).value)])]

def voltContext : Context := .recording .gs (.record voltTalents) (.record []) (.record []) .zero .null .null "" ""

theorem volt_presentable : Presentable voltRow :=
  ⟨by decide, fun _ => by decide, nofun, nofun, nofun, nofun⟩

theorem volt_holds : Holds voltTalents "q" "Volt DMG" (.list [80, 3]) where
  given := ⟨_, rfl, rfl⟩
  finite := by
    have finite : ∀ x ∈ [80, 3], Decimal.isFinite x = true := by decide
    exact finite

theorem volt_total : ∃ total, totalRow voltKit voltRow = .ok (some total) := by
  obtain ⟨made, derived, some⟩ := evaluated_ok (totalRow voltKit voltRow) Option.isSome true (by decide)
  obtain ⟨total, rfl⟩ := Option.isSome_iff_exists.mp some
  exact ⟨total, derived⟩

theorem volt_plan_loads (total : Detail) (derived : totalRow voltKit voltRow = .ok (some total)) :
    PresentablePlan (voltPlan total) ∧
      ∃ text loaded, render voltKit (voltPlan total) "calcplan" = .ok text ∧ load (.levels 200) text = .ok loaded := by
  have made := (Enrichment.total_row_derived voltKit voltRow total (fun _ => by decide) derived).2
  have rows : ∀ d ∈ (voltPlan total).details, d = voltRow ∨ d = total := by simp [voltPlan]
  have presentable : PresentablePlan (voltPlan total) := by
    refine ⟨fun d member => ?_, by simp [voltPlan, Plan.maxDetails]⟩
    rcases rows d member with rfl | rfl
    · exact volt_presentable
    · exact derived_presentable volt_presentable made
  refine ⟨presentable, composite_plan_loads (.levels 200) voltKit _ presentable (fun d member => ?_) (fun d member => ?_) rfl "calcplan"⟩
  · rcases rows d member with rfl | rfl
    · exact ⟨rfl, rfl⟩
    · obtain ⟨title, e, -, -, rfl⟩ := made
      exact ⟨rfl, rfl⟩
  · rcases rows d member with rfl | rfl
    · exact .inl ⟨rfl, by decide⟩
    · obtain ⟨title, e, -, composite, rfl⟩ := made
      exact .inr ⟨e, composite, rfl⟩

theorem volt_total_counts_hits : ∃ total, totalRow voltKit voltRow = .ok (some total) ∧ PresentablePlan (voltPlan total) ∧
    ∃ text loaded row row', render voltKit (voltPlan total) "calcplan" = .ok text ∧ load (.levels 200) text = .ok loaded ∧
      loaded.details[0]? = some row ∧ loaded.details[1]? = some row' ∧
      CallsOnce voltContext row (.amount .dmg 80 [.string "q", .null]) ∧
      CallsOnce voltContext row' (.amount .dmg (80 * 3) [.string "q", .null]) := by
  obtain ⟨total, derived⟩ := volt_total
  obtain ⟨presentable, text, loaded, rendered, loads⟩ := volt_plan_loads total derived
  obtain ⟨row, row', there, there', shape⟩ := multi_hit_total_multiplies_base (.levels 200) voltKit (voltPlan total) presentable "calcplan"
    text rendered loaded loads 0 1 voltRow total rfl rfl derived
  refine ⟨total, derived, presentable, text, loaded, row, row', rendered, loads, there, there', ?_⟩
  rcases shape with ⟨n, said, -⟩ | ⟨stat, own, counted, told, counts⟩
  · have silent : (statedHits? voltKit voltRow).toOption = some none := by decide
    rw [said] at silent
    cases silent
  · have shaped : (Scaling.schema voltKit "q" "Volt DMG").toOption = some (some (.statTimes "atk")) := by decide
    obtain rfl : stat = "atk" := by
      change Scaling.schema voltKit "q" "Volt DMG" = _ at counted
      rw [counted] at shaped
      cases shaped
      rfl
    have scales : Formula.overAttack own "atk" = "atk" := by
      have attack : ((damageRowOf voltRow).stat voltKit).toOption = some "atk" := by decide
      rw [told] at attack
      cases attack
      decide
    have calls := counts .gs voltTalents [] (.list [80, 3]) 0 (.record []) .zero .null .null "" "" 0 volt_holds
      (absurd scales)
    rw [scales] at calls
    exact calls

end DamagePlan.Render
