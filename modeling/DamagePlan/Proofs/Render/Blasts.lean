import DamagePlan.Proofs.Refine.Pairs
import DamagePlan.Proofs.Render.Totals

/-!
Totals of all targets: the complete row of a main target and its neighbours calls the engine for the part of the main
target and twice the part of a neighbour, as often as the description says.
-/
set_option autoImplicit false

namespace DamagePlan.Enrichment

def repeatsOf (kit : Kit) (d : Detail) : Except Decimal.IntegerTooLong Nat :=
  HitCount.repeats ((kit.descriptions.find? (d.talent.getD "")).getD "")

theorem pick_small (pick : Option Nat) (low : ∀ p ∈ pick, p ≤ 10) : pick.getD 0 ≤ 10 := by
  cases pick with
  | none => decide
  | some p => exact low p rfl

end DamagePlan.Enrichment

namespace DamagePlan.Formula

open Script

section Combined

variable {game : Game} {talents attrs : List (String × Value)} {engine : Engine} {scope : Scope} {total : Float}
  {first second : TableValue}

def blastWorth (adjacent main : Detail) (first second : TableValue) : Float :=
  first.part (main.pick.getD 0) + second.part (adjacent.pick.getD 0) * 2

theorem blast_amount_finds (recorded : Recorded game talents attrs engine scope) (adjacent main : Detail)
    (low : ∀ p ∈ adjacent.pick, p ≤ 10) (low' : ∀ p ∈ main.pick, p ≤ 10)
    (holds : Holds talents (main.talent.getD "") (main.table.getD "") first)
    (holds' : Holds talents (main.talent.getD "") (adjacent.table.getD "") second) :
    Finds engine scope (Enrichment.blastAmount adjacent main (main.talent.getD "")) (Counts (blastWorth adjacent main first second)) := by
  have one := table_part_finds recorded holds _ (natural_position _ (Enrichment.pick_small main.pick low'))
  have other := table_part_finds recorded holds' _ (natural_position _ (Enrichment.pick_small adjacent.pick low))
  have twice : Finds engine scope (.natural 2) (Counts 2) := finds_number 2
  exact plus_finds one (times_finds other twice)

end Combined

theorem call_in_amount (row : DamageRow) (game : Game) (stat : String) (total amount : Float) :
    ∃ h x further, row.callIn game stat total amount = .amount h x further := by
  unfold DamageRow.callIn
  split
  · exact ⟨.dmg, _, _, rfl⟩
  · exact ⟨.dmgBasic, _, _, rfl⟩

end DamagePlan.Formula

namespace DamagePlan.Render

open Script
open Enrichment (blastPair? blastGroups completeRow repeatsOf scaledResult)
open Formula (Holds damageRowOf blastWorth)

def Repeats (context : Context) (row : LoadedDetail) (call : EngineCall) (n : Float) : Prop :=
  ∃ entry entry' v v' w after d a, context.invoke row.damage.1 row.damage.2 = (.ok w, after) ∧
    after.calls = [entry, entry'] ∧ IsLogged call entry v ∧ IsLogged call entry' v' ∧ IsResult v d a ∧
    IsResult w (d * n) (a * n)

/-- Over given data of two tables, a loaded row calls the engine for the part of a main target and twice the part of a
neighbour, at a stat: once, or for a multiple of the answer. -/
def CombinesBlast (stat : String) (n : Nat) (adjacent main : Detail) (row : LoadedDetail) : Prop :=
  ∀ (game : Game) (talents attrs : List (String × Value)) (first second : TableValue) (total : Float) (params : Value)
    (cons : Numeral) (weapon trees : Value) (element currentTalent : String) (marks : Nat),
    Holds talents (main.talent.getD "") (main.table.getD "") first →
    Holds talents (main.talent.getD "") (adjacent.table.getD "") second →
    (stat ≠ "atk" → HasTotal (Value.field attrs stat) total) →
      let recording := Context.recording game (.record talents) (.record attrs) params cons weapon trees element currentTalent
      let context := { recording with marks := marks }
      let call := (damageRowOf main).callIn game stat total (blastWorth adjacent main first second)
      (n = 1 ∧ CallsOnce context row call) ∨ 2 ≤ n ∧ n ≤ 6 ∧ Repeats context row call (Float.ofNat n)

theorem repeated_call_runs (context : Context) (row : LoadedDetail) (e : Expr) (scope : Scope) (h : Helper) (x : Float)
    (further : List Value) (n : Float) (body : row.damage = (scaledResult e n, scope))
    (engages : Engages (evaluate context.engine (Scope.overlay scope context.bindings) e) (.amount h x further)) :
    Repeats context row (.amount h x further) n := by
  have runs := scaled_result_runs (d := x) (a := x) (engages_runs engages)
    (fun calls v calls' ⟨entry, logged, isLogged⟩ => isLogged.result) n
  obtain ⟨w, after, ran, result, v, between, v', ⟨entry, first, isLogged⟩, entry', second, isLogged'⟩ :=
    runs { marks := context.marks }
  refine ⟨entry, entry', v, v', w, after, x, x, ?_, ?_, isLogged, isLogged', isLogged.result, result⟩
  · rw [body]
    exact ran
  · rw [second, first]
    rfl

/-- A loaded row that was derived from a main target and its neighbours combines their tables in one call, which it makes
once, or twice for a multiple of the answer where the description says that the hit repeats. -/
theorem complete_row_combines_blast (stack : Stack) (kit : Kit) (plan : Plan) (presentable : PresentablePlan plan) (tag text : String)
    (rendered : render kit plan tag = .ok text) (loaded : LoadedScript) (loads : load stack text = .ok loaded) (b : Budget)
    (rows : ∀ r ∈ b.rows, Presentable r.detail) (groups : List (List Row)) (grouped : blastGroups b.rows = .ok groups)
    (group : List Row) (member : group ∈ groups) (adjacent main : Row) (found : blastPair? group = some (adjacent, main))
    (complete : Detail) (derived : completeRow kit adjacent.detail main.detail = .ok complete) (i : Nat)
    (there : plan.details[i]? = some complete) :
    ∃ row stat n, loaded.details[i]? = some row ∧ (damageRowOf main.detail).stat kit = .ok stat ∧
      repeatsOf kit main.detail = .ok n ∧ CombinesBlast stat n adjacent.detail main.detail row := by
  obtain ⟨-, -, shown⟩ := presented_rows stack kit plan presentable tag text rendered loaded loads
  obtain ⟨row, thereLoaded, isRow⟩ := paired_at _ _ shown i _ there
  obtain ⟨near, far, -⟩ := Enrichment.blast_pair_among group adjacent main found
  obtain ⟨mainThere, damage⟩ := Enrichment.blast_group_among b.rows groups grouped group member main far
  obtain ⟨adjacentThere, -⟩ := Enrichment.blast_group_among b.rows groups grouped group member adjacent near
  have named := (rows main mainThere).named (by simp [damage])
  have low := (rows adjacent adjacentThere).pick
  have low' := (rows main mainThere).pick
  obtain ⟨e, made, rfl⟩ := map_ok _ _ _ derived
  have body := composite_row (Enrichment.blast_composite kit _ _ named low low' e made) rfl isRow
  obtain ⟨stat, description, told, read, shape⟩ := Enrichment.blast_expr_ok kit _ _ e made
  refine ⟨row, stat, HitCount.repeatsIn description, thereLoaded, told, by rw [repeatsOf, HitCount.repeats, read]; rfl, ?_⟩
  intro game talents attrs first second total params cons weapon trees element currentTalent marks holds holds' totals
    recording context call
  have recorded := recording_recorded game talents attrs params cons weapon trees element currentTalent
    (headExports kit plan tag)
  have amount := Formula.blast_amount_finds recorded adjacent.detail main.detail low low' holds holds'
  have combined := Formula.scaled_damage_engages recorded (damageRowOf main.detail) totals amount
  rw [shape] at body
  rcases Enrichment.repeats_bounds description with once | ⟨twice, few⟩
  · refine .inl ⟨once, engages_once context row call ?_⟩
    have single : ¬1 < HitCount.repeatsIn description := by
      rw [once]
      decide
    rw [if_neg single] at body
    rw [body]
    exact combined
  · refine .inr ⟨twice, few, ?_⟩
    rw [if_pos (show 1 < HitCount.repeatsIn description from twice)] at body
    obtain ⟨h, x, further, isAmount⟩ := Formula.call_in_amount (damageRowOf main.detail) game stat total
      (blastWorth adjacent.detail main.detail first second)
    rw [show call = .amount h x further from isAmount]
    exact repeated_call_runs context row _ _ h x further _ body (isAmount ▸ combined)

def wavesKit : Kit :=
  { game := .sr, name := "X", tables := [("e", ["Skill DMG", "Adjacent DMG"])], descriptions := [("e", "Repeats 3 times.")],
    units := [("e", [("Skill DMG", "Max HP")])] }

def waveRow : Detail := { title := "Wave (Main Target)", talent := some "e", table := some "Skill DMG" }

def rippleRow : Detail := { title := "Wave (Adjacent Targets)", talent := some "e", table := some "Adjacent DMG" }

def waves : Budget := .ofDetails 20 .default [waveRow, rippleRow]

def wavesPlan (complete : Detail) : Plan := { mainAttrs := "hp", details := [complete] }

def wavesTalents : List (String × Value) :=
  [("e", .record [("Skill DMG", (TableValue.scalar 0.5).value), ("Adjacent DMG", (TableValue.scalar 0.2).value)])]

def wavesAttributes : List (String × Value) := [("hp", .number ⟨2000, none⟩)]

def wavesContext : Context :=
  .recording .sr (.record wavesTalents) (.record wavesAttributes) (.record []) .zero .null .null "" ""

theorem waves_group : blastGroups waves.rows = .ok [waves.rows] := by
  obtain ⟨key, own, isWave⟩ := evaluated_ok (Enrichment.blastKey waveRow) id "wave" (by decide +kernel)
  obtain ⟨key', own', isWave'⟩ := evaluated_ok (Enrichment.blastKey rippleRow) id "wave" (by decide +kernel)
  have same : key' = key := isWave'.trans isWave.symm
  exact Enrichment.two_rows_grouped ⟨0, waveRow⟩ ⟨1, rippleRow⟩ (by simp [waveRow, rippleRow, Detail.isGiven])
    ⟨key, own, same ▸ own'⟩

theorem waves_pair : blastPair? waves.rows = some (⟨1, rippleRow⟩, ⟨0, waveRow⟩) := rfl

theorem waves_presentable : ∀ r ∈ waves.rows, Presentable r.detail := by
  have rows : waves.rows = [⟨0, waveRow⟩, ⟨1, rippleRow⟩] := rfl
  simp only [rows, List.forall_mem_cons, List.not_mem_nil, false_implies, implies_true, and_true]
  exact ⟨⟨by decide, fun _ => by decide, nofun, nofun, nofun, nofun⟩,
    ⟨by decide, fun _ => by decide, nofun, nofun, nofun, nofun⟩⟩

theorem waves_complete : ∃ complete, completeRow wavesKit rippleRow waveRow = .ok complete := by
  obtain ⟨complete, derived, -⟩ := evaluated_ok (completeRow wavesKit rippleRow waveRow) (·.kind) .dmg (by decide)
  exact ⟨complete, derived⟩

theorem waves_plan_loads (complete : Detail) (derived : completeRow wavesKit rippleRow waveRow = .ok complete) :
    PresentablePlan (wavesPlan complete) ∧ ∃ text loaded,
      render wavesKit (wavesPlan complete) "calcplan" = .ok text ∧ load (.levels 200) text = .ok loaded := by
  have made := Enrichment.complete_row_derived wavesKit rippleRow waveRow (by decide) nofun nofun complete derived
  have presentable : PresentablePlan (wavesPlan complete) := by
    refine ⟨fun d member => ?_, by simp [wavesPlan, Plan.maxDetails]⟩
    rw [List.mem_singleton.mp member]
    exact derived_presentable (waves_presentable ⟨0, waveRow⟩ List.mem_cons_self) made
  obtain ⟨title, e, -, composite, same⟩ := made
  refine ⟨presentable, composite_plan_loads (.levels 200) wavesKit _ presentable (fun d member => ?_) (fun d member => ?_)
    rfl "calcplan"⟩
  · rw [List.mem_singleton.mp member, same]
    exact ⟨rfl, rfl⟩
  · rw [List.mem_singleton.mp member]
    exact .inr ⟨e, composite, by rw [same]⟩

theorem waves_total_repeats : ∃ complete, completeRow wavesKit rippleRow waveRow = .ok complete ∧
    PresentablePlan (wavesPlan complete) ∧ (∀ r ∈ waves.rows, Presentable r.detail) ∧
    blastGroups waves.rows = .ok [waves.rows] ∧ blastPair? waves.rows = some (⟨1, rippleRow⟩, ⟨0, waveRow⟩) ∧
    ∃ text loaded row, render wavesKit (wavesPlan complete) "calcplan" = .ok text ∧ load (.levels 200) text = .ok loaded ∧
      loaded.details[0]? = some row ∧
      Repeats wavesContext row (.amount .dmgBasic (2000 * ratioOf .sr (0.5 + 0.2 * 2)) [.string "e", .null]) 3 := by
  obtain ⟨complete, derived⟩ := waves_complete
  obtain ⟨presentable, text, loaded, rendered, loads⟩ := waves_plan_loads complete derived
  obtain ⟨row, stat, n, there, told, counted, combines⟩ := complete_row_combines_blast (.levels 200) wavesKit
    (wavesPlan complete) presentable "calcplan" text rendered loaded loads waves waves_presentable [waves.rows] waves_group
    waves.rows List.mem_cons_self _ _ waves_pair complete derived 0 rfl
  refine ⟨complete, derived, presentable, waves_presentable, waves_group, waves_pair, text, loaded, row, rendered, loads,
    there, ?_⟩
  have finite : Decimal.isFinite 0.5 = true ∧ Decimal.isFinite 0.2 = true := by decide
  have holds : Holds wavesTalents "e" "Skill DMG" (.scalar 0.5) :=
    ⟨⟨_, rfl, rfl⟩, List.forall_mem_singleton.mpr finite.1⟩
  have holds' : Holds wavesTalents "e" "Adjacent DMG" (.scalar 0.2) :=
    ⟨⟨_, rfl, rfl⟩, List.forall_mem_singleton.mpr finite.2⟩
  have scales : ((damageRowOf waveRow).stat wavesKit).toOption = some "hp" := by decide
  rw [told] at scales
  cases scales
  have thrice : (repeatsOf wavesKit waveRow).toOption = some 3 := by decide
  rw [counted] at thrice
  cases thrice
  have calls := combines .sr wavesTalents wavesAttributes _ _ 2000 (.record []) .zero .null .null "" "" 0 holds holds'
  rcases calls fun _ => attribute_total _ _ (.number ⟨2000, none⟩) with ⟨once, -⟩ | ⟨-, -, repeats⟩
  · cases once
  · exact repeats

end DamagePlan.Render
