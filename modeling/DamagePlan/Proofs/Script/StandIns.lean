import Mathlib.Data.List.Basic
import DamagePlan.Proofs.Decimal.Bits
import DamagePlan.Script.Context
import DamagePlan.Script.Literal
import DamagePlan.Proofs.Steps
import DamagePlan.Script.Gate

/-!
Evaluation where stand-ins take the place of all data: everything counts as zero, and nothing deals damage. The gate lets a script of such
rows pass.
-/
set_option autoImplicit false

namespace DamagePlan.Script

open Decimal

def Gives (engine : Engine) (scope : Scope) (e : Expr) (P : Value → Prop) : Prop :=
  ∃ v, evaluate engine scope e = pure v ∧ P v

def formulaHelpers : List (String × Helper) :=
  [("num", .num), ("pick", .pick), ("sum", .sum), ("isList", .isList), ("calc", .calc), ("toRatio", .toRatio),
    ("dmg", .dmg), ("heal", .heal), ("shield", .shield), ("reaction", .reaction)]

structure Stage (engine : Engine) (scope : Scope) : Prop where
  idle : ∃ game, engine = .ofKind .zero game
  tables : ∃ s : StandIn, s.isTable = true ∧ scope.lookup "talent" = some (.standIn s)
  stats : ∃ s : StandIn, s.isTable = false ∧ scope.lookup "attr" = some (.standIn s)
  helpers : ∀ entry ∈ formulaHelpers, scope.lookup entry.1 = some (.helper entry.2)

theorem lookup_overlay (outer inner : Scope) (name : String) (v : Value) (found : inner.lookup name = some v) :
    (Scope.overlay outer inner).lookup name = some v := by
  simp [Scope.overlay, List.lookup_append, found]

theorem zero_stage (game : Game) (truthy arrayTables : Bool) (cons : Numeral) (captured : Scope) :
    Stage (Context.zero game truthy arrayTables cons).engine
      (Scope.overlay captured (Context.zero game truthy arrayTables cons).bindings) where
  idle := ⟨game, rfl⟩
  tables := ⟨_, rfl, lookup_overlay _ _ _ _ rfl⟩
  stats := ⟨_, rfl, lookup_overlay _ _ _ _ rfl⟩
  helpers := by
    simp only [formulaHelpers, List.forall_mem_cons]
    refine ⟨?_, ?_, ?_, ?_, ?_, ?_, ?_, ?_, ?_, ?_, nofun⟩ <;> exact lookup_overlay _ _ _ _ rfl

structure Nought (v : Value) : Prop where
  number : v.toNumber = .ok .zero
  noText : isString v = false

def IsTable (v : Value) : Prop := Nought v ∨ ∃ first second, v = .list [first, second] ∧ Nought first ∧ Nought second

def IsZero (v : Value) : Prop := v = .number .zero

def IsBool (v : Value) : Prop := ∃ b, v = .bool b

def IsNoDamage (v : Value) : Prop := v = Helper.damageRecord .zero

theorem stand_in_nought (s : StandIn) : Nought (.standIn s) := ⟨rfl, rfl⟩

theorem null_nought : Nought .null := ⟨rfl, rfl⟩

theorem zero_is_zero : IsZero (.number .zero) := rfl

theorem IsZero.nought {v : Value} (zero : IsZero v) : Nought v := by
  rw [IsZero] at zero
  subst zero
  exact ⟨rfl, rfl⟩

structure ZeroLaws : Prop where
  finite : isFinite 0 = true
  known : Float.isNaN 0 = false
  sum : (0 : Float) + 0 = 0
  percent : (0 : Float) / 100 = 0
  product : ∀ n ≤ 60, (0 : Float) * Float.ofNat n = 0

theorem zero_laws : ZeroLaws := by
  have laws : isFinite 0 = true ∧ Float.isNaN 0 = false ∧ (0 : Float) + 0 = 0 ∧ (0 : Float) / 100 = 0 ∧
      ∀ n ≤ 60, (0 : Float) * Float.ofNat n = 0 := by decide +kernel
  obtain ⟨finite, known, sum, percent, product⟩ := laws
  exact ⟨finite, known, sum, percent, product⟩

theorem zero_times_zero : (0 : Float) * 0 = 0 := zero_laws.product 0 (Nat.zero_le 60)

theorem zero_unmarked : Numeral.isUnmarked .zero = false := by
  rw [Numeral.isUnmarked, Numeral.zero, zero_laws.known, Bool.false_and]

theorem settle_zero : settle (.ok (.number .zero)) = pure (.number .zero) := by
  simp [settle, Evaluation.lift, Evaluation.mark, zero_unmarked]

theorem number_zero : Evaluation.number (.ok .zero) = pure (.number .zero) := by
  simp [Evaluation.number, Evaluation.lift, Evaluation.mark, zero_unmarked]

theorem finite_nought (v : Value) (nought : Nought v) : Helper.finiteNumber v = 0 := by
  unfold Helper.finiteNumber
  split
  · rfl
  · rfl
  · rw [nought.number]
    simp [Numeral.zero, zero_laws.finite]

section Calls

variable {engine : Engine} {scope : Scope} {e f g : Expr} {P Q : Value → Prop}

theorem Gives.mono (gives : Gives engine scope e P) (more : ∀ v, P v → Q v) : Gives engine scope e Q := by
  obtain ⟨v, value, holds⟩ := gives
  exact ⟨v, value, more v holds⟩

theorem gives_number (x : Float) : Gives engine scope (.number x) (· = .number ⟨x, none⟩) := ⟨_, rfl, rfl⟩

theorem call_gives (stage : Stage engine scope) (name : String) (h : Helper) (known : (name, h) ∈ formulaHelpers)
    (args : List Expr) (vs : List Value) (values : evaluateList engine scope args = pure vs) (w : Value)
    (applied : h.apply engine vs = pure w) (holds : P w) : Gives engine scope (.callName name args) P := by
  refine ⟨w, ?_, holds⟩
  simp [Expr.callName, evaluate, stage.helpers _ known, values, applied]

theorem num_gives (stage : Stage engine scope) (gives : Gives engine scope e IsTable) :
    Gives engine scope (.callName "num" [e]) IsZero := by
  obtain ⟨v, value, table⟩ := gives
  have zero : Helper.finiteNumber v = 0 := by
    rcases table with nought | ⟨first, second, rfl, -, -⟩
    · exact finite_nought v nought
    · rfl
  apply call_gives stage "num" .num (by decide) [e] [v] (by simp [evaluateList, value]) _ _ zero_is_zero
  simp [Helper.apply, Helper.accepts, Helper.arity, Helper.argument, zero, Numeral.zero]

theorem pick_from_table (v : Value) (table : IsTable v) (x : Float) (finite : isFinite x = true) :
    ∃ w, Helper.pickFrom v (.number ⟨x, none⟩) = .ok w ∧ Nought w := by
  rcases table with nought | ⟨first, second, rfl, one, two⟩
  · refine ⟨v, ?_, nought⟩
    cases v with
    | list items => cases nought.number
    | _ => rfl
  · have whole : ∃ i, toInteger x = .ok i := by
      unfold isFinite at finite
      unfold toInteger
      split at finite
      · rename_i decoded
        rw [decoded]
        exact ⟨_, rfl⟩
      · cases finite
    obtain ⟨i, converted⟩ := whole
    simp only [Helper.pickFrom, Value.toNumber, bind, Except.bind, converted]
    split
    · refine ⟨_, rfl, ?_⟩
      match i.toNat with
      | 0 => exact one
      | 1 => exact two
      | _ + 2 => exact null_nought
    · exact ⟨_, rfl, null_nought⟩

theorem pick_gives (stage : Stage engine scope) (gives : Gives engine scope e IsTable) (x : Float)
    (finite : isFinite x = true) : Gives engine scope (.callName "pick" [e, .number x]) Nought := by
  obtain ⟨v, value, table⟩ := gives
  obtain ⟨w, picked, nought⟩ := pick_from_table v table x finite
  apply call_gives stage "pick" .pick (by decide) [e, .number x] [v, .number ⟨x, none⟩] _ w _ nought
  · simp [evaluateList, value, evaluate]
  · simp [Helper.apply, Helper.accepts, Helper.arity, Helper.argument, picked, Evaluation.lift]

theorem sum_gives (stage : Stage engine scope) (gives : Gives engine scope e IsTable) :
    Gives engine scope (.callName "sum" [e]) IsZero := by
  obtain ⟨v, value, table⟩ := gives
  have zero : Helper.sumOf v = .number .zero := by
    rcases table with nought | ⟨first, second, rfl, one, two⟩
    · have finite := finite_nought v nought
      cases v with
      | list items => cases nought.number
      | _ => simp [Helper.sumOf, finite, Numeral.zero]
    · simp [Helper.sumOf, finite_nought first one, finite_nought second two, zero_laws.sum, Numeral.zero]
  apply call_gives stage "sum" .sum (by decide) [e] [v] (by simp [evaluateList, value]) _ _ zero_is_zero
  simp [Helper.apply, Helper.accepts, Helper.arity, Helper.argument, zero]

theorem is_list_gives (stage : Stage engine scope) (gives : Gives engine scope e P) :
    Gives engine scope (.callName "isList" [e]) IsBool := by
  obtain ⟨v, value, -⟩ := gives
  have told : ∃ b, Helper.apply engine .isList [v] = pure (.bool b) := by
    cases v with
    | list items => exact ⟨true, rfl⟩
    | _ => exact ⟨false, rfl⟩
  obtain ⟨b, applied⟩ := told
  exact call_gives stage "isList" .isList (by decide) [e] [v] (by simp [evaluateList, value]) _ applied ⟨b, rfl⟩

theorem calc_gives (stage : Stage engine scope) (gives : Gives engine scope e Nought) :
    Gives engine scope (.callName "calc" [e]) IsZero := by
  obtain ⟨v, value, nought⟩ := gives
  have total : Helper.total v = .ok .zero := by
    cases v with
    | record fields => cases nought.number
    | _ => exact nought.number
  apply call_gives stage "calc" .calc (by decide) [e] [v] (by simp [evaluateList, value]) _ _ zero_is_zero
  obtain ⟨game, rfl⟩ := stage.idle
  simp [Helper.apply, Engine.ofKind, EngineKind.arity, Helper.accepts, Helper.isEngaged, Helper.argument, total, number_zero]

theorem to_ratio_gives (stage : Stage engine scope) (gives : Gives engine scope e IsTable) :
    Gives engine scope (.callName "toRatio" [e]) IsZero := by
  obtain ⟨v, value, table⟩ := gives
  obtain ⟨game, rfl⟩ := stage.idle
  -- the ratio of a list is that of its first item, so both shapes of a table come down to one value
  have single : ∀ w, Nought w → Helper.ratio game (.list [w]) = .ok .zero := by
    intro w nought
    cases game
    · simp [Helper.ratio, nought.number, bind, Except.bind, pure, Except.pure, Numeral.zero, zero_laws.percent]
    · simp [Helper.ratio, nought.number, bind, Except.bind, pure, Except.pure]
  have ratio : Helper.ratio game v = .ok .zero := by
    rcases table with nought | ⟨first, second, rfl, one, two⟩
    · cases v with
      | list items => cases nought.number
      | _ => exact single _ nought
    · exact single first one
  apply call_gives stage "toRatio" .toRatio (by decide) [e] [v] (by simp [evaluateList, value]) _ _ zero_is_zero
  simp [Helper.apply, Engine.ofKind, EngineKind.arity, Helper.accepts, Helper.isEngaged, Helper.arity, Helper.argument,
    ratio, number_zero]

theorem binary_gives (op : BinaryOp) (strict : op ≠ .and ∧ op ≠ .or) (left : Gives engine scope e Nought)
    (right : Gives engine scope f Nought) (w : Value)
    (settled : ∀ v v', Nought v → Nought v' → settle (applyBinary op v v') = pure w) (holds : P w) :
    Gives engine scope (.binary op e f) P := by
  obtain ⟨v, value, nought⟩ := left
  obtain ⟨v', value', nought'⟩ := right
  refine ⟨w, ?_, holds⟩
  cases op with
  -- an and or an or gives one of its sides, not a number
  | and => exact absurd rfl strict.1
  | or => exact absurd rfl strict.2
  | _ => simp [evaluate, value, value', settled v v' nought nought']

theorem zero_product (n : Nat) (few : n ≤ 60) (v : Value) (nought : Nought v) :
    settle (applyBinary .multiply v (.number ⟨Float.ofNat n, none⟩)) = pure (.number .zero) := by
  have product : applyBinary .multiply v (.number ⟨Float.ofNat n, none⟩) = .ok (.number .zero) := by
    have count : Value.toNumber (.number ⟨Float.ofNat n, none⟩) = .ok ⟨Float.ofNat n, none⟩ := rfl
    simp only [applyBinary, arithmetic, nought.number, count, bind, Except.bind, pure, Except.pure, Numeral.zero,
      zero_laws.product n few]
  rw [product, settle_zero]

theorem times_gives (left : Gives engine scope e Nought) (right : Gives engine scope f Nought) :
    Gives engine scope (.binary .multiply e f) IsZero := by
  refine binary_gives .multiply ⟨nofun, nofun⟩ left right _ ?_ zero_is_zero
  intro v v' nought nought'
  have product : applyBinary .multiply v v' = .ok (.number .zero) := by
    simp [applyBinary, arithmetic, nought.number, nought'.number, bind, Except.bind, pure, Except.pure, Numeral.zero,
      zero_times_zero]
  rw [product, settle_zero]

theorem plus_gives (left : Gives engine scope e Nought) (right : Gives engine scope f Nought) :
    Gives engine scope (.binary .add e f) IsZero := by
  refine binary_gives .add ⟨nofun, nofun⟩ left right _ ?_ zero_is_zero
  intro v v' nought nought'
  have sum : applyBinary .add v v' = .ok (.number .zero) := by
    simp [applyBinary, nought.noText, nought'.noText, arithmetic, nought.number, nought'.number, bind, Except.bind,
      pure, Except.pure, Numeral.zero, zero_laws.sum]
  rw [sum, settle_zero]

end Calls

end DamagePlan.Script

namespace DamagePlan.Script.Gate

structure IsIdle (d : LoadedDetail) : Prop where
  free : d.check = none
  fits : d.damage.1.Fits 64
  idle : ∀ engine scope, Stage engine scope → Gives engine scope d.damage.1 IsNoDamage

theorem no_damage_checks (place : String) : checkResult place (Helper.damageRecord .zero) = .ok () := by
  have finite : isFiniteNumber (.number .zero) = true := zero_laws.finite
  simp [checkResult, Helper.damageRecord, Value.field, List.lookup_cons, finite]

section Idle

variable (stack : Stack)

theorem idle_invoked (game : Game) (truthy arrayTables : Bool) (cons : Numeral) (marks : Nat) (d : LoadedDetail)
    (own : IsIdle d) (place : String) :
    invokeAt stack { Context.zero game truthy arrayTables cons with marks } place d.damage =
      .ok (Helper.damageRecord .zero) := by
  obtain ⟨v, value, same⟩ := own.idle _ _ (zero_stage game truthy arrayTables cons d.damage.2)
  rw [IsNoDamage] at same
  subst same
  simp only [invokeAt, stack.roomy _ _ own.fits, Context.invoke, invoke, value]
  rfl

theorem idle_detail_runs (game : Game) (truthy arrayTables : Bool) (cons : Numeral) (marks i : Nat) (d : LoadedDetail)
    (own : IsIdle d) : runDetail stack { Context.zero game truthy arrayTables cons with marks } i d = .ok 1 := by
  simp only [runDetail, own.free, idle_invoked stack game truthy arrayTables cons marks d own, no_damage_checks, bind,
    Except.bind]
  rfl

theorem each_runs {α : Type} (run : Nat → α → Except GateError Nat) (as : List α)
    (each : ∀ a ∈ as, ∀ i, ∃ count, run i a = .ok count) (i : Nat) : ∃ count, runEach run i as = .ok count := by
  induction as generalizing i with
  | nil => exact ⟨0, rfl⟩
  | cons a rest ih =>
    exact bind_total _ _ (each a List.mem_cons_self i) fun _ =>
      bind_total _ _ (ih (fun other member => each other (List.mem_cons_of_mem _ member)) (i + 1)) fun _ => ⟨_, rfl⟩

theorem idle_context_runs (loaded : LoadedScript) (plain : loaded.buffs = []) (each : ∀ d ∈ loaded.details, IsIdle d)
    (context : Context) (among : context ∈ contexts loaded.game) : ∃ count, runContext stack loaded context = .ok count := by
  simp only [contexts, List.mem_flatMap, List.mem_map] at among
  -- a context is given by its three choices; the rows are idle under each
  obtain ⟨truthy, -, arrayTables, -, cons, -, rfl⟩ := among
  unfold runContext
  refine bind_total _ _ (each_runs _ loaded.details (fun d member i => ⟨1, ?_⟩) 0) fun _ => ?_
  · exact idle_detail_runs stack loaded.game truthy arrayTables ⟨cons, none⟩ loaded.marks i d (each d member)
  · rw [plain]
    exact ⟨_, rfl⟩

theorem idle_script_passes (text : String) (loaded : LoadedScript) (loads : load stack text = .ok loaded)
    (plain : loaded.buffs = []) (each : ∀ d ∈ loaded.details, IsIdle d) : validate stack text = .ok () := by
  have static : staticCheck stack text = .ok loaded := by
    simp only [staticCheck, loads, plain, bind, Except.bind]
    rfl
  obtain ⟨count, runs⟩ := each_runs (fun _ context => runContext stack loaded context) (contexts loaded.game)
    (fun context among _ => idle_context_runs stack loaded plain each context among) 0
  have runtime : runtimeCheck stack text = .ok count := by
    simp only [runtimeCheck, loads, bind, Except.bind, runs]
  simp only [validate, static, runtime, bind, Except.bind]
  rfl

end Idle

end DamagePlan.Script.Gate
