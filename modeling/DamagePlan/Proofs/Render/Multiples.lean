import DamagePlan.Proofs.Refine.Derived
import DamagePlan.Proofs.Render.TableFormula
import DamagePlan.Proofs.Script.Echo

/-!
What derived formulas come to: multiples of a result, and calls for an amount that scales with one stat. A loaded row
that was derived is evaluated as its formula was written.
-/
set_option autoImplicit false

namespace DamagePlan.Script

open DamagePlan.Enrichment (scaledResult)

inductive IsResult : Value → Float → Float → Prop
  | mk (dmg avg : Numeral) : IsResult (.record [("dmg", .number dmg), ("avg", .number avg)]) dmg.value avg.value

theorem IsResult.alike {v w : Value} {d a : Float} (result : IsResult v d a) (same : v.unmarked = w.unmarked) :
    IsResult w d a := by
  have number : ∀ (x : Numeral) (v : Value), v.unmarked = .number ⟨x.value, none⟩ → ∃ y : Numeral, v = .number y ∧
      y.value = x.value := by
    intro x v same
    cases v with
    | number y =>
      simp only [Value.unmarked, Value.number.injEq, Numeral.mk.injEq, and_true] at same
      exact ⟨y, rfl, same⟩
    | _ => cases same
  cases result with
  | mk dmg avg =>
    cases w with
    | record fields =>
      simp only [Value.unmarked, Value.unmarkedFields, Value.record.injEq] at same
      obtain - | ⟨⟨first, v⟩, - | ⟨⟨second, w⟩, - | ⟨third, rest⟩⟩⟩ := fields
      · cases same
      · simp [Value.unmarkedFields] at same
      · simp only [Value.unmarkedFields, List.cons.injEq, Prod.mk.injEq, and_true] at same
        obtain ⟨⟨rfl, one⟩, rfl, two⟩ := same
        obtain ⟨x, rfl, worth⟩ := number dmg v one.symm
        obtain ⟨y, rfl, worth'⟩ := number avg w two.symm
        exact worth ▸ worth' ▸ .mk x y
      · simp [Value.unmarkedFields] at same
    | _ => cases same

theorem IsLogged.result {h : Helper} {x : Float} {further entry : List Value} {v : Value}
    (logged : IsLogged (.amount h x further) entry v) : IsResult v x x := by
  cases logged with
  | amount _ _ y => exact .mk y y

def Runs {α : Type} (m : Evaluation α) (P : CallLog → α → CallLog → Prop) : Prop :=
  ∀ before, ∃ a after, m.run before = (.ok a, after) ∧ P before.calls a after.calls

section Runs

variable {engine : Engine} {scope : Scope} {e : Expr} {d a : Float} {P : CallLog → Value → CallLog → Prop}

theorem part_multiple_runs (runs : Runs (evaluate engine scope e) P) (name : String) (x n : Float)
    (part : ∀ calls v calls', P calls v calls' → ∃ y : Numeral, memberOf v name = .ok (.number y) ∧ y.value = x) :
    Runs (evaluate engine scope (Formula.times (.member e name) (.number n))) fun calls w calls' =>
      ∃ v, P calls v calls' ∧ ∃ y : Numeral, w = .number y ∧ y.value = x * n := by
  intro before
  obtain ⟨v, between, ran, holds⟩ := runs before
  obtain ⟨y, member, rfl⟩ := part _ _ _ holds
  have product : applyBinary .multiply (.number y) (.number ⟨n, none⟩) = .ok (.number ⟨y.value * n, none⟩) := rfl
  obtain ⟨w, after, settled, silent, worth⟩ := quietly_settle_number _ _ product between
  refine ⟨w, after, ?_, v, silent ▸ holds, worth⟩
  simp only [Formula.times, evaluate, bind_assoc, pure_bind]
  rw [run_bind_ok _ _ before between v ran, member]
  exact settled

theorem scaled_result_runs (runs : Runs (evaluate engine scope e) P)
    (result : ∀ calls v calls', P calls v calls' → IsResult v d a) (n : Float) :
    Runs (evaluate engine scope (scaledResult e n)) fun calls w calls' =>
      IsResult w (d * n) (a * n) ∧ ∃ v between v', P calls v between ∧ P between v' calls' := by
  have dmg := part_multiple_runs runs "dmg" d n fun calls v calls' holds => by
    cases result _ _ _ holds with
    | mk dmg avg => exact ⟨dmg, rfl, rfl⟩
  have avg := part_multiple_runs runs "avg" a n fun calls v calls' holds => by
    cases result _ _ _ holds with
    | mk dmg avg => exact ⟨avg, rfl, rfl⟩
  intro before
  obtain ⟨w, between, ran, v, holds, x, rfl, worth⟩ := dmg before
  obtain ⟨w', after, ran', v', holds', x', rfl, worth'⟩ := avg between
  refine ⟨.record [("dmg", .number x), ("avg", .number x')], after, ?_, worth ▸ worth' ▸ .mk x x', v, _, v', holds, holds'⟩
  simp only [scaledResult, evaluate, evaluateEntries, bind_assoc, pure_bind] at ran ran' ⊢
  rw [run_bind_ok _ _ before between (.number x) ran, run_bind_ok _ _ between after (.number x') ran']
  rfl

end Runs

theorem result_again {kind : EngineKind} {game : Game} {scope : Scope} {e : Expr} {d a : Float} (blind : e.equations = 0)
    (before after : Trace) (v : Value) (ran : (evaluate (.ofKind kind game) scope e).run before = (.ok v, after))
    (result : IsResult v d a) : Runs (evaluate (.ofKind kind game) scope e) fun _ w _ => IsResult w d a := by
  intro before'
  have again := evaluate_echoes kind game scope e blind before before'
  cases ran' : (evaluate (.ofKind kind game) scope e).run before' with
  | mk outcome after' =>
    rw [ran, ran'] at again
    cases outcome with
    | error e => cases again
    | ok w => exact ⟨w, after', rfl, result.alike (Except.ok.inj again)⟩

theorem engages_runs {m : Evaluation Value} {call : EngineCall} (engages : Engages m call) :
    Runs m fun calls v calls' => ∃ entry, calls' = calls ++ [entry] ∧ IsLogged call entry v := by
  intro before
  obtain ⟨entry, v, after, ran, logged, isLogged⟩ := engages before
  exact ⟨v, after, ran, entry, logged, isLogged⟩

end DamagePlan.Script

namespace DamagePlan.Formula

open Script

theorem natural_position (k : Nat) (small : k ≤ 10) : toInteger (Float.ofNat k) = .ok k := by
  have each : ∀ k ≤ 10, (toInteger (Float.ofNat k)).toOption = some (k : Int) := by decide +kernel
  exact position_of_computed _ k (each k small)

theorem table_damage_without_element (kit : Kit) (row : DamageRow) (bare : Detail.isGiven row.element = false) :
    tableDamage kit { row with element := none } = tableDamage kit row := by
  obtain ⟨talent, table, key, element, pick, scaleStat, title⟩ := row
  cases element with
  | none => rfl
  | some e =>
    obtain rfl : e = "" := by simpa [Detail.isGiven] using bare
    rfl

theorem damage_arguments_equations (key : String) (element : Option String) :
    Expr.equationsOfList (damageArguments key element) = 0 := by
  unfold damageArguments
  split
  · split <;> rfl
  · rfl

theorem basic_damage_call_equations (amount : Expr) (key : String) (element : Option String) :
    (basicDamageCall amount key element).equations = amount.equations := by
  simp [basicDamageCall, Expr.path, Expr.equations, Expr.equationsOfList, damage_arguments_equations]

theorem share_of_equations (stat : String) (amount : Expr) : (shareOf stat amount).equations = amount.equations := by
  simp [shareOf, times, statTotal, toRatio, Expr.callName, Expr.path, Expr.equations, Expr.equationsOfList, BinaryOp.equates]

theorem scaled_equations (row : DamageRow) (amount : Expr) (stat : String) :
    (row.scaled amount stat).equations = amount.equations := by
  unfold DamageRow.scaled scaledDamage
  split
  · simp [damageCall, Expr.callName, Expr.equations, Expr.equationsOfList, damage_arguments_equations]
  · rw [basic_damage_call_equations, share_of_equations]

theorem damage_as_equations (row : DamageRow) (stat : String) (schema : Option Scaling.Schema) :
    (damageAs row stat schema).equations = 0 := by
  have single : (damageOfPart row stat 0).equations = 0 := scaled_equations _ _ _
  have chosen : ∀ amount : Expr, amount.equations = 0 → (Expr.conditional (isList (tableRef row.talent row.table))
      (basicDamageCall amount row.key row.element) (damageOfPart row stat 0)).equations = 0 := by
    intro amount plain
    simp only [Expr.equations, basic_damage_call_equations, plain, single]
    rfl
  cases schema with
  | none => exact single
  | some schema =>
    cases schema with
    | statStat first second =>
      refine chosen _ ?_
      simp only [plus, Expr.equations, share_of_equations]
      rfl
    | statFlat flat =>
      refine chosen _ ?_
      simp only [plus, Expr.equations, share_of_equations]
      rfl
    | statTimes other =>
      simp only [damageAs, scaled_equations]
      split <;> rfl
    | percentList other => exact scaled_equations _ _ _

theorem table_damage_equations (kit : Kit) (row : DamageRow) (e : Expr) (made : tableDamage kit row = .ok e) :
    e.equations = 0 := by
  cases (table_damage_ok_iff kit row e).mp made with
  | picked => exact scaled_equations _ _ _
  | shaped stat schema => exact damage_as_equations row stat schema

end DamagePlan.Formula
