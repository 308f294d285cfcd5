import DamagePlan.Proofs.Render.Records
import DamagePlan.Proofs.Script.StandIns
import DamagePlan.Refine.Enrichment

/-!
Formulas where stand-ins take the place of all data: they deal no damage, whatever the shape of their table.
-/
set_option autoImplicit false

namespace DamagePlan.Formula

open Script

def IsCount (v : Value) : Prop := ∃ n ≤ 60, v = .number ⟨Float.ofNat n, none⟩

theorem IsZero.count {v : Value} (zero : IsZero v) : IsCount v := ⟨0, Nat.zero_le 60, zero⟩

theorem IsZero.table {v : Value} (zero : IsZero v) : IsTable v := .inl zero.nought

section Stand

variable {engine : Engine} {scope : Scope} {e f g : Expr} {P Q : Value → Prop}

theorem conditional_gives (test : Gives engine scope e P) (consequent : Gives engine scope f Q)
    (alternative : Gives engine scope g Q) : Gives engine scope (.conditional e f g) Q := by
  obtain ⟨v, value, -⟩ := test
  obtain ⟨w, first, holds⟩ := consequent
  obtain ⟨w', second, holds'⟩ := alternative
  by_cases truthy : v.isTruthy = true
  · exact ⟨w, by simp [evaluate, value, truthy, first], holds⟩
  · exact ⟨w', by simp [evaluate, value, truthy, second], holds'⟩

theorem times_count_gives (left : Gives engine scope e Nought) (right : Gives engine scope f IsCount) :
    Gives engine scope (times e f) IsZero := by
  obtain ⟨v, value, nought⟩ := left
  obtain ⟨w, value', n, few, rfl⟩ := right
  refine ⟨_, ?_, zero_is_zero⟩
  simp [times, evaluate, value, value', zero_product n few v nought]

theorem greater_gives (left : Gives engine scope e IsZero) (x : Float) :
    Gives engine scope (.binary .greater e (.number x)) IsBool := by
  obtain ⟨v, value, zero⟩ := left
  rw [IsZero] at zero
  subst zero
  exact ⟨.bool _, by simp [evaluate, value, applyBinary, compareWith, Value.toNumber, settle, Evaluation.lift]; rfl, _, rfl⟩

variable (stage : Stage engine scope)

include stage

theorem table_ref_gives (talent table : String) : Gives engine scope (tableRef talent table) IsTable := by
  obtain ⟨s, isTable, found⟩ := stage.tables
  refine ⟨s.member.index (.string table), ?_, ?_⟩
  · simp [tableRef, evaluate, found, memberOf, indexOf, Evaluation.lift]
  · have member : s.member.isTable = true := by simp [StandIn.member, isTable]
    simp only [StandIn.index, member, if_true]
    -- a table is a pair in contexts with array tables, and a single stand-in in the others
    split
    · exact .inr ⟨_, _, rfl, stand_in_nought _, stand_in_nought _⟩
    · exact .inl (stand_in_nought _)

theorem pick_part_gives (talent table : String) (position : Float) (finite : Decimal.isFinite position = true) :
    Gives engine scope (pickPart talent table position) Nought :=
  pick_gives stage (table_ref_gives stage talent table) position finite

theorem table_part_gives (talent table : String) (position : Float) (finite : Decimal.isFinite position = true) :
    Gives engine scope (tablePart talent table position) IsZero :=
  num_gives stage ((pick_part_gives stage talent table position finite).mono fun _ => .inl)

theorem stat_total_gives (stat : String) : Gives engine scope (statTotal stat) IsZero := by
  obtain ⟨s, isStat, found⟩ := stage.stats
  have attr : Gives engine scope (.path "attr" [stat]) Nought :=
    ⟨.standIn s.member, by simp [Expr.path, evaluate, found, memberOf, Evaluation.lift], stand_in_nought _⟩
  exact calc_gives stage attr

theorem share_of_gives (stat : String) (amount : Gives engine scope e IsTable) :
    Gives engine scope (shareOf stat e) IsZero :=
  times_gives ((stat_total_gives stage stat).mono fun _ => IsZero.nought)
    ((to_ratio_gives stage amount).mono fun _ => IsZero.nought)

def argumentValues (key : String) (element : Option String) : List Value :=
  .string key :: match element with
    | some e => if e.isEmpty then [] else [.string e]
    | none => []

omit stage in
theorem argument_values_few (key : String) (element : Option String) : (argumentValues key element).length ≤ 2 := by
  unfold argumentValues
  cases element with
  | none => simp
  | some e => by_cases empty : e.isEmpty = true <;> simp [empty]

variable (engine scope) in
omit stage in
theorem damage_arguments_evaluate (key : String) (element : Option String) :
    evaluateList engine scope (damageArguments key element) = pure (argumentValues key element) := by
  unfold damageArguments argumentValues
  cases element with
  | none => rfl
  | some e => by_cases empty : e.isEmpty = true <;> simp [empty, evaluateList, evaluate]

theorem engine_idle (h : Helper) (dealt : h = .dmg ∨ h = .dmgBasic) (v : Value) (nought : Nought v) (vs : List Value)
    (few : vs.length ≤ 2) : h.apply engine (v :: vs) = pure (Helper.damageRecord .zero) := by
  obtain ⟨game, rfl⟩ := stage.idle
  have number : Helper.argument (v :: vs) 0 = v := rfl
  have accepted : Helper.accepts (0, some 3) (vs.length + 1) = true := by simp [Helper.accepts]; omega
  rcases dealt with rfl | rfl <;>
    simp [Helper.apply, Engine.ofKind, EngineKind.arity, Helper.arity, Helper.isEngaged, Helper.engage, number, accepted,
      nought.number, Evaluation.lift]

theorem damage_call_gives (key : String) (element : Option String) (amount : Gives engine scope e Nought) :
    Gives engine scope (damageCall e key element) IsNoDamage := by
  obtain ⟨v, value, nought⟩ := amount
  have values := damage_arguments_evaluate engine scope key element
  exact call_gives stage "dmg" .dmg (by decide) _ (v :: argumentValues key element) (by simp [evaluateList, value, values]) _
    (engine_idle stage .dmg (.inl rfl) v nought _ (argument_values_few key element)) rfl

theorem basic_damage_call_gives (key : String) (element : Option String) (amount : Gives engine scope e Nought) :
    Gives engine scope (basicDamageCall e key element) IsNoDamage := by
  obtain ⟨v, value, nought⟩ := amount
  have values := damage_arguments_evaluate engine scope key element
  have few := argument_values_few key element
  have func : evaluate engine scope (.path "dmg" ["basic"]) = pure (.helper .dmgBasic) := by
    simp [Expr.path, evaluate, stage.helpers ("dmg", .dmg) (by decide), memberOf, Evaluation.lift]
  refine ⟨_, ?_, rfl⟩
  simp [basicDamageCall, evaluate, func, evaluateList, value, values, engine_idle stage .dmgBasic (.inr rfl) v nought _ few]

theorem scaled_damage_gives (stat key : String) (element : Option String) (amount : Gives engine scope e IsZero) :
    Gives engine scope (scaledDamage e stat key element) IsNoDamage := by
  unfold scaledDamage
  split
  · exact damage_call_gives stage key element (amount.mono fun _ => IsZero.nought)
  · exact basic_damage_call_gives stage key element
      ((share_of_gives stage stat (amount.mono fun _ => IsZero.table)).mono fun _ => IsZero.nought)

theorem support_call_gives (kind : DetailKind) (amount : Gives engine scope e Nought) :
    Gives engine scope (supportCall kind e) IsNoDamage := by
  obtain ⟨v, value, nought⟩ := amount
  obtain ⟨game, idle⟩ := stage.idle
  have values : evaluateList engine scope [e] = pure [v] := by simp [evaluateList, value]
  have number : Helper.argument [v] 0 = v := rfl
  have dealt : ∀ h, h = Helper.heal ∨ h = .shield → h.apply engine [v] = pure (Helper.damageRecord .zero) := by
    rw [idle]
    rintro h (rfl | rfl) <;>
      simp [Helper.apply, Engine.ofKind, EngineKind.arity, Helper.arity, Helper.accepts, Helper.isEngaged, Helper.engage,
        number, nought.number, Evaluation.lift]
  unfold supportCall
  split
  · exact call_gives stage "heal" .heal (by decide) _ _ values _ (dealt .heal (.inl rfl)) rfl
  · exact call_gives stage "shield" .shield (by decide) _ _ values _ (dealt .shield (.inr rfl)) rfl

theorem reaction_call_gives (reaction : String) : Gives engine scope (reactionCall reaction) IsNoDamage := by
  obtain ⟨game, idle⟩ := stage.idle
  refine call_gives stage "reaction" .reaction (by decide) _ [.string reaction] rfl _ ?_ rfl
  rw [idle]
  rfl

section Rows

variable (kit : Kit) (row : DamageRow) (stat : String)

theorem damage_of_part_gives (position : Float) (finite : Decimal.isFinite position = true) :
    Gives engine scope (damageOfPart row stat position) IsNoDamage :=
  scaled_damage_gives stage _ _ _ (table_part_gives stage _ _ position finite)

theorem damage_as_gives (schema : Option Scaling.Schema) : Gives engine scope (damageAs row stat schema) IsNoDamage := by
  have zeroth : Decimal.isFinite 0 = true := zero_laws.finite
  have first : Decimal.isFinite 1 = true := Render.natural_finite 1 (by decide)
  have plain := damage_of_part_gives stage row stat 0 zeroth
  have listed := is_list_gives stage (table_ref_gives stage row.talent row.table)
  have share : ∀ stat position, Decimal.isFinite position = true →
      Gives engine scope (shareOf stat (pickPart row.talent row.table position)) IsZero := by
    intro stat position finite
    exact share_of_gives stage stat ((pick_part_gives stage _ _ position finite).mono fun _ => .inl)
  have part : ∀ position, Decimal.isFinite position = true → Gives engine scope (row.part position) IsZero :=
    fun position finite => table_part_gives stage _ _ position finite
  have summed : ∀ {a b : Expr}, Gives engine scope a IsZero → Gives engine scope b IsZero →
      Gives engine scope (basicDamageCall (plus a b) row.key row.element) IsNoDamage := by
    intro a b one two
    have sum := plus_gives (one.mono fun _ => IsZero.nought) (two.mono fun _ => IsZero.nought)
    exact basic_damage_call_gives stage _ _ (sum.mono fun _ => IsZero.nought)
  cases schema with
  | none => exact plain
  | some schema =>
    cases schema with
    | statStat one two => exact conditional_gives listed (summed (share one 0 zeroth) (share two 1 first)) plain
    | statFlat stat => exact conditional_gives listed (summed (share stat 0 zeroth) (part 1 first)) plain
    | statTimes stat =>
      simp only [damageAs]
      split
      -- how many hits there are is read from the table too, and zero hits are as good as one here
      · have count := conditional_gives listed ((part 1 first).mono fun _ => IsZero.count)
          ((gives_number (Float.ofNat 1)).mono fun _ same => ⟨1, by decide, same⟩)
        exact scaled_damage_gives stage _ _ _ (times_count_gives ((part 0 zeroth).mono fun _ => IsZero.nought) count)
      · exact scaled_damage_gives stage _ _ _ (part 0 zeroth)
    | percentList stat => exact scaled_damage_gives stage _ _ _ (sum_gives stage (table_ref_gives stage _ _))

theorem table_damage_gives (e : Expr) (made : tableDamage kit row = .ok e) : Gives engine scope e IsNoDamage := by
  cases (table_damage_ok_iff kit row e).mp made with
  | picked stat position x _ _ converted =>
    exact damage_of_part_gives stage row stat x (Decimal.of_integer_finite position x converted)
  | shaped stat schema => exact damage_as_gives stage row stat schema

end Rows

theorem support_amount_gives (kit : Kit) (talent table stat : String) :
    Gives engine scope (supportAmountOf kit talent table stat) IsZero := by
  have zeroth : Decimal.isFinite 0 = true := zero_laws.finite
  have first : Decimal.isFinite 1 = true := Render.natural_finite 1 (by decide)
  have sum : ∀ {a b : Expr}, Gives engine scope a IsZero → Gives engine scope b IsZero →
      Gives engine scope (plus a b) IsZero := fun one two =>
    plus_gives (one.mono fun _ => IsZero.nought) (two.mono fun _ => IsZero.nought)
  unfold supportAmountOf
  cases supportPair? kit talent table with
  | some pair =>
    obtain ⟨percent, flat⟩ := pair
    have share := share_of_gives stage stat ((table_part_gives stage talent percent 0 zeroth).mono fun _ => IsZero.table)
    refine sum share (table_part_gives stage talent flat _ ?_)
    split
    · exact first
    · exact zeroth
  | none =>
    have ref := table_ref_gives stage talent table
    have scalar := num_gives stage ref
    have share := share_of_gives stage stat ((pick_part_gives stage talent table 0 zeroth).mono fun _ => .inl)
    have flatOrShare := conditional_gives (greater_gives scalar (flatThreshold kit.game)) scalar
      (share_of_gives stage stat (scalar.mono fun _ => IsZero.table))
    exact conditional_gives (is_list_gives stage ref) (sum share (table_part_gives stage talent table 1 first)) flatOrShare

theorem formula_gives (kit : Kit) (d : Detail) (e : Expr) (made : ofDetail.formula kit d = .ok e) :
    Gives engine scope e IsNoDamage := by
  unfold ofDetail.formula at made
  cases kind : d.kind with
  | reaction =>
    rw [kind] at made
    cases made
    exact reaction_call_gives stage _
  | heal | shield =>
    rw [kind] at made
    obtain ⟨amount, told, shape⟩ := lifted_ok _ _ _ _ made
    obtain ⟨stat, -, rfl⟩ := map_ok _ _ _ told
    cases shape
    exact support_call_gives stage _ ((support_amount_gives stage kit _ _ stat).mono fun _ => IsZero.nought)
  | dmg =>
    rw [kind] at made
    exact table_damage_gives stage kit (damageRowOf d) e made

end Stand

end DamagePlan.Formula
