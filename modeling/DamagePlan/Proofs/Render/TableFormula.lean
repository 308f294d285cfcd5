import DamagePlan.Proofs.Decimal.Product
import DamagePlan.Proofs.Render.Idle
import DamagePlan.Proofs.Render.Loaded
import DamagePlan.Proofs.Script.Amounts

/-!
Formulas over given data: each calls the engine once, for the amount that the numbers of its table and the totals of the
stats make.
-/
set_option autoImplicit false

namespace DamagePlan.Formula

open Script

section Called

variable (kit : Kit) (total : String → Float)

def share (stat : String) (x : Float) : Float := total stat * ratioOf kit.game x

def DamageRow.further (row : DamageRow) : List Value := filledUp (argumentValues row.key row.element)

def DamageRow.schema? (row : DamageRow) : Option Scaling.Schema :=
  match row.pick with
  | some _ => none
  | none => (Scaling.schema kit row.talent row.table).toOption.join

def DamageRow.ownStat (row : DamageRow) : String := (row.stat kit).toOption.getD "atk"

def DamageRow.scaledBy (row : DamageRow) : String :=
  match row.schema? kit with
  | some (.statTimes stat) | some (.percentList stat) => overAttack (row.ownStat kit) stat
  | _ => row.ownStat kit

def DamageRow.amount (row : DamageRow) (v : TableValue) : Float :=
  match row.pick with
  | some position => v.part position.toNat
  | none =>
    match row.schema? kit with
    | some (.percentList _) => v.sum
    | some (.statTimes _) =>
      if totalMarker.occursIn row.title && v.isList then v.part 0 * v.part 1 else v.part 0
    | _ => v.part 0

def DamageRow.scaledCall (row : DamageRow) (amount : Float) (stat : String) : EngineCall :=
  if stat == "atk" then .amount .dmg amount row.further
  else .amount .dmgBasic (share kit total stat amount) row.further

def DamageRow.callIn (row : DamageRow) (game : Game) (stat : String) (total amount : Float) : EngineCall :=
  if stat == "atk" then .amount .dmg amount row.further else .amount .dmgBasic (total * ratioOf game amount) row.further

/-- What a damage row calls the engine for. Lists that hold shares of two stats, or a share and a flat amount, are
summed up before the call; all else is one amount that scales with a stat. -/
def DamageRow.called (row : DamageRow) (v : TableValue) : EngineCall :=
  match row.schema? kit, v.isList with
  | some (.statStat first second), true =>
    .amount .dmgBasic (share kit total first (v.part 0) + share kit total second (v.part 1)) row.further
  | some (.statFlat stat), true => .amount .dmgBasic (share kit total stat (v.part 0) + v.part 1) row.further
  | _, _ => row.scaledCall kit total (row.amount kit v) (row.scaledBy kit)

def supportScale (talent table : String) (scaleStat : Option String) : String :=
  (supportStat kit talent table scaleStat).toOption.getD "hp"

def supported (talent table : String) (scaleStat : Option String) (values : String → TableValue) : Float :=
  let stat := supportScale kit talent table scaleStat
  match supportPair? kit talent table with
  | some (percent, flat) =>
    share kit total stat ((values percent).part 0) + (values flat).part (if kit.game = .gs then 1 else 0)
  | none =>
    match values table with
    | .list xs => share kit total stat (TableValue.part (.list xs) 0) + TableValue.part (.list xs) 1
    | .scalar x => if flatThreshold kit.game < x then x else share kit total stat x

def called (d : Detail) (values : String → TableValue) : EngineCall :=
  let support := supported kit total (d.talent.getD "") (d.table.getD "") d.scaleStat values
  match d.kind with
  | .dmg => (damageRowOf d).called kit total (values (d.table.getD ""))
  | .heal => .amount .heal support []
  | .shield => .amount .shield support []
  | .reaction => .reaction (d.reaction.getD "")

def supportTables (talent table : String) : List String :=
  match supportPair? kit talent table with
  | some (percent, flat) => [percent, flat]
  | none => [table]

def tablesRead (d : Detail) : List String :=
  match d.kind with
  | .dmg => [d.table.getD ""]
  | .heal | .shield => supportTables kit (d.talent.getD "") (d.table.getD "")
  | .reaction => []

end Called

structure Holds (talents : List (String × Value)) (talent table : String) (v : TableValue) : Prop where
  given : ∃ entries, Value.field talents talent = .record entries ∧ Value.field entries table = v.value
  finite : v.Finite

def HaveTotals (attrs : List (String × Value)) (total : String → Float) : Prop :=
  ∀ stat ∈ Scaling.stats, IsAttribute (Value.field attrs stat) (total stat)

theorem HaveTotals.of {attrs : List (String × Value)} {total : String → Float} (totals : HaveTotals attrs total)
    {stat : String} (known : stat ∈ Scaling.stats) : HasTotal (Value.field attrs stat) (total stat) :=
  attribute_total _ _ (totals stat known)

section Evaluated

variable {game : Game} {talents attrs : List (String × Value)} {engine : Engine} {scope : Scope} {e : Expr} {x y : Float}
  {talent table stat : String} {v : TableValue}

theorem position_of_computed (x : Float) (k : Nat) (computed : (toInteger x).toOption = some (k : Int)) :
    toInteger x = .ok k := by
  cases whole : toInteger x with
  | error e =>
    rw [whole] at computed
    cases computed
  | ok n =>
    rw [whole] at computed
    cases computed
    rfl

theorem zero_position : toInteger 0 = .ok (0 : Nat) := position_of_computed 0 0 (by decide +kernel)

theorem one_position : toInteger 1 = .ok (1 : Nat) := position_of_computed 1 1 (by decide +kernel)

theorem position_whole (k : Nat) (small : k ≤ 10) :
    ∃ x, Decimal.ofInteger (Int.ofNat k) = .ok x ∧ toInteger x = .ok k := by
  have each : ∀ k ≤ 10, (Decimal.ofInteger (Int.ofNat k)).toOption.any
      (fun x => decide ((toInteger x).toOption = some (k : Int))) = true := by decide +kernel
  have one := each k small
  cases converted : Decimal.ofInteger (Int.ofNat k) with
  | error e =>
    rw [converted] at one
    cases one
  | ok x =>
    rw [converted] at one
    exact ⟨x, rfl, position_of_computed x k (of_decide_eq_true one)⟩

section Data

variable (recorded : Recorded game talents attrs engine scope)

include recorded

theorem table_ref_finds (holds : Holds talents talent table v) : Finds engine scope (tableRef talent table) (· = v.value) := by
  obtain ⟨entries, isTalent, isTable⟩ := holds.given
  have found : evaluate engine scope (tableRef talent table) = pure v.value := by
    simp [tableRef, evaluate, recorded.tables, memberOf, indexOf, Evaluation.lift, isTalent, isTable]
  unfold Finds
  rw [found]
  exact quietly_pure _ rfl

theorem pick_part_finds (holds : Holds talents talent table v) (i : Nat) (whole : toInteger x = .ok i) :
    Finds engine scope (pickPart talent table x) (Counts (v.part i)) :=
  pick_finds recorded v (table_ref_finds recorded holds) i x whole

theorem table_part_finds (holds : Holds talents talent table v) (i : Nat) (whole : toInteger x = .ok i) :
    Finds engine scope (tablePart talent table x) (Counts (v.part i)) :=
  num_finds recorded (TableValue.part_finite holds.finite i) (pick_part_finds recorded holds i whole)

theorem stat_total_finds (totals : HasTotal (Value.field attrs stat) x) :
    Finds engine scope (statTotal stat) (Counts x) := by
  refine calc_finds recorded ?_
  have found : evaluate engine scope (.path "attr" [stat]) = pure (Value.field attrs stat) := by
    simp [Expr.path, evaluate, recorded.stats, memberOf, Evaluation.lift]
  unfold Finds
  rw [found]
  exact quietly_pure _ totals

theorem share_of_finds (totals : HasTotal (Value.field attrs stat) y) (amount : Finds engine scope e (Counts x)) :
    Finds engine scope (shareOf stat e) (Counts (y * ratioOf game x)) :=
  times_finds (stat_total_finds recorded totals) (to_ratio_finds recorded amount)

omit recorded in
theorem damage_arguments_find (key : String) (element : Option String) (amount : Finds engine scope e (Counts x)) :
    Quietly (evaluateList engine scope (e :: damageArguments key element))
      fun vs => ∃ v, Counts x v ∧ vs = v :: argumentValues key element := by
  simp only [evaluateList, damage_arguments_evaluate engine scope key element, pure_bind]
  exact quietly_bind _ _ amount fun v counts => quietly_pure _ ⟨v, counts, rfl⟩

theorem damage_call_engages (row : DamageRow) (amount : Finds engine scope e (Counts x)) :
    Engages (evaluate engine scope (damageCall e row.key row.element)) (.amount .dmg x row.further) := by
  refine call_engages recorded "dmg" .dmg (by decide) _ _ _ (damage_arguments_find row.key row.element amount) ?_
  rintro _ ⟨v, counts, rfl⟩
  exact engage_amount game .dmg x v counts _ (argument_values_few row.key row.element) (.inl rfl)

theorem basic_damage_call_engages (row : DamageRow) (amount : Finds engine scope e (Counts x)) :
    Engages (evaluate engine scope (basicDamageCall e row.key row.element)) (.amount .dmgBasic x row.further) := by
  have func : evaluate engine scope (.path "dmg" ["basic"]) = pure (.helper .dmgBasic) := by
    simp [Expr.path, evaluate, recorded.helpers ("dmg", .dmg) (by decide), memberOf, Evaluation.lift]
  unfold basicDamageCall
  simp only [evaluate, func, pure_bind]
  refine engages_after _ _ _ (damage_arguments_find row.key row.element amount) ?_
  rintro _ ⟨v, counts, rfl⟩
  rw [recorded.recording]
  exact engage_amount game .dmgBasic x v counts _ (argument_values_few row.key row.element) (.inr rfl)

theorem scaled_damage_engages (row : DamageRow) (totals : stat ≠ "atk" → HasTotal (Value.field attrs stat) y)
    (amount : Finds engine scope e (Counts x)) :
    Engages (evaluate engine scope (row.scaled e stat)) (row.callIn game stat y x) := by
  unfold DamageRow.scaled scaledDamage DamageRow.callIn
  split
  · exact damage_call_engages recorded row amount
  · rename_i other
    exact basic_damage_call_engages recorded row (share_of_finds recorded (totals (by simpa using other)) amount)

theorem hits_find (row : DamageRow) (holds : Holds talents row.talent row.table v) : Finds engine scope
    (times (row.part 0) (.conditional (isList (tableRef row.talent row.table)) (row.part 1) (.natural 1)))
    (Counts (if v.isList then v.part 0 * v.part 1 else v.part 0)) := by
  have first : Finds engine scope (row.part 0) (Counts (v.part 0)) := table_part_finds recorded holds 0 zero_position
  have second : Finds engine scope (row.part 1) (Counts (v.part 1)) := table_part_finds recorded holds 1 one_position
  have listed := is_list_finds recorded v (table_ref_finds recorded holds)
  have count : Finds engine scope (.conditional (isList (tableRef row.talent row.table)) (row.part 1) (.natural 1))
      (Counts (if v.isList then v.part 1 else 1)) := by
    refine conditional_finds v.isList listed (fun isList => ?_) fun single => ?_
    · simpa only [isList, if_true] using second
    · have one : Finds engine scope (.natural 1) (Counts 1) := finds_number 1
      simpa only [single, Bool.false_eq_true, if_false] using one
  have product := times_finds first count
  have hitOnce := Decimal.times_one _ (TableValue.part_finite holds.finite 0)
  cases isList : v.isList with
  | true =>
    simp only [isList, if_true] at product ⊢
    exact product
  | false =>
    simp only [isList, Bool.false_eq_true, if_false, hitOnce] at product ⊢
    exact product

theorem counted_amount_finds (row : DamageRow) (holds : Holds talents row.talent row.table v) : Finds engine scope
    (if totalMarker.occursIn row.title then
      times (row.part 0) (.conditional (isList (tableRef row.talent row.table)) (row.part 1) (.natural 1))
    else row.part 0)
    (Counts (if totalMarker.occursIn row.title && v.isList then v.part 0 * v.part 1 else v.part 0)) := by
  cases totalMarker.occursIn row.title with
  | true =>
    simp only [if_true, Bool.true_and]
    exact hits_find recorded row holds
  | false =>
    simp only [Bool.false_eq_true, if_false, Bool.false_and]
    exact table_part_finds recorded holds 0 zero_position

end Data

section Kits

variable {kit : Kit} {total : String → Float} (recorded : Recorded kit.game talents attrs engine scope)

include recorded

section Rows

variable (totals : HaveTotals attrs total) (row : DamageRow) (holds : Holds talents row.talent row.table v)

include totals holds

theorem damage_of_part_engages (known : stat ∈ Scaling.stats) (i : Nat) (whole : toInteger x = .ok i) :
    Engages (evaluate engine scope (damageOfPart row stat x)) (row.scaledCall kit total (v.part i) stat) :=
  scaled_damage_engages recorded row (fun _ => totals.of known) (table_part_finds recorded holds i whole)

theorem damage_as_engages (unpicked : row.pick = none) (told : row.stat kit = .ok stat) (schema : Option Scaling.Schema)
    (shaped : row.schema? kit = schema) (known : ∀ s ∈ schema, s.Known) :
    Engages (evaluate engine scope (damageAs row stat schema)) (row.called kit total v) := by
  have own := damage_stat_known kit row.talent row.table row.scaleStat stat told
  have single := damage_of_part_engages recorded totals row holds own 0 zero_position
  have scale : row.ownStat kit = stat := by
    rw [DamageRow.ownStat, told]
    rfl
  have ref := table_ref_finds recorded holds
  have listed := is_list_finds recorded v ref
  have first := pick_part_finds recorded holds 0 zero_position
  have second := pick_part_finds recorded holds 1 one_position
  unfold DamageRow.called DamageRow.amount DamageRow.scaledBy
  rw [shaped, unpicked, scale]
  cases schema with
  | none => exact single
  | some schema =>
    have stats := known schema rfl
    cases schema with
    | statStat one two =>
      refine conditional_engages v.isList _ listed (fun isList => ?_) fun other => ?_
      · rw [isList]
        exact basic_damage_call_engages recorded row
          (plus_finds (share_of_finds recorded (totals.of stats.1) first) (share_of_finds recorded (totals.of stats.2) second))
      · rw [other]
        exact single
    | statFlat stat =>
      refine conditional_engages v.isList _ listed (fun isList => ?_) fun other => ?_
      · rw [isList]
        exact basic_damage_call_engages recorded row
          (plus_finds (share_of_finds recorded (totals.of stats) first) (table_part_finds recorded holds 1 one_position))
      · rw [other]
        exact single
    | statTimes other =>
      exact scaled_damage_engages recorded row (fun _ => totals.of (over_attack_known stat other own stats))
        (counted_amount_finds recorded row holds)
    | percentList other =>
      exact scaled_damage_engages recorded row (fun _ => totals.of (over_attack_known stat other own stats))
        (sum_finds recorded v holds.finite ref)

theorem table_damage_engages (low : ∀ p ∈ row.pick, ∃ k ≤ 10, p = Int.ofNat k) (made : tableDamage kit row = .ok e) :
    Engages (evaluate engine scope e) (row.called kit total v) := by
  cases (table_damage_ok_iff kit row e).mp made with
  | picked stat position x told picked converted =>
    obtain ⟨k, small, rfl⟩ := low position picked
    obtain ⟨y, same, whole⟩ := position_whole k small
    obtain rfl := Except.ok.inj (same.symm.trans converted)
    have single := damage_of_part_engages recorded totals row holds
      (damage_stat_known kit row.talent row.table row.scaleStat stat told) k whole
    have scale : row.ownStat kit = stat := by
      rw [DamageRow.ownStat, told]
      rfl
    simp only [DamageRow.called, DamageRow.amount, DamageRow.scaledBy, DamageRow.schema?, picked, scale]
    exact single
  | shaped stat schema told unpicked found =>
    refine damage_as_engages recorded totals row holds unpicked told schema ?_ ?_
    · simp only [DamageRow.schema?, unpicked, found]
      rfl
    · rintro s rfl
      exact Scaling.schema_known kit row.talent row.table s found

end Rows

section Supports

variable (totals : HaveTotals attrs total) (values : String → TableValue)

include totals

omit values in
theorem flat_or_share_finds (known : stat ∈ Scaling.stats) (holds : Holds talents talent table (.scalar x)) (least : Float) :
    let scalar := Expr.callName "num" [tableRef talent table]
    Finds engine scope (.conditional (.binary .greater scalar (.number least)) scalar (shareOf stat scalar))
      (Counts (if least < x then x else share kit total stat x)) := by
  intro scalar
  have own : Finds engine scope (tableRef talent table) (Counts x) :=
    quietly_mono _ (table_ref_finds recorded holds) fun _ same => same ▸ counts_number ⟨x, none⟩
  have number := num_finds recorded (holds.finite x (by simp [TableValue.numbers])) own
  refine conditional_finds _ (greater_finds number least) (fun large => ?_) fun small => ?_
  · simpa only [of_decide_eq_true large, if_true] using number
  · simpa only [of_decide_eq_false small, if_false, share] using share_of_finds recorded (totals.of known) number

theorem support_amount_finds (scaleStat : Option String) (told : supportAmount kit talent table scaleStat = .ok e)
    (holds : ∀ t ∈ supportTables kit talent table, Holds talents talent t (values t)) :
    Finds engine scope e (Counts (supported kit total talent table scaleStat values)) := by
  obtain ⟨stat, own, rfl⟩ := map_ok _ _ _ told
  have same : supportScale kit talent table scaleStat = stat := by
    rw [supportScale, own]
    rfl
  have known : stat ∈ Scaling.stats := support_stat_known kit talent table scaleStat stat own
  unfold supportAmountOf
  simp only [supported, same]
  unfold supportTables at holds
  cases pair : supportPair? kit talent table with
  | some tables =>
    obtain ⟨percent, flat⟩ := tables
    simp only [pair, List.forall_mem_cons] at holds
    obtain ⟨percentHolds, flatHolds, -⟩ := holds
    have percentShare := share_of_finds recorded (totals.of known) (table_part_finds recorded percentHolds 0 zero_position)
    refine plus_finds percentShare (table_part_finds recorded flatHolds _ ?_)
    split
    · exact one_position
    · exact zero_position
  | none =>
    simp only [pair, List.forall_mem_cons] at holds
    obtain ⟨holds, -⟩ := holds
    have ref := table_ref_finds recorded holds
    have listed := is_list_finds recorded _ ref
    refine conditional_finds _ listed (fun isList => ?_) fun single => ?_
    · have first := share_of_finds recorded (totals.of known) (pick_part_finds recorded holds 0 zero_position)
      have sum := plus_finds first (table_part_finds recorded holds 1 one_position)
      cases value : values table with
      | scalar x => simp [value, TableValue.isList] at isList
      | list xs =>
        rw [value] at sum
        exact sum
    · cases value : values table with
      | list xs => simp [value, TableValue.isList] at single
      | scalar x =>
        rw [value] at holds
        exact flat_or_share_finds recorded totals known holds (flatThreshold kit.game)

omit totals in
theorem support_call_engages (name : String) (h : Helper) (known : (name, h) ∈ formulaHelpers)
    (dealt : h = .heal ∨ h = .shield) (amount : Finds engine scope e (Counts x)) :
    Engages (evaluate engine scope (.callName name [e])) (.amount h x []) := by
  have argument : Quietly (evaluateList engine scope [e]) fun vs => ∃ v, Counts x v ∧ vs = [v] := by
    simp only [evaluateList, pure_bind]
    exact quietly_bind _ _ amount fun v counts => quietly_pure _ ⟨v, counts, rfl⟩
  refine call_engages recorded name h known _ _ _ argument ?_
  rintro _ ⟨v, counts, rfl⟩
  exact engage_support kit.game h x v counts dealt

omit totals in
theorem reaction_call_engages (id : String) :
    Engages (evaluate engine scope (reactionCall id)) (.reaction id) := by
  refine call_engages recorded "reaction" .reaction (by decide) _ (· = [.string id]) _ (quietly_pure _ rfl) ?_
  rintro _ rfl
  exact engage_reaction kit.game id

theorem formula_engages (d : Detail) (low : ∀ p ∈ d.pick, p ≤ 10)
    (holds : ∀ t ∈ tablesRead kit d, Holds talents (d.talent.getD "") t (values t)) (made : ofDetail.formula kit d = .ok e) :
    Engages (evaluate engine scope e) (called kit total d values) := by
  unfold ofDetail.formula at made
  unfold tablesRead at holds
  unfold called
  cases kind : d.kind with
  | reaction =>
    rw [kind] at made
    cases made
    exact reaction_call_engages recorded _
  | heal =>
    rw [kind] at made holds
    obtain ⟨amount, told, shape⟩ := lifted_ok _ _ _ _ made
    cases shape
    exact support_call_engages recorded "heal" .heal (by decide) (.inl rfl)
      (support_amount_finds recorded totals values d.scaleStat told holds)
  | shield =>
    rw [kind] at made holds
    obtain ⟨amount, told, shape⟩ := lifted_ok _ _ _ _ made
    cases shape
    exact support_call_engages recorded "shield" .shield (by decide) (.inr rfl)
      (support_amount_finds recorded totals values d.scaleStat told holds)
  | dmg =>
    rw [kind] at made holds
    exact table_damage_engages recorded totals (damageRowOf d) (holds _ List.mem_cons_self) (row_pick_low d low) made

end Supports

end Kits

end Evaluated

end DamagePlan.Formula

namespace DamagePlan.Render

open Script
open Formula (Holds HaveTotals tablesRead called)

structure IsData (kit : Kit) (d : Detail) (values : String → TableValue) (total : String → Float)
    (talents attrs : List (String × Value)) : Prop where
  tables : ∀ table ∈ tablesRead kit d, Holds talents (d.talent.getD "") table (values table)
  totals : HaveTotals attrs total

theorem row_engages (kit : Kit) (scope : Scope) (d : Detail) (listed : Whitelisted kit d)
    (formula : given d.raw = none) (row : LoadedDetail) (isRow : IsRow kit scope d row)
    (talents attrs : List (String × Value)) (values : String → TableValue) (total : String → Float)
    (data : IsData kit d values total talents attrs) (engine : Engine) (bindings : Scope)
    (recorded : ∀ captured, Recorded kit.game talents attrs engine (Scope.overlay captured bindings)) :
    Engages (Script.invoke engine bindings row.damage.1 row.damage.2) (called kit total d values) := by
  obtain ⟨e, made, damage⟩ := formula_row (listed.presentable) formula isRow
  rw [damage]
  exact Formula.formula_engages (recorded scope) data.totals values d listed.pick data.tables made

/-- Over given data, each row of a loaded script that has no text of its own calls the engine exactly once, for what its
table's formula says. -/
theorem rendered_row_computes_formula (stack : Stack) (kit : Kit) (plan : Plan)
    (listed : WhitelistedPlan kit plan) (tag text : String) (rendered : render kit plan tag = .ok text)
    (loaded : LoadedScript) (loads : load stack text = .ok loaded) (i : Nat) (d : Detail) (there : plan.details[i]? = some d)
    (formula : given d.raw = none) (talents attrs : List (String × Value)) (values : String → TableValue)
    (total : String → Float) (data : IsData kit d values total talents attrs) (params : Value) (cons : Numeral)
    (weapon trees : Value) (element currentTalent : String) (marks : Nat) :
    let context := Context.recording kit.game (.record talents) (.record attrs) params cons weapon trees element currentTalent
    ∃ row entry v after, loaded.details[i]? = some row ∧
      { context with marks := marks }.invoke row.damage.1 row.damage.2 = (.ok v, after) ∧
      after.calls = [entry] ∧ IsLogged (called kit total d values) entry v := by
  intro context
  obtain ⟨-, -, rows⟩ := rendered_rows stack kit plan listed tag text rendered loaded loads
  obtain ⟨row, thereLoaded, isRow⟩ := paired_at _ _ rows i d there
  have recorded := recording_recorded kit.game talents attrs params cons weapon trees element currentTalent
  have engages := row_engages kit _ d (listed.details d (List.mem_of_getElem? there)) formula row isRow talents attrs
    values total data context.engine context.bindings recorded
  obtain ⟨entry, v, after, ran, logged, isLogged⟩ := engages { marks := marks }
  exact ⟨row, entry, v, after, thereLoaded, ran, logged, isLogged⟩

def burstKit : Kit :=
  { game := .gs, name := "X", tables := [("q", ["Burst DMG"])],
    textSamples := [("q", [("Burst DMG", "50%ATK + 30%DEF")])] }

def burstRow : Detail := { title := "Burst", talent := some "q", table := some "Burst DMG" }

def burstPlan : Plan := { mainAttrs := "atk", details := [burstRow] }

def burstTalents : List (String × Value) :=
  [("q", .record [("Burst DMG", (TableValue.list [50, 30]).value)])]

def burstAttributes : List (String × Value) :=
  [("atk", .record [("base", .number ⟨1000, none⟩), ("plus", .number ⟨100, none⟩), ("pct", .number ⟨20, none⟩)]),
    ("def", .number ⟨800, none⟩)]

def burstTotal (stat : String) : Float :=
  if stat = "atk" then 1000 * (1 + 20 / 100) + 100 else if stat = "def" then 800 else 0

theorem burst_listed : WhitelistedPlan burstKit burstPlan := by
  refine ⟨?_, by decide⟩
  simp only [burstPlan, List.mem_singleton, forall_eq]
  exact ⟨by decide, fun _ => by decide +kernel, nofun, nofun, nofun, nofun⟩

theorem burst_data : IsData burstKit burstRow (fun _ => .list [50, 30]) burstTotal burstTalents burstAttributes where
  tables := by
    simp only [tablesRead, burstRow, List.forall_mem_cons]
    have finite : ∀ x ∈ [50, 30], Decimal.isFinite x = true := by decide +kernel
    exact ⟨⟨⟨_, rfl, rfl⟩, finite⟩, nofun⟩
  totals := by
    simp only [HaveTotals, Scaling.stats, List.forall_mem_cons]
    exact ⟨.parts _ ⟨1000, none⟩ ⟨100, none⟩ ⟨20, none⟩ rfl rfl rfl, .number ⟨800, none⟩, .absent, .absent, nofun⟩

theorem burst_row_computes_sum : WhitelistedPlan burstKit burstPlan ∧
    IsData burstKit burstRow (fun _ => .list [50, 30]) burstTotal burstTalents burstAttributes ∧
    ∃ text loaded row entry v after, render burstKit burstPlan "calcplan" = .ok text ∧
      load (.levels 200) text = .ok loaded ∧ loaded.details[0]? = some row ∧
      (Context.recording .gs (.record burstTalents) (.record burstAttributes) (.record []) .zero .null .null "" "").invoke
        row.damage.1 row.damage.2 = (.ok v, after) ∧ after.calls = [entry] ∧
      IsLogged (.amount .dmgBasic (burstTotal "atk" * (50 / 100) + burstTotal "def" * (30 / 100)) [.string "q", .null])
        entry v := by
  refine ⟨burst_listed, burst_data, ?_⟩
  have shaped : (Formula.damageRowOf burstRow).schema? burstKit = some (.statStat "atk" "def") := by decide +kernel
  rcases plain_plan_loads (.levels 200) burstKit burstPlan burst_listed (by
      simp only [burstPlan, List.mem_singleton, forall_eq]
      exact ⟨rfl, rfl, rfl⟩) rfl "calcplan" with ⟨d, member, x, failed⟩ | ⟨text, loaded, rendered, loads⟩
  · have made : (Formula.ofDetail burstKit burstRow).isOk = true := by decide +kernel
    obtain rfl : d = burstRow := List.mem_singleton.mp member
    rw [failed] at made
    cases made
  · obtain ⟨row, entry, v, after, there, ran, logged, isLogged⟩ := rendered_row_computes_formula (.levels 200) burstKit
      burstPlan burst_listed "calcplan" text rendered loaded loads 0 burstRow rfl rfl burstTalents burstAttributes _ _
      burst_data (.record []) .zero .null .null "" "" 0
    refine ⟨text, loaded, row, entry, v, after, rendered, loads, there, ran, logged, ?_⟩
    have call : called burstKit burstTotal burstRow (fun _ => .list [50, 30]) =
        .amount .dmgBasic (burstTotal "atk" * (50 / 100) + burstTotal "def" * (30 / 100)) [.string "q", .null] := by
      change (Formula.damageRowOf burstRow).called burstKit burstTotal (.list [50, 30]) = _
      unfold Formula.DamageRow.called
      rw [shaped]
      rfl
    rwa [call] at isLogged

end DamagePlan.Render
