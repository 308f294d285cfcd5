import DamagePlan.Proofs.Plan.Admitted
import DamagePlan.Proofs.Render.Room

/-!
Plans without a script: which numbers are refused by name, which integers are too large to become numbers at all, and
which formulas cannot be told.
-/
set_option autoImplicit false

namespace DamagePlan

namespace Formula

open Script Decimal
open Script.Expr (nonFinite? nonFiniteInList?)

variable {amount : Expr} {x : Float}

theorem zero_finite : isFinite 0 = true := Render.natural_finite 0 (by decide)

theorem one_finite : isFinite 1 = true := Render.natural_finite 1 (by decide)

theorem table_ref_finite (talent table : String) : (tableRef talent table).nonFinite? = none := rfl

theorem pick_part_finite (talent table : String) (finite : isFinite x = true) :
    (pickPart talent table x).nonFinite? = none := by
  simp [pickPart, Expr.callName, nonFinite?, nonFiniteInList?, table_ref_finite, finite]

theorem call_name_finite (function : String) (arg : Expr) (finite : arg.nonFinite? = none) :
    (Expr.callName function [arg]).nonFinite? = none := by
  simp [Expr.callName, nonFinite?, nonFiniteInList?, finite]

theorem table_part_finite (talent table : String) (finite : isFinite x = true) :
    (tablePart talent table x).nonFinite? = none := call_name_finite "num" _ (pick_part_finite talent table finite)

theorem stat_total_finite (stat : String) : (statTotal stat).nonFinite? = none := rfl

theorem binary_finite (op : BinaryOp) (a b : Expr) (left : a.nonFinite? = none) (right : b.nonFinite? = none) :
    (Expr.binary op a b).nonFinite? = none := by
  simp [nonFinite?, left, right]

theorem conditional_finite (a b c : Expr) (test : a.nonFinite? = none) (consequent : b.nonFinite? = none)
    (alternative : c.nonFinite? = none) : (Expr.conditional a b c).nonFinite? = none := by
  simp [nonFinite?, test, consequent, alternative]

theorem share_of_finite (stat : String) (finite : amount.nonFinite? = none) : (shareOf stat amount).nonFinite? = none :=
  binary_finite _ _ _ (stat_total_finite stat) (call_name_finite "toRatio" _ finite)

theorem arguments_finite (key : String) (element : Option String) (finite : amount.nonFinite? = none) :
    nonFiniteInList? (amount :: damageArguments key element) = none := by
  unfold damageArguments
  split
  · split <;> simp [nonFinite?, nonFiniteInList?, finite]
  · simp [nonFinite?, nonFiniteInList?, finite]

theorem basic_damage_finite (key : String) (element : Option String) (finite : amount.nonFinite? = none) :
    (basicDamageCall amount key element).nonFinite? = none := by
  simp only [basicDamageCall, nonFinite?, arguments_finite key element finite]
  rfl

theorem scaled_damage_finite (stat key : String) (element : Option String) (finite : amount.nonFinite? = none) :
    (scaledDamage amount stat key element).nonFinite? = none := by
  unfold scaledDamage
  split
  · simp only [damageCall, Expr.callName, nonFinite?, arguments_finite key element finite]
    rfl
  · exact basic_damage_finite key element (share_of_finite stat finite)

theorem damage_of_part_finite (row : DamageRow) (stat : String) (finite : isFinite x = true) :
    (damageOfPart row stat x).nonFinite? = none :=
  scaled_damage_finite _ _ _ (table_part_finite _ _ finite)

theorem damage_as_finite (row : DamageRow) (stat : String) (schema : Option Scaling.Schema) :
    (damageAs row stat schema).nonFinite? = none := by
  have listed : (isList (tableRef row.talent row.table)).nonFinite? = none := call_name_finite _ _ (table_ref_finite _ _)
  have single := damage_of_part_finite row stat zero_finite
  have first := pick_part_finite row.talent row.table zero_finite
  have second := pick_part_finite row.talent row.table one_finite
  have firstPart := table_part_finite row.talent row.table zero_finite
  have secondPart := table_part_finite row.talent row.table one_finite
  cases schema with
  | none => exact single
  | some schema =>
    cases schema with
    | statStat one two =>
      have amount := binary_finite .add _ _ (share_of_finite one first) (share_of_finite two second)
      exact conditional_finite _ _ _ listed (basic_damage_finite _ _ amount) single
    | statFlat stat =>
      have amount := binary_finite .add _ _ (share_of_finite stat first) secondPart
      exact conditional_finite _ _ _ listed (basic_damage_finite _ _ amount) single
    | statTimes stat =>
      refine scaled_damage_finite _ _ _ ?_
      split
      · have count : (Expr.natural 1).nonFinite? = none := by simp [Expr.natural, nonFinite?, Render.natural_finite 1]
        exact binary_finite _ _ _ firstPart (conditional_finite _ _ _ listed secondPart count)
      · exact firstPart
    | percentList stat => exact scaled_damage_finite _ _ _ (call_name_finite "sum" _ (table_ref_finite _ _))

theorem support_amount_finite (kit : Kit) (talent table stat : String) :
    (supportAmountOf kit talent table stat).nonFinite? = none := by
  have threshold : isFinite (flatThreshold kit.game) = true := by cases kit.game <;> decide +kernel
  have position : isFinite (if kit.game = .gs then 1 else 0) = true := by
    split
    · exact one_finite
    · exact zero_finite
  have listed : (isList (tableRef talent table)).nonFinite? = none := call_name_finite _ _ (table_ref_finite _ _)
  have scalar : (Expr.callName "num" [tableRef talent table]).nonFinite? = none :=
    call_name_finite _ _ (table_ref_finite _ _)
  unfold supportAmountOf
  dsimp only
  split
  · exact binary_finite _ _ _ (share_of_finite _ (table_part_finite _ _ zero_finite)) (table_part_finite _ _ position)
  · have large := binary_finite .greater _ (.number (flatThreshold kit.game)) scalar (by simp [nonFinite?, threshold])
    exact conditional_finite _ _ _ listed
      (binary_finite _ _ _ (share_of_finite _ (pick_part_finite _ _ zero_finite)) (table_part_finite _ _ one_finite))
      (conditional_finite _ _ _ large scalar (share_of_finite _ scalar))

theorem formula_finite (kit : Kit) (d : Detail) (e : Expr) (made : ofDetail kit d = .ok e) :
    e.nonFinite? = none := by
  have formula : ∀ e, ofDetail.formula kit d = .ok e → e.nonFinite? = none := by
    intro e made
    unfold ofDetail.formula at made
    split at made
    · cases made
      rfl
    · obtain ⟨amount, told, shape⟩ := lifted_ok _ _ _ _ made
      obtain ⟨stat, -, rfl⟩ := map_ok _ _ _ told
      cases shape
      exact call_name_finite _ _ (support_amount_finite _ _ _ _)
    · obtain ⟨amount, told, shape⟩ := lifted_ok _ _ _ _ made
      obtain ⟨stat, -, rfl⟩ := map_ok _ _ _ told
      cases shape
      exact call_name_finite _ _ (support_amount_finite _ _ _ _)
    · cases (table_damage_ok_iff kit _ e).mp made with
      | picked stat position x _ _ converted => exact damage_of_part_finite _ stat (of_integer_finite _ _ converted)
      | shaped stat schema => exact damage_as_finite _ stat schema
  unfold ofDetail at made
  split at made
  · split at made
    · exact formula e made
    · cases made
      rfl
  · exact formula e made

end Formula

namespace Render

open Script Decimal
open Script.Expr (nonFinite? nonFiniteInList? nonFiniteInEntries?)

def RowFits (d : Detail) : Prop :=
  ∀ params ∈ d.params, ∀ field ∈ params, ∀ n, field.2 = .int n → ∃ x, ofInteger n = .ok x

def OrderFits (b : Buff) : Prop := ∀ s ∈ b.sort, ∃ x, ofInteger s = .ok x

/-- Integers that become numbers of a script: those of parameters and of the order of buffs. -/
structure IntegersFit (plan : Plan) : Prop where
  params : ∀ d ∈ plan.details, RowFits d
  sort : ∀ b ∈ plan.buffs, OrderFits b

/-- The formula of a row can be told: all texts that it is made of can be read. -/
def IsTold (kit : Kit) (d : Detail) : Prop := ∃ e, Formula.ofDetail kit d = .ok e

/-- The first row that cannot be written is one of these. -/
def StopsAt (kit : Kit) (plan : Plan) (P : Detail → Prop) : Prop := ∃ before d after,
  plan.details = before ++ d :: after ∧ (∀ row ∈ before, RowFits row ∧ IsTold kit row) ∧ P d

theorem Writable.integers {plan : Plan} (writable : Writable plan) : IntegersFit plan where
  params d member params own field among n same := by
    have fits := writable.params d member params own field among
    rwa [same] at fits
  sort := writable.sort

theorem entries_finite_iff (entries : List (String × Expr)) :
    (Expr.record entries).nonFinite? = none ↔ ∀ entry ∈ entries, entry.2.nonFinite? = none := by
  refine ⟨record_finite entries, fun each => ?_⟩
  rw [nonFinite?]
  induction entries with
  | nil => rfl
  | cons entry rest ih =>
    obtain ⟨key, e⟩ := entry
    obtain ⟨first, later⟩ := List.forall_mem_cons.mp each
    rw [nonFiniteInEntries?, first, Option.none_or, ih later]

theorem items_finite_iff (es : List Expr) : (Expr.list es).nonFinite? = none ↔ ∀ e ∈ es, e.nonFinite? = none := by
  refine ⟨list_finite es, fun each => ?_⟩
  rw [nonFinite?]
  induction es with
  | nil => rfl
  | cons e rest ih =>
    obtain ⟨first, later⟩ := List.forall_mem_cons.mp each
    rw [nonFiniteInList?, first, Option.none_or, ih later]

theorem plain_made_iff (j : Json) (plain : isPlainParameter j = true) :
    (∃ e, Expr.ofJson j = .ok e) ↔ ∀ n, j = .int n → ∃ x, ofInteger n = .ok x := by
  cases j with
  | int n =>
    simp only [Expr.ofJson, Json.int.injEq, forall_eq']
    constructor
    · rintro ⟨e, made⟩
      obtain ⟨x, converted, -⟩ := map_ok _ _ _ made
      exact ⟨x, converted⟩
    · exact map_total _ _
  | bool _ | float _ | str _ =>
    refine ⟨fun _ n same => ?_, fun _ => ⟨_, rfl⟩⟩
    cases same
  | null | arr _ | obj _ => cases plain

theorem fields_total (fields : Fields Json) (each : ∀ field ∈ fields, ∃ e, Expr.ofJson field.2 = .ok e) :
    ∃ es, Expr.ofJsonFields fields = .ok es := by
  induction fields with
  | nil => exact ⟨[], rfl⟩
  | cons field rest ih =>
    obtain ⟨key, j⟩ := field
    obtain ⟨first, later⟩ := List.forall_mem_cons.mp each
    exact bind_total _ _ first fun e => bind_total _ _ (ih later) fun es => ⟨_, rfl⟩

theorem parameters_made_iff (d : Detail) : (∃ fields, parametersOf d = .ok fields) ↔ RowFits d := by
  unfold parametersOf RowFits
  split
  · rename_i none
    simp [none]
  · rename_i empty
    simp [empty]
  · rename_i params filled own
    rw [own]
    simp only [Option.mem_def, Option.some.injEq, forall_eq']
    constructor
    · rintro ⟨fields, made⟩ field among n same
      obtain ⟨es, converted, -⟩ := bind_ok _ _ _ made
      have plain : isPlainParameter field.2 = true := by rw [same]; rfl
      obtain ⟨e, scalar, -⟩ := fields_made _ es converted field (List.mem_filter.mpr ⟨among, plain⟩)
      exact (plain_made_iff field.2 plain).mp ⟨e, scalar⟩ n same
    · intro fits
      refine bind_total _ _ (fields_total _ fun field member => ?_) fun es => ⟨_, rfl⟩
      obtain ⟨among, plain⟩ := List.mem_filter.mp member
      exact (plain_made_iff field.2 plain).mpr (fits field among)

theorem parameters_finite (d : Detail) (fields : List (String × Expr)) (made : parametersOf d = .ok fields)
    (fits : ∀ params ∈ d.params, ∀ field ∈ params, ScalarFits field.2) : ∀ entry ∈ fields, entry.2.nonFinite? = none := by
  unfold parametersOf at made
  split at made
  · cases made
    exact List.forall_mem_nil _
  · cases made
    exact List.forall_mem_nil _
  · rename_i params filled own
    obtain ⟨es, converted, made⟩ := bind_ok _ _ _ made
    cases made
    obtain ⟨es', written, -, delivers, -⟩ := fields_deliver _ (plain_parameters params (fits params own))
    cases converted.symm.trans written
    simp only [List.forall_mem_singleton]
    exact (entries_finite_iff es).mpr fun entry among => (delivers entry among).finite

theorem optional_finite {α : Type} (key : String) (a? : Option α) (make : α → Expr)
    (each : ∀ a ∈ a?, (make a).nonFinite? = none) : ∀ entry ∈ entry? key (a?.map make), entry.2.nonFinite? = none := by
  cases a? with
  | none => exact List.forall_mem_nil _
  | some a => simpa [ entry?] using each a rfl

theorem natural_within (most n : Nat) (low : n ≤ most) (small : most ≤ 60) : (Expr.natural n).nonFinite? = none := by
  simp [Expr.natural, nonFinite?, natural_finite n (by omega)]

theorem detail_record_outcome (kit : Kit) (inRange : Scaling.SamplesInRange kit) (d : Detail) (admitted : d.Admitted) :
    ((∃ e, detailRecord kit d = .ok e) ↔ RowFits d ∧ IsTold kit d) ∧
      ((∃ f, detailRecord kit d = .error (.tooLarge f)) ↔ ¬RowFits d) ∧
      ((∃ f, detailRecord kit d = .error (.tooLong f)) ↔ RowFits d ∧ ¬IsTold kit d) := by
  have fits := parameters_made_iff d
  have formula := Formula.formula_too_long inRange d admitted.pick
  unfold detailRecord IsTold
  cases params : parametersOf d with
  | error e =>
    have unfit : ¬RowFits d := fun own => by
      obtain ⟨fields, made⟩ := fits.mpr own
      cases params.symm.trans made
    simp [unfit, liftM, monadLift, MonadLift.monadLift, Except.mapError, bind, Except.bind]
  | ok fields =>
    have fit := fits.mp ⟨fields, params⟩
    cases told : Formula.ofDetail kit d with
    | ok amount => simp [fit, liftM, monadLift, MonadLift.monadLift, Except.mapError, bind, Except.bind, pure, Except.pure]
    | error f =>
      obtain ⟨e, rfl⟩ := formula f told
      simp [fit, liftM, monadLift, MonadLift.monadLift, Except.mapError, bind, Except.bind]

theorem detail_record_finite (kit : Kit) (d : Detail) (admitted : d.Admitted) (e : Expr) (whole : detailRecord kit d = .ok e)
    (fits : ∀ params ∈ d.params, ∀ field ∈ params, ScalarFits field.2) : e.nonFinite? = none := by
  obtain ⟨fields, params, whole⟩ := lifted_ok _ _ _ _ whole
  obtain ⟨amount, made, whole⟩ := bind_ok _ _ _ whole
  cases whole
  have dealt : ∀ entry ∈ if d.kind = .reaction then [] else [("dmgKey", Expr.string d.damageKey)],
      entry.2.nonFinite? = none := by
    split <;> simp [nonFinite?]
  have cons := optional_finite "cons" d.cons .natural fun c own => natural_within 6 c (admitted.cons c own).2 (by decide)
  have finite := Formula.formula_finite kit d amount made
  rw [entries_finite_iff]
  simp only [List.forall_mem_append, List.forall_mem_cons]
  exact ⟨⟨⟨⟨⟨⟨⟨rfl, rfl, List.forall_mem_nil _⟩, optional_finite "talent" _ _ fun _ _ => rfl⟩, dealt⟩,
    parameters_finite d fields params fits⟩, cons⟩, optional_finite "check" _ _ fun _ _ => rfl⟩, finite,
    List.forall_mem_nil _⟩

theorem sort_made_iff (b : Buff) : (∃ sort, b.sort.mapM ofInteger = .ok sort) ↔ OrderFits b := by
  unfold OrderFits
  cases b.sort with
  | none => exact ⟨fun _ s own => (Option.not_mem_none s own).elim, fun _ => ⟨none, rfl⟩⟩
  | some n =>
    simp only [Option.mem_def, Option.some.injEq, forall_eq']
    constructor
    · rintro ⟨sort, converted⟩
      obtain ⟨x, single, -⟩ := map_ok _ _ _ converted
      exact ⟨x, single⟩
    · exact map_total _ _

theorem buff_record_outcome (b : Buff) (admitted : b.Admitted) :
    ((∃ e, buffRecord b = .ok e) ↔ OrderFits b) ∧
      ∀ e, buffRecord b = .ok e → (∀ entry ∈ b.data, ∀ x, entry.2 = .number x → isFinite x = true) → e.nonFinite? = none := by
  rw [← sort_made_iff]
  unfold buffRecord
  constructor
  · cases b.sort.mapM ofInteger with
    | error e => constructor <;> rintro ⟨_, made⟩ <;> cases made
    | ok sort => exact ⟨fun _ => ⟨sort, rfl⟩, fun _ => ⟨_, rfl⟩⟩
  · intro e whole data
    obtain ⟨sort, converted, whole⟩ := bind_ok _ _ _ whole
    cases whole
    have order : ∀ x ∈ sort, (Expr.number x).nonFinite? = none := by
      rintro x rfl
      obtain ⟨n, -, single⟩ := option_map_m_ok _ _ _ converted
      simp [nonFinite?, of_integer_finite n x single]
    have values : (Expr.record (dataEntries b)).nonFinite? = none := by
      rw [entries_finite_iff]
      rintro _ member
      obtain ⟨⟨key, v⟩, among, rfl⟩ := List.mem_map.mp member
      cases v with
      | number x => simp [buffValue, nonFinite?, data _ among x rfl]
      | expression text => rfl
    have cons := optional_finite "cons" b.constellation .natural fun n own =>
      natural_within 6 n (admitted.constellation n own).2 (by decide)
    have tree := optional_finite "tree" b.trace .natural fun n own => natural_within 10 n (admitted.trace n own).2 (by decide)
    rw [entries_finite_iff]
    simp only [List.forall_mem_append, List.forall_mem_cons]
    exact ⟨⟨⟨⟨⟨⟨rfl, List.forall_mem_nil _⟩, optional_finite "sort" _ _ order⟩, cons⟩, tree⟩,
      optional_finite "check" _ _ fun _ _ => rfl⟩, values, List.forall_mem_nil _⟩

section Outcomes

variable (kit : Kit) (inRange : Scaling.SamplesInRange kit) (plan : Plan) (admitted : plan.Admitted) (tag : String)

include inRange admitted

theorem rows_made_iff : (∃ details, plan.details.mapM (detailRecord kit) = .ok details) ↔
    ∀ d ∈ plan.details, RowFits d ∧ IsTold kit d := by
  have outcome (d : Detail) (member : d ∈ plan.details) := (detail_record_outcome kit inRange d (admitted.details d member)).1
  constructor
  · rintro ⟨details, rows⟩ d member
    obtain ⟨e, -, made⟩ := map_m_each _ _ _ rows d member
    exact (outcome d member).mp ⟨e, made⟩
  · exact fun each => map_m_total _ _ fun d member => (outcome d member).mpr (each d member)

theorem rows_stop_iff (F : IntegerFault → Prop) (P : Detail → Prop)
    (each : ∀ d ∈ plan.details, (∃ f, F f ∧ detailRecord kit d = .error f) ↔ P d) :
    (∃ f, F f ∧ plan.details.mapM (detailRecord kit) = .error f) ↔ StopsAt kit plan P := by
  have outcome (d : Detail) (member : d ∈ plan.details) := (detail_record_outcome kit inRange d (admitted.details d member)).1
  simp only [map_m_error_iff]
  constructor
  · rintro ⟨f, own, before, d, after, split, made, stops⟩
    have among (row : Detail) (member : row ∈ before) : row ∈ plan.details := by simp [split, member]
    exact ⟨before, d, after, split, fun row member => (outcome row (among row member)).mp (made row member),
      (each d (by simp [split])).mp ⟨f, own, stops⟩⟩
  · rintro ⟨before, d, after, split, made, stops⟩
    have among (row : Detail) (member : row ∈ before) : row ∈ plan.details := by simp [split, member]
    obtain ⟨f, own, failed⟩ := (each d (by simp [split])).mpr stops
    exact ⟨f, own, before, d, after, split, fun row member => (outcome row (among row member)).mpr (made row member), failed⟩

omit inRange in
theorem buffs_made_iff : (∃ buffs, plan.buffs.mapM buffRecord = .ok buffs) ↔ ∀ b ∈ plan.buffs, OrderFits b := by
  have outcome (b : Buff) (member : b ∈ plan.buffs) := (buff_record_outcome b (admitted.buffs b member)).1
  constructor
  · rintro ⟨buffs, modifiers⟩ b member
    obtain ⟨e, -, made⟩ := map_m_each _ _ _ modifiers b member
    exact (outcome b member).mp ⟨e, made⟩
  · exact fun each => map_m_total _ _ fun b member => (outcome b member).mpr (each b member)

omit inRange in
theorem built_finite (writable : Writable plan) (details buffs : List Expr)
    (rows : plan.details.mapM (detailRecord kit) = .ok details) (modifiers : plan.buffs.mapM buffRecord = .ok buffs) :
    ∀ a ∈ planAssignments kit plan tag details buffs, a.value.nonFinite? = none := by
  have records : (Expr.list details).nonFinite? = none := (items_finite_iff details).mpr fun e member => by
    obtain ⟨d, among, made⟩ := map_m_ok _ _ _ rows e member
    exact detail_record_finite kit d (admitted.details d among) e made (writable.params d among)
  have data : (Expr.list buffs).nonFinite? = none := (items_finite_iff buffs).mpr fun e member => by
    obtain ⟨b, among, made⟩ := map_m_ok _ _ _ modifiers e member
    exact (buff_record_outcome b (admitted.buffs b among)).2 e made (writable.data b among)
  have index := natural_within 20 _ (default_index_small plan admitted.few (defaultKey plan)) (by decide)
  simp only [planAssignments, List.forall_mem_cons]
  exact ⟨rfl, rfl, rfl, rfl, index, records, data, List.forall_mem_nil _⟩

end Outcomes

theorem render_rows_error (kit : Kit) (plan : Plan) (tag : String) (f : IntegerFault)
    (failed : plan.details.mapM (detailRecord kit) = .error f) : render kit plan tag = .error (.ofFault kit.name f) := by
  rw [render, build, failed]
  rfl

theorem render_buffs_error (kit : Kit) (plan : Plan) (tag : String) (details : List Expr) (e : IntegerTooLarge)
    (rows : plan.details.mapM (detailRecord kit) = .ok details) (failed : plan.buffs.mapM buffRecord = .error e) :
    render kit plan tag = .error (.integerTooLarge e) := by
  rw [render, build, rows, failed]
  rfl

theorem render_built (kit : Kit) (plan : Plan) (tag : String) (details buffs : List Expr)
    (rows : plan.details.mapM (detailRecord kit) = .ok details) (modifiers : plan.buffs.mapM buffRecord = .ok buffs) :
    ((∃ text, render kit plan tag = .ok text) ∧ Writable plan) ∨
      ∃ x, render kit plan tag = .error (.nonFinite kit.name x) ∧
        ∃ a ∈ planAssignments kit plan tag details buffs, a.value.nonFinite? ≠ none := by
  have built := build_made kit plan tag details buffs rows modifiers
  generalize s!"Auto-generated by {tag}.\n{kit.name} ({kit.game.code})" = header at built
  cases found : (planAssignments kit plan tag details buffs).findSome? fun a => a.value.nonFinite? with
  | none =>
    have rendered : render kit plan tag = .ok (⟨header, planAssignments kit plan tag details buffs⟩ : Program).plainText :=
      lift_made built (by rw [Program.text, found]; rfl)
    exact .inl ⟨⟨_, rendered⟩, rendered_writable kit plan tag _ rendered⟩
  | some x =>
    obtain ⟨a, member, own⟩ := List.exists_of_findSome?_eq_some found
    exact .inr ⟨x, lift_made built (by rw [Program.text, found]; rfl), a, member, by simp [own]⟩

theorem render_ok_iff (kit : Kit) (inRange : Scaling.SamplesInRange kit) (plan : Plan) (admitted : plan.Admitted) (tag : String) :
    (∃ text, render kit plan tag = .ok text) ↔ Writable plan ∧ ∀ d ∈ plan.details, IsTold kit d := by
  have rowsMade := rows_made_iff kit inRange plan admitted
  constructor
  · rintro ⟨text, rendered⟩
    obtain ⟨_, details, _, -, -, rows, -⟩ := rendered_program kit plan tag text rendered
    exact ⟨rendered_writable kit plan tag text rendered, fun d member => (rowsMade.mp ⟨details, rows⟩ d member).2⟩
  · rintro ⟨writable, told⟩
    obtain ⟨details, rows⟩ := rowsMade.mpr fun d member => ⟨writable.integers.params d member, told d member⟩
    obtain ⟨buffs, modifiers⟩ := (buffs_made_iff plan admitted).mpr writable.integers.sort
    rcases render_built kit plan tag details buffs rows modifiers with ⟨made, -⟩ | ⟨x, -, a, member, faulty⟩
    · exact made
    · exact absurd (built_finite kit plan admitted tag writable details buffs rows modifiers a member) faulty

/-- A plan of rows and buffs that were read has a script if and only if all of its numbers can be written and all of its
formulas can be told. -/
theorem read_plan_renders_iff (kit : Kit) (inRange : Scaling.SamplesInRange kit) (details : List Detail) (buffs : List Buff)
    (detailsRead : ∀ d ∈ details, ∃ j, Detail.ofJson j = .valid d) (buffsRead : ∀ b ∈ buffs, ∃ j, Buff.ofJson j = .valid b)
    (mainAttrs key : Json) (plan : Plan) (built : Plan.build mainAttrs key details buffs = .valid plan) (tag : String) :
    (∃ text, render kit plan tag = .ok text) ↔ Writable plan ∧ ∀ d ∈ plan.details, IsTold kit d := by
  have rows (d : Detail) (member : d ∈ details) : d.Admitted := (Detail.admitted_iff d).mpr (detailsRead d member)
  have modifiers (b : Buff) (member : b ∈ buffs) : b.Admitted := by
    obtain ⟨j, read⟩ := buffsRead b member
    exact Buff.read_admitted j b read
  exact render_ok_iff kit inRange plan (Plan.built_admitted mainAttrs key details buffs plan rows modifiers built) tag

/-- What becomes of a plan: a row or a buff stops the rendering, or a number that is not finite does, or there is a text. -/
inductive Rendering (kit : Kit) (plan : Plan) (tag : String) : Prop
  | overflows (stops : StopsAt kit plan fun d => ¬RowFits d) (e : IntegerTooLarge)
      (failed : render kit plan tag = .error (.integerTooLarge e)) : Rendering kit plan tag
  | unread (stops : StopsAt kit plan fun d => RowFits d ∧ ¬IsTold kit d) (e : Decimal.IntegerTooLong)
      (failed : render kit plan tag = .error (.unreadable kit.name e)) : Rendering kit plan tag
  | remote (each : ∀ d ∈ plan.details, RowFits d ∧ IsTold kit d) (far : ∃ b ∈ plan.buffs, ¬OrderFits b) (e : IntegerTooLarge)
      (failed : render kit plan tag = .error (.integerTooLarge e)) : Rendering kit plan tag
  | faulty (told : ∀ d ∈ plan.details, IsTold kit d) (fits : IntegersFit plan) (unwritable : ¬Writable plan) (x : NonFinite)
      (failed : render kit plan tag = .error (.nonFinite kit.name x)) : Rendering kit plan tag
  | written (told : ∀ d ∈ plan.details, IsTold kit d) (writable : Writable plan) (text : String)
      (rendered : render kit plan tag = .ok text) : Rendering kit plan tag

section Course

variable (kit : Kit) (inRange : Scaling.SamplesInRange kit) (plan : Plan) (admitted : plan.Admitted)

include inRange admitted

theorem overflow_iff : (∃ f, (∃ e, f = .tooLarge e) ∧ plan.details.mapM (detailRecord kit) = .error f) ↔
    StopsAt kit plan fun d => ¬RowFits d :=
  rows_stop_iff kit inRange plan admitted _ _ fun d member => by
    simpa using (detail_record_outcome kit inRange d (admitted.details d member)).2.1

theorem unread_iff : (∃ f, (∃ e, f = .tooLong e) ∧ plan.details.mapM (detailRecord kit) = .error f) ↔
    StopsAt kit plan fun d => RowFits d ∧ ¬IsTold kit d :=
  rows_stop_iff kit inRange plan admitted _ _ fun d member => by
    simpa using (detail_record_outcome kit inRange d (admitted.details d member)).2.2

theorem overflow_not_unread (large : StopsAt kit plan fun d => ¬RowFits d) :
    ¬StopsAt kit plan fun d => RowFits d ∧ ¬IsTold kit d := by
  intro long
  obtain ⟨_, ⟨e, rfl⟩, rows⟩ := (overflow_iff kit inRange plan admitted).mpr large
  obtain ⟨_, ⟨e', rfl⟩, rows'⟩ := (unread_iff kit inRange plan admitted).mpr long
  cases rows.symm.trans rows'

theorem rendering_course (tag : String) : Rendering kit plan tag := by
  cases rows : plan.details.mapM (detailRecord kit) with
  | error f =>
    have failed := render_rows_error kit plan tag f rows
    cases f with
    | tooLarge e => exact .overflows ((overflow_iff kit inRange plan admitted).mp ⟨_, ⟨e, rfl⟩, rows⟩) e failed
    | tooLong e => exact .unread ((unread_iff kit inRange plan admitted).mp ⟨_, ⟨e, rfl⟩, rows⟩) e failed
  | ok details =>
    have each := (rows_made_iff kit inRange plan admitted).mp ⟨details, rows⟩
    have told : ∀ d ∈ plan.details, IsTold kit d := fun d member => (each d member).2
    have ordered := buffs_made_iff plan admitted
    cases modifiers : plan.buffs.mapM buffRecord with
    | error e =>
      have remote : ¬∀ b ∈ plan.buffs, OrderFits b := fun fits => by
        obtain ⟨buffs, made⟩ := ordered.mpr fits
        cases modifiers.symm.trans made
      exact .remote each (by simpa using remote) e (render_buffs_error kit plan tag details e rows modifiers)
    | ok buffs =>
      rcases render_built kit plan tag details buffs rows modifiers with ⟨⟨text, rendered⟩, writable⟩ | ⟨x, failed, a, member, faulty⟩
      · exact .written told writable text rendered
      · exact .faulty told ⟨fun d member => (each d member).1, ordered.mp ⟨buffs, modifiers⟩⟩
          (fun writable => faulty (built_finite kit plan admitted tag writable details buffs rows modifiers a member)) x failed

end Course

theorem StopsAt.some_row {kit : Kit} {plan : Plan} {P : Detail → Prop} (stops : StopsAt kit plan P)
    (fails : ∀ d, P d → ¬(RowFits d ∧ IsTold kit d)) : ¬∀ d ∈ plan.details, RowFits d ∧ IsTold kit d := by
  intro each
  obtain ⟨before, d, after, split, -, own⟩ := stops
  exact fails d own (each d (by simp [split]))

theorem no_row_unread {kit : Kit} {plan : Plan} (told : ∀ d ∈ plan.details, IsTold kit d) :
    ¬StopsAt kit plan fun d => RowFits d ∧ ¬IsTold kit d := by
  rintro ⟨before, d, after, split, -, -, untold⟩
  exact untold (told d (by simp [split]))

theorem no_integer_large {kit : Kit} {plan : Plan} (fits : IntegersFit plan) (told : ∀ d ∈ plan.details, IsTold kit d) :
    ¬(StopsAt kit plan (fun d => ¬RowFits d) ∨
      (∀ d ∈ plan.details, RowFits d ∧ IsTold kit d) ∧ ∃ b ∈ plan.buffs, ¬OrderFits b) := by
  rintro (stops | ⟨-, b, member, remote⟩)
  · exact stops.some_row (fun d large own => large own.1) fun d member => ⟨fits.params d member, told d member⟩
  · exact remote (fits.sort b member)

/-- A plan that is admitted has a script if all of its numbers can be written and all of its formulas can be told. It is
refused for a number that is not finite, and for a formula that cannot be told, while an integer that is too large to
become a number stops its rendering in another way; of several faults the first counts, with the parameters of a row
before its formula. All formulas can be told if no text of the kit refers to a character by a number with too many
digits. -/
theorem rendering_outcomes (kit : Kit) (inRange : Scaling.SamplesInRange kit) (plan : Plan) (admitted : plan.Admitted)
    (tag : String) :
    ((∃ text, render kit plan tag = .ok text) ↔ Writable plan ∧ ∀ d ∈ plan.details, IsTold kit d) ∧
    ((∃ x, render kit plan tag = .error (.nonFinite kit.name x)) ↔
      (IntegersFit plan ∧ ¬Writable plan) ∧ ∀ d ∈ plan.details, IsTold kit d) ∧
    ((∃ e, render kit plan tag = .error (.unreadable kit.name e)) ↔
      StopsAt kit plan fun d => RowFits d ∧ ¬IsTold kit d) ∧
    ((∃ e, render kit plan tag = .error (.integerTooLarge e)) ↔ StopsAt kit plan (fun d => ¬RowFits d) ∨
      (∀ d ∈ plan.details, RowFits d ∧ IsTold kit d) ∧ ∃ b ∈ plan.buffs, ¬OrderFits b) ∧
    (Scaling.BriefTexts kit → ∀ d ∈ plan.details, IsTold kit d) := by
  have brief (short : Scaling.BriefTexts kit) : ∀ d ∈ plan.details, IsTold kit d := fun d member =>
    Formula.formula_total (Scaling.in_range_told kit short inRange) d (admitted.details d member).pick
  refine ⟨render_ok_iff kit inRange plan admitted tag, ?_⟩
  cases rendering_course kit inRange plan admitted tag with
  | overflows stops e failed =>
    have unfit := stops.some_row fun d large own => large own.1
    rw [failed]
    exact ⟨iff_of_false nofun fun ⟨⟨fits, _⟩, told⟩ => unfit fun d member => ⟨fits.params d member, told d member⟩,
      iff_of_false nofun (overflow_not_unread kit inRange plan admitted stops), iff_of_true ⟨e, rfl⟩ (.inl stops), brief⟩
  | unread stops e failed =>
    have unfit := stops.some_row fun d unread own => unread.2 own.2
    rw [failed]
    exact ⟨iff_of_false nofun fun ⟨⟨fits, _⟩, told⟩ => unfit fun d member => ⟨fits.params d member, told d member⟩,
      iff_of_true ⟨e, rfl⟩ stops,
      iff_of_false nofun fun large => large.elim (overflow_not_unread kit inRange plan admitted · stops) fun own => unfit own.1,
      brief⟩
  | remote each far e failed =>
    rw [failed]
    refine ⟨iff_of_false nofun ?_, iff_of_false nofun fun stops => stops.some_row (fun d unread own => unread.2 own.2) each,
      iff_of_true ⟨e, rfl⟩ (.inr ⟨each, far⟩), brief⟩
    rintro ⟨⟨fits, -⟩, -⟩
    obtain ⟨b, member, remote⟩ := far
    exact remote (fits.sort b member)
  | faulty told fits unwritable x failed =>
    rw [failed]
    exact ⟨iff_of_true ⟨x, rfl⟩ ⟨⟨fits, unwritable⟩, told⟩, iff_of_false nofun (no_row_unread told),
      iff_of_false nofun (no_integer_large fits told), brief⟩
  | written told writable text rendered =>
    rw [rendered]
    exact ⟨iff_of_false nofun fun own => own.1.2 writable, iff_of_false nofun (no_row_unread told),
      iff_of_false nofun (no_integer_large writable.integers told), brief⟩

theorem sample_admitted : samplePlan.Admitted := by decide +kernel

theorem sample_in_range : Scaling.SamplesInRange sampleKit := List.forall_mem_nil _

theorem sample_brief : Scaling.BriefTexts sampleKit := by decide +kernel

theorem sample_plan_written : Scaling.SamplesInRange sampleKit ∧ samplePlan.Admitted ∧
    ∃ text, render sampleKit samplePlan "calcplan" = .ok text := by
  have writable := ((expressible_iff sampleKit samplePlan).mp sample_expressible).2
  obtain ⟨made, -, -, -, told⟩ := rendering_outcomes sampleKit sample_in_range samplePlan sample_admitted "calcplan"
  exact ⟨sample_in_range, sample_admitted, made.mpr ⟨writable, told sample_brief⟩⟩

def remotePlan : Plan where
  mainAttrs := "atk"
  details := [{ title := "Hit", talent := some "e", table := some "Skill DMG" }]
  buffs := [{ title := "B", sort := some (10 ^ 400) }]

theorem remote_order_escapes : ¬∀ (kit : Kit) (plan : Plan) (tag : String), Scaling.SamplesInRange kit → plan.Admitted →
    (∃ text, render kit plan tag = .ok text) ∨ ∃ x, render kit plan tag = .error (.nonFinite kit.name x) := by
  intro own
  have admitted : remotePlan.Admitted := by decide +kernel
  obtain ⟨e, escapes⟩ : ∃ e, render sampleKit remotePlan "calcplan:heuristic" = .error (.integerTooLarge e) := by
    obtain ⟨details, rows, -⟩ : ∃ details, remotePlan.details.mapM (detailRecord sampleKit) = .ok details ∧ details.length = 1 :=
      evaluated_ok _ _ _ (by decide +kernel)
    cases modifiers : remotePlan.buffs.mapM buffRecord with
    | error e => exact ⟨e, render_buffs_error _ _ _ details e rows modifiers⟩
    | ok buffs =>
      have unmade : (remotePlan.buffs.mapM buffRecord).isOk = false := by decide +kernel
      rw [modifiers] at unmade
      cases unmade
  rcases own sampleKit remotePlan "calcplan:heuristic" sample_in_range admitted with ⟨text, rendered⟩ | ⟨x, failed⟩
  · cases escapes.symm.trans rendered
  · cases escapes.symm.trans failed

end Render

end DamagePlan
