import DamagePlan.Proofs.Render.RoundTrip
import DamagePlan.Proofs.Render.Room
import DamagePlan.Proofs.Script.Telling

/-!
What a rendered script that loads says of its rows, whatever the parameters of the rows and the buffs are.
-/
set_option autoImplicit false

namespace DamagePlan.Render

open Script
open Legible (IsSafeKey)

structure Presentable (d : Detail) : Prop where
  titled : d.title ≠ ""
  named : d.kind ≠ .reaction → Formula.isTalent (d.talent.getD "") = true
  pick : ∀ p ∈ d.pick, p ≤ 10
  cons : ∀ c ∈ d.cons, 1 ≤ c ∧ c ≤ 6
  check : ∀ text ∈ given d.check, IsAccepted text
  raw : ∀ text ∈ given d.raw, IsAccepted text

structure PresentablePlan (plan : Plan) : Prop where
  details : ∀ d ∈ plan.details, Presentable d
  few : plan.details.length ≤ Plan.maxDetails

structure Whitelisted (kit : Kit) (d : Detail) : Prop where
  titled : d.title ≠ ""
  listed : d.kind ≠ .reaction → kit.hasTable d.talent d.table = true
  pick : ∀ p ∈ d.pick, p ≤ 10
  cons : ∀ c ∈ d.cons, 1 ≤ c ∧ c ≤ 6
  check : ∀ text ∈ given d.check, IsAccepted text
  raw : ∀ text ∈ given d.raw, IsAccepted text

structure WhitelistedPlan (kit : Kit) (plan : Plan) : Prop where
  details : ∀ d ∈ plan.details, Whitelisted kit d
  few : plan.details.length ≤ Plan.maxDetails

theorem Whitelisted.presentable {kit : Kit} {d : Detail} (listed : Whitelisted kit d) :
    Presentable d :=
  ⟨listed.titled, fun other => listed_talent kit d.talent d.table (listed.listed other), listed.pick, listed.cons,
    listed.check, listed.raw⟩

theorem Presentable.fits_with {d : Detail} (presentable : Presentable d) (n : Nat)
    (check : ∀ text ∈ given d.check, TextFits n text) (raw : ∀ text ∈ given d.raw, TextFits n text) :
    DetailFits n { d with params := none } where
  titled := presentable.titled
  talent := presentable.named
  pick := presentable.pick
  cons c own := by
    have := presentable.cons c own
    omega
  params := nofun
  check := check
  raw := raw

theorem Presentable.fits {d : Detail} (presentable : Presentable d) : DetailFits 63 { d with params := none } :=
  presentable.fits_with 63 (fun text own => accepted_fits text (presentable.check text own))
    fun text own => accepted_fits text (presentable.raw text own)

def underWritten {α : Type} (field : String × α) : String × α := (writtenKey field.1, field.2)

def shownParameters (d : Detail) : Fields Json :=
  ((d.params.getD []).filter fun (_, j) => isPlainParameter j).map underWritten

/-- The parameters of a row are written under different keys. -/
def WrittenApart (d : Detail) : Prop := ((shownParameters d).map (·.1)).Nodup

inductive ShowsParameters (d : Detail) : Option Expr → Prop
  | none (empty : d.params.getD [] = []) : ShowsParameters d none
  | some (fields : List (String × Expr)) (filled : d.params.getD [] ≠ [])
      (hold : ∀ scope, FieldsHold IsScalar (shownParameters d) (exportedEntries scope fields)) :
      ShowsParameters d (some (.record fields))

theorem fields_hold_keys {α : Type} (holds : α → Value → Prop) (fields : Fields α) (values : List (String × Value))
    (each : FieldsHold holds fields values) : values.map (·.1) = fields.map (·.1) := by
  induction each with
  | nil => rfl
  | cons first _ ih => rw [List.map_cons, List.map_cons, first.1, ih]

theorem exported_keys (scope : Scope) (entries : List (String × Expr)) :
    (exportedEntries scope entries).map (·.1) = entries.map (·.1) := by
  induction entries with
  | nil => rfl
  | cons entry rest ih => rw [exportedEntries, List.map_cons, List.map_cons, ih]

theorem ShowsParameters.apart {d : Detail} {params : Option Expr} (shows_ : ShowsParameters d params)
    (distinct : ∀ f ∈ params, f.KeysDistinct) : WrittenApart d := by
  cases shows_ with
  | none empty => simp [WrittenApart, shownParameters, empty]
  | some fields filled hold =>
    rw [WrittenApart, ← fields_hold_keys _ _ _ (hold []), exported_keys]
    exact ((Expr.keys_distinct_record fields).mp (distinct _ rfl)).1

theorem exported_under_written (scope : Scope) (entries : List (String × Expr)) :
    exportedEntries scope (entries.map underWritten) = (exportedEntries scope entries).map underWritten := by
  induction entries with
  | nil => rfl
  | cons entry rest ih => rw [List.map_cons, underWritten, exportedEntries, ih]; rfl

theorem hold_under_written {α : Type} (holds : α → Value → Prop) (fields : Fields α) (values : List (String × Value))
    (each : FieldsHold holds fields values) : FieldsHold holds (fields.map underWritten) (values.map underWritten) := by
  rw [FieldsHold, List.forall₂_map_left_iff, List.forall₂_map_right_iff]
  exact each.imp fun field value own => ⟨congrArg writtenKey own.1, own.2⟩

theorem scalar_distinct (j : Json) (e : Expr) (plain : isPlainParameter j = true) (made : Expr.ofJson j = .ok e) :
    e.KeysDistinct := by
  cases j with
  | int n =>
    obtain ⟨x, -, rfl⟩ := map_ok _ _ _ made
    trivial
  | bool _ | float _ | str _ =>
    cases made
    trivial
  | null | arr _ | obj _ => cases plain

theorem scalars_distinct (fields : Fields Json) (plain : ∀ field ∈ fields, isPlainParameter field.2 = true)
    (es : List (String × Expr)) (made : Expr.ofJsonFields fields = .ok es) : ∀ entry ∈ es, entry.2.KeysDistinct := by
  induction fields generalizing es with
  | nil =>
    cases made
    exact List.forall_mem_nil _
  | cons field rest ih =>
    obtain ⟨key, j⟩ := field
    obtain ⟨plainFirst, plainRest⟩ := List.forall_mem_cons.mp plain
    obtain ⟨e, first, made⟩ := bind_ok _ _ _ made
    obtain ⟨more, later, made⟩ := bind_ok _ _ _ made
    cases made
    exact List.forall_mem_cons.mpr ⟨scalar_distinct j e plainFirst first, ih plainRest more later⟩

section Rows

variable {P : SyntaxErrorKind → Prop} {n k : Nat}

theorem present_tells (xs ys : List (String × Option Expr))
    (each : List.Forall₂ (fun x y => x.1 = y.1 ∧ IsSafeKey x.1 ∧ Option.Rel (Tells P n k) x.2 y.2) xs ys) :
    List.Forall₂ (Tells.Field P n k) (Fields.present xs) (Fields.present ys) := by
  induction each with
  | nil => exact .nil
  | @cons x y xs ys first _ ih =>
    obtain ⟨key, value⟩ := x
    obtain ⟨key', value'⟩ := y
    obtain ⟨rfl, safe, tells⟩ := first
    cases tells with
    | none => exact ih
    | some tells => exact .cons ⟨(safe_key_written key safe).symm, tells⟩ ih

theorem delivered_tells (value : Option Expr) (delivers : ∀ e ∈ value, Delivers n k e)
    (distinct : ∀ e ∈ value, e.KeysDistinct) : Option.Rel (Tells P n k) value value := by
  cases value with
  | none => exact .none
  | some e => exact .some (.of_delivers (delivers e rfl) (distinct e rfl))

theorem parameters_tell (d : Detail) (fits : ∀ params ∈ d.params, ∀ field ∈ params, ScalarFits field.2)
    (repeated : ¬WrittenApart d → ∀ key, P (.duplicateRecordKey key)) (fields : List (String × Expr))
    (made : parametersOf d = .ok fields) :
    ∃ params params', fields = entry? "params" params ∧ Option.Rel (Tells P 2 3) params params' ∧ ShowsParameters d params' := by
  unfold parametersOf at made
  cases given_ : d.params with
  | none =>
    rw [given_] at made
    cases made
    exact ⟨none, none, rfl, .none, .none (by simp [given_])⟩
  | some params =>
    rw [given_] at made
    cases params with
    | nil =>
      cases made
      exact ⟨none, none, rfl, .none, .none (by simp [given_])⟩
    | cons field rest =>
      have plain := plain_parameters _ (fits _ given_)
      obtain ⟨es, converted, -, deliver, hold⟩ := fields_deliver _ plain
      dsimp only at made
      rw [converted] at made
      cases made
      have shown : ∀ scope, FieldsHold IsScalar (shownParameters d) (exportedEntries scope (es.map underWritten)) := by
        intro scope
        rw [exported_under_written, shownParameters, given_]
        exact hold_under_written _ _ _ (hold scope)
      have distinct := scalars_distinct _ (fun field member => (plain field member).1) es converted
      have each : List.Forall₂ (Tells.Field P 1 2) es (es.map underWritten) := by
        rw [List.forall₂_map_right_iff]
        exact List.forall₂_same.mpr fun entry member =>
          ⟨rfl, Tells.of_delivers (deliver entry member) (distinct entry member)⟩
      have apart : ((es.map underWritten).map (·.1)).Nodup ↔ WrittenApart d := by
        rw [WrittenApart, ← fields_hold_keys _ _ _ (shown []), exported_keys]
      refine ⟨some (.record es), some (.record (es.map underWritten)), rfl, .some ?_, .some _ (by simp [given_]) shown⟩
      exact Tells.record es _ (fun twice => repeated (mt apart.mpr twice)) each

theorem optional_distinct {α : Type} (make : α → Expr) (a? : Option α) (each : ∀ a, (make a).KeysDistinct) :
    ∀ e ∈ a?.map make, e.KeysDistinct := by
  intro e member
  obtain ⟨a, -, rfl⟩ := Option.map_eq_some_iff.mp member
  exact each a

theorem detail_tells (kit : Kit) (d : Detail) (enough : 19 ≤ n) (fits : DetailFits n { d with params := none })
    (scalars : ∀ params ∈ d.params, ∀ field ∈ params, ScalarFits field.2)
    (repeated : ¬WrittenApart d → ∀ key, P (.duplicateRecordKey key)) (e : Expr) (made : detailRecord kit d = .ok e) :
    ∃ params amount, Formula.ofDetail kit d = .ok amount ∧ ShowsParameters d params ∧
      Tells P (n + 2) 4 e (.record (Fields.present (detailFields d params amount))) := by
  obtain ⟨fields, paramsMade, rest⟩ := lifted_ok _ _ _ _ made
  obtain ⟨amount, formula, -⟩ := bind_ok _ _ _ rest
  obtain ⟨params, params', rfl, tells, shows_⟩ := parameters_tell (P := P) d scalars repeated fields paramsMade
  rw [detail_record_fields kit d params amount paramsMade formula] at made
  cases made
  obtain ⟨shown, -⟩ := damage_shown kit n _ enough fits amount formula
  have deliver := detail_fields_deliver n _ (by omega) fits none amount nofun shown
  simp only [detailFields, List.map_cons, List.forall_mem_cons] at deliver
  obtain ⟨title, kind, talent, key, -, cons, check, damage, -⟩ := deliver
  have safe := detail_keys_fine.2
  simp only [detailKeys, List.forall_mem_cons] at safe
  obtain ⟨titleSafe, kindSafe, talentSafe, keySafe, paramsSafe, consSafe, checkSafe, damageSafe, -⟩ := safe
  have keyDistinct : ∀ e ∈ (if d.kind = .reaction then none else some (Expr.string d.damageKey)), e.KeysDistinct := by
    intro e member
    split at member <;> cases member
    trivial
  have paramsTell : Option.Rel (Tells P (n + 1) 3) params params' := by
    cases tells with
    | none => exact .none
    | some tells => exact .some (tells.mono (by omega) (Nat.le_refl 3))
  have parts := present_tells (P := P) (n := n + 1) (k := 3) (detailFields d params amount) (detailFields d params' amount) <|
    .cons ⟨rfl, titleSafe, delivered_tells _ title (by rintro _ ⟨⟩; trivial)⟩
      (.cons ⟨rfl, kindSafe, delivered_tells _ kind (by rintro _ ⟨⟩; trivial)⟩
      (.cons ⟨rfl, talentSafe, delivered_tells _ talent (optional_distinct _ _ fun _ => trivial)⟩
      (.cons ⟨rfl, keySafe, delivered_tells _ key keyDistinct⟩
      (.cons ⟨rfl, paramsSafe, paramsTell⟩
      (.cons ⟨rfl, consSafe, delivered_tells _ cons (optional_distinct _ _ fun _ => trivial)⟩
      (.cons ⟨rfl, checkSafe, delivered_tells _ check (optional_distinct _ _ fun _ => trivial)⟩
      (.cons ⟨rfl, damageSafe, delivered_tells _ damage (by rintro _ ⟨⟩; trivial)⟩ .nil)))))))
  have distinct := (Fields.present_keys (detailFields d params' amount)).nodup detail_keys_fine.1
  exact ⟨params', amount, formula, shows_, Tells.record _ _ (absurd distinct) parts⟩

def IsRowLiteral (kit : Kit) (d : Detail) (f : Expr) : Prop :=
  ∃ params amount, Formula.ofDetail kit d = .ok amount ∧ ShowsParameters d params ∧
    f = .record (Fields.present (detailFields d params amount))

theorem rows_tell (kit : Kit) (ds : List Detail) (es : List Expr) (enough : 19 ≤ n)
    (fits : ∀ d ∈ ds, DetailFits n { d with params := none })
    (scalars : ∀ d ∈ ds, ∀ params ∈ d.params, ∀ field ∈ params, ScalarFits field.2)
    (repeated : ∀ d ∈ ds, ¬WrittenApart d → ∀ key, P (.duplicateRecordKey key))
    (made : List.Forall₂ (fun d e => detailRecord kit d = .ok e) ds es) :
    ∃ fs, List.Forall₂ (Tells P (n + 2) 4) es fs ∧ List.Forall₂ (IsRowLiteral kit) ds fs := by
  have pairs : List.Forall₂ (fun d e => ∃ f, IsRowLiteral kit d f ∧ Tells P (n + 2) 4 e f) ds es := by
    refine List.Forall₂.imp (fun d e own => ?_) ((List.forall₂_and_left _ _).mpr ⟨fun d member => member, made⟩)
    obtain ⟨member, made⟩ := own
    obtain ⟨params, amount, formula, shows_, tells⟩ :=
      detail_tells kit d enough (fits d member) (scalars d member) (repeated d member) e made
    exact ⟨_, ⟨params, amount, formula, shows_, rfl⟩, tells⟩
  obtain ⟨fs, rows, tells⟩ := pairs_between ds es (S := fun f e => Tells P (n + 2) 4 e f) pairs
  exact ⟨fs, tells.flip, rows⟩

end Rows

def IsRow (kit : Kit) (scope : Scope) (d : Detail) (loaded : LoadedDetail) : Prop :=
  ∃ params amount, Formula.ofDetail kit d = .ok amount ∧ loaded = loadedDetail scope d params amount

theorem formula_row {kit : Kit} {scope : Scope} {d : Detail} {row : LoadedDetail} (presentable : Presentable d)
    (formula : given d.raw = none) (isRow : IsRow kit scope d row) :
    ∃ e, Formula.ofDetail.formula kit d = .ok e ∧ row.damage = (e, scope) := by
  obtain ⟨params, amount, made, rfl⟩ := isRow
  obtain ⟨-, isDamage⟩ := damage_shown kit 63 _ (by decide) presentable.fits amount made
  simp only [IsDamage, formula] at isDamage
  exact ⟨bodyOf amount, of_detail_formula kit d formula ▸ isDamage, rfl⟩

theorem written_row {kit : Kit} {scope : Scope} {d : Detail} {row : LoadedDetail} {text : String}
    (own : given d.raw = some text) (isRow : IsRow kit scope d row) : row.damage = (textBody text, scope) := by
  obtain ⟨params, amount, made, rfl⟩ := isRow
  rw [of_detail_raw kit d text own] at made
  cases made
  rfl

theorem presented_rows (stack : Stack) (kit : Kit) (plan : Plan) (presentable : PresentablePlan plan) (tag text : String)
    (rendered : render kit plan tag = .ok text) (loaded : LoadedScript) (loads : load stack text = .ok loaded) :
    loaded.defaultKey = defaultKey plan ∧ loaded.defaultIndex = defaultIndex plan (defaultKey plan) ∧
      List.Forall₂ (IsRow kit (headExports kit plan tag)) plan.details loaded.details := by
  have writable := rendered_writable kit plan tag text rendered
  obtain ⟨p, details, buffs, rfl, assignments, rowsMade, -⟩ := rendered_program kit plan tag text rendered
  obtain ⟨fs, tells, rows⟩ := rows_tell (P := fun _ => True) kit plan.details details (by decide : 19 ≤ 63)
    (fun d member => (presentable.details d member).fits) writable.params (fun _ _ _ _ => trivial) (map_m_pairs _ _ _ rowsMade)
  have free := required_free "details" (by decide)
  have detailsConveyed : AssignsConveying ⟨"details", .list details⟩ ⟨"details", .list fs⟩ :=
    ⟨rfl, free.1, free.2, ((Tells.list _ _ tells).mono (Nat.le_refl _) (by decide)).conveys, Expr.bracketed_ends _ _ _ _ _ (by decide)⟩
  have head : List.Forall₂ AssignsConveying (headAssignments kit plan tag) (headAssignments kit plan tag) :=
    List.forall₂_same.mpr fun a member => (head_assignable kit plan tag 0 presentable.few a member).conveys
  have convey := List.rel_append head (.cons detailsConveyed .nil)
  obtain ⟨later, marks, exports⟩ := script_exports stack p (headAssignments kit plan tag ++ [⟨"details", .list details⟩]) []
    (headAssignments kit plan tag ++ [⟨"details", .list fs⟩]) ⟨"buffs", .list buffs⟩ assignments
    (required_free "buffs" (by decide)).1 convey (by simp [headAssignments]) loaded loads
  obtain ⟨-, keyed, -, -, ⟨records, areRecords, placed, rowsLoad⟩, -⟩ := exports_loaded _ _ _ exports
  -- the rows are loaded behind the exports before them
  have each : List.Forall₂ (fun d f => ∃ fields b, exported (headExports kit plan tag) f = .record fields ∧
      (∀ i, loadDetail i fields = .ok b) ∧ IsRow kit (headExports kit plan tag) d b) plan.details fs := by
    refine List.Forall₂.imp (fun d f row => ?_) ((List.forall₂_and_left _ _).mpr ⟨presentable.details, rows⟩)
    obtain ⟨own, params, amount, formula, -, rfl⟩ := row
    exact ⟨_, _, rfl, fun i => detail_loads _ d own.titled params amount i, params, amount, formula, rfl⟩
  obtain ⟨records', bs, areRecords', counted, loadRows, areRows⟩ := list_loads (headExports kit plan tag) _ _ each
  obtain rfl : records' = records := Option.some.inj (areRecords'.symm.trans areRecords)
  rw [loadRows 0] at rowsLoad
  cases rowsLoad
  have index := index_exported (headExports kit plan tag) plan presentable.few (defaultKey plan)
  rw [counted] at placed
  exact ⟨(Except.ok.inj keyed).symm, Except.ok.inj (placed.symm.trans index), areRows⟩

theorem WhitelistedPlan.presentable {kit : Kit} {plan : Plan} (listed : WhitelistedPlan kit plan) :
    PresentablePlan plan := ⟨fun d member => (listed.details d member).presentable, listed.few⟩

theorem rendered_rows (stack : Stack) (kit : Kit) (plan : Plan) (listed : WhitelistedPlan kit plan)
    (tag text : String) (rendered : render kit plan tag = .ok text) (loaded : LoadedScript)
    (loads : load stack text = .ok loaded) :
    loaded.defaultKey = defaultKey plan ∧ loaded.defaultIndex = defaultIndex plan (defaultKey plan) ∧
      List.Forall₂ (IsRow kit (headExports kit plan tag)) plan.details loaded.details :=
  presented_rows stack kit plan (listed.presentable) tag text rendered loaded loads

structure Plain (d : Detail) : Prop where
  params : d.params = none
  check : given d.check = none
  raw : given d.raw = none

theorem plain_plan_loads (stack : Stack) (kit : Kit) (plan : Plan) (listed : WhitelistedPlan kit plan)
    (plain : ∀ d ∈ plan.details, Plain d) (buffs : plan.buffs = []) (tag : String) :
    (∃ d ∈ plan.details, ∃ x, Formula.ofDetail kit d = .error x) ∨
      ∃ text loaded, render kit plan tag = .ok text ∧ load stack text = .ok loaded := by
  have fits : PlanFits 59 plan := by
    refine ⟨fun d member => ?_, by simp [buffs], listed.few⟩
    obtain ⟨params, check, raw⟩ := plain d member
    have own := listed.details d member
    have expressible : Expressible kit d := ⟨own.titled, own.listed, own.pick, own.cons, by simp [params], own.check, own.raw⟩
    exact expressible_fits kit d expressible 60 (by simp [check]) (by simp [raw])
  rcases plan_loads stack kit plan tag 59 (by decide) fits with ⟨d, member, x, failed, -⟩ | ⟨text, rendered, -, loads⟩
  · exact .inl ⟨d, member, x, failed⟩
  · obtain ⟨loaded, loads, -⟩ := loads (by decide)
    exact .inr ⟨text, loaded, rendered, loads⟩

end DamagePlan.Render
