import DamagePlan.Proofs.Render.Records

/-!
Rows and buffs in a script: their records can be written, and loading gives back what a row or a buff says.
-/
set_option autoImplicit false

namespace DamagePlan.Render

open Script Decimal
open Legible (IsSafeKey)

def textOr (text : Option String) : Value := (text.map Value.string).getD .null

def IsOptionalNumber (x : Option Float) (v : Value) : Prop :=
  match x with
  | some x => IsNumber x v
  | none => v = .null

theorem natural_decodes (scope : Scope) (k? : Option Nat) (small : ∀ k ∈ k?, k ≤ 60) :
    IsOptionalNumber (k?.map Float.ofNat) (((k?.map Expr.natural).map (exported scope)).getD .null) := by
  cases k? with
  | none => rfl
  | some k => exact exported_number scope (Float.ofNat k) (natural_finite k (small k rfl))

structure DetailFits (n : Nat) (d : Detail) : Prop where
  titled : d.title ≠ ""
  talent : d.kind ≠ .reaction → Formula.isTalent (d.talent.getD "") = true
  pick : ∀ p ∈ d.pick, p ≤ 10
  cons : ∀ c ∈ d.cons, c ≤ 60
  params : ∀ params ∈ d.params, (params.map (·.1)).Nodup ∧ ∀ field ∈ params, IsSafeKey field.1 ∧ ScalarFits field.2
  check : ∀ text ∈ given d.check, TextFits n text
  raw : ∀ text ∈ given d.raw, TextFits n text

def ParamsHold (params : Option (Fields Json)) (v : Value) : Prop :=
  match params with
  | none | some [] => v = .null
  | some params => ∃ values, v = .record values ∧ FieldsHold IsScalar (params.filter fun (_, j) => isPlainParameter j) values

def IsDamage (kit : Kit) (d : Detail) (body : Expr) : Prop :=
  match given d.raw with
  | some text => Means text body
  | none => Formula.ofDetail kit d = .ok body

structure DetailDecodes (kit : Kit) (d : Detail) (loaded : LoadedDetail) : Prop where
  title : loaded.title = d.title
  titleField : Value.field loaded.fields "title" = .string d.title
  kind : Value.field loaded.fields "kind" = .string d.kind.code
  talent : Value.field loaded.fields "talent" = textOr (given d.talent)
  damageKey : Value.field loaded.fields "dmgKey" = textOr (if d.kind = .reaction then none else some d.damageKey)
  params : ParamsHold d.params (Value.field loaded.fields "params")
  cons : IsOptionalNumber (d.cons.map Float.ofNat) (Value.field loaded.fields "cons")
  check : match given d.check with
    | some text => ∃ body scope, loaded.check = some (body, scope) ∧ Means text body
    | none => loaded.check = none
  damage : IsDamage kit d loaded.damage.1

theorem of_detail_raw (kit : Kit) (d : Detail) (text : String) (own : given d.raw = some text) :
    Formula.ofDetail kit d = .ok (.verbatim text) := by
  obtain ⟨raw, filled⟩ := Option.filter_eq_some_iff.mp own
  unfold Formula.ofDetail
  rw [raw]
  simp only [Bool.not_eq_true'] at filled
  simp [filled]

theorem of_detail_formula (kit : Kit) (d : Detail) (none_ : given d.raw = none) :
    Formula.ofDetail kit d = Formula.ofDetail.formula kit d := by
  unfold Formula.ofDetail
  cases raw : d.raw with
  | none => rfl
  | some text =>
    have empty : text.isEmpty = true := by
      simpa [given, raw] using none_
    simp [empty]

theorem damage_shown (kit : Kit) (n : Nat) (d : Detail) (enough : 19 ≤ n) (fits : DetailFits n d) (amount : Expr)
    (made : Formula.ofDetail kit d = .ok amount) : Shown n amount (bodyOf amount) ∧ IsDamage kit d (bodyOf amount) := by
  unfold IsDamage
  cases own : given d.raw with
  | some text =>
    rw [of_detail_raw kit d text own] at made
    cases made
    have reads := fits.raw text own
    exact ⟨reads.shown, reads.means⟩
  | none =>
    have formula := made
    rw [of_detail_formula kit d own] at formula
    obtain ⟨printable, low, -, -⟩ := Formula.formula_writable kit d fits.talent fits.pick amount formula
    have plain : bodyOf amount = amount := by
      cases amount with
      | verbatim text => exact printable.elim
      | _ => rfl
    rw [plain]
    exact ⟨(printable_shown amount printable).mono (by omega), made⟩

theorem plain_parameters (params : Fields Json) (fits : ∀ field ∈ params, ScalarFits field.2) :
    ∀ field ∈ params.filter (fun (_, j) => isPlainParameter j), isPlainParameter field.2 = true ∧ ScalarFits field.2 := by
  intro field member
  obtain ⟨among, isPlain⟩ := List.mem_filter.mp member
  exact ⟨isPlain, fits field among⟩

theorem parameters_deliver (d : Detail) (n : Nat) (fits : DetailFits n d) :
    ∃ params, parametersOf d = .ok ( entry? "params" params) ∧ (∀ e ∈ params, Delivers 2 3 e) ∧
      ∀ scope, ParamsHold d.params ((params.map (exported scope)).getD .null) := by
  unfold parametersOf ParamsHold
  cases given_ : d.params with
  | none => exact ⟨none, rfl, nofun, fun scope => rfl⟩
  | some params =>
    cases params with
    -- a row with an empty record of parameters is written as one without parameters
    | nil => exact ⟨none, rfl, nofun, fun scope => rfl⟩
    | cons field rest =>
      obtain ⟨distinct, each⟩ := fits.params _ given_
      have plain := plain_parameters _ fun f among => (each f among).2
      obtain ⟨es, made, keys, deliver, hold⟩ := fields_deliver _ plain
      have part : (es.map (·.1)).Sublist ((field :: rest).map (·.1)) := by
        rw [keys]
        exact List.Sublist.map _ List.filter_sublist
      refine ⟨some (.record es), ?_, ?_, fun scope => ⟨_, rfl, hold scope⟩⟩
      · dsimp only
        rw [made]
        rfl
      · rintro e ⟨⟩
        refine Delivers.record es (part.nodup distinct) fun entry member => ⟨?_, deliver entry member⟩
        obtain ⟨f, among, same⟩ := List.mem_map.mp (part.subset (List.mem_map_of_mem member))
        exact same ▸ (each f among).1

def detailFields (d : Detail) (params : Option Expr) (amount : Expr) : List (String × Option Expr) :=
  [("title", some (.string d.title)), ("kind", some (.string d.kind.code)), ("talent", (given d.talent).map .string),
    ("dmgKey", if d.kind = .reaction then none else some (.string d.damageKey)), ("params", params),
    ("cons", d.cons.map .natural), ("check", (given d.check).map deferText), ("dmg", some (.deferred amount))]

theorem detail_record_fields (kit : Kit) (d : Detail) (params : Option Expr) (amount : Expr)
    (some_ : parametersOf d = .ok ( entry? "params" params)) (made : Formula.ofDetail kit d = .ok amount) :
    detailRecord kit d = .ok (.record (Fields.present (detailFields d params amount))) := by
  refine lift_made some_ (bind_made made ?_)
  simp only [detailFields, Fields.present_cons]
  by_cases reaction : d.kind = .reaction <;> simp [reaction, entry?, pure, Except.pure, Fields.present]

def detailKeys : List String := ["title", "kind", "talent", "dmgKey", "params", "cons", "check", "dmg"]

theorem detail_keys (d : Detail) (params : Option Expr) (amount : Expr) :
    (detailFields d params amount).map (·.1) = detailKeys := rfl

theorem detail_keys_fine : detailKeys.Nodup ∧ ∀ key ∈ detailKeys, IsSafeKey key := by decide +kernel

theorem detail_fields_deliver (n : Nat) (d : Detail) (enough : 2 ≤ n) (fits : DetailFits n d) (params : Option Expr)
    (amount : Expr) (paramsDeliver : ∀ e ∈ params, Delivers 2 3 e) (shown : Shown n amount (bodyOf amount)) :
    ∀ value ∈ (detailFields d params amount).map (·.2), ∀ e ∈ value, Delivers (n + 1) 3 e := by
  have cons := optional_delivers Expr.natural d.cons fun c own =>
    Delivers.number (n := n) (k := 1) _ (natural_finite c (fits.cons c own))
  have check := optional_delivers deferText (given d.check) fun text own =>
    Delivers.deferred (k := 2) (fits.check text own).shown
  have talent := optional_delivers Expr.string (given d.talent) fun text _ => Delivers.string (n := n + 1) (k := 2) text
  -- a reaction has no damage key
  have key : ∀ e ∈ (if d.kind = .reaction then none else some (Expr.string d.damageKey)), Delivers (n + 1) 3 e := by
    intro e member
    split at member
    · cases member
    · cases member
      exact .string _
  simp only [detailFields, List.map_cons, List.map_nil, List.forall_mem_cons, Option.mem_some_iff, forall_eq']
  exact ⟨.string _, .string _, talent, key, fun e member => (paramsDeliver e member).mono (by omega) (by omega), cons, check,
    .deferred shown, nofun⟩

theorem detail_delivers (n : Nat) (d : Detail) (enough : 2 ≤ n) (fits : DetailFits n d) (params : Option Expr)
    (amount : Expr) (paramsDeliver : ∀ e ∈ params, Delivers 2 3 e) (shown : Shown n amount (bodyOf amount)) :
    Delivers (n + 2) 4 (.record (Fields.present (detailFields d params amount))) :=
  present_delivers (n + 1) 3 _ (detail_keys d params amount ▸ detail_keys_fine.1)
    (detail_keys d params amount ▸ detail_keys_fine.2) (detail_fields_deliver n d enough fits params amount paramsDeliver shown)

def loadedDetail (scope : Scope) (d : Detail) (params : Option Expr) (amount : Expr) : LoadedDetail where
  title := d.title
  check := (given d.check).map fun text => (textBody text, scope)
  damage := (bodyOf amount, scope)
  fields := exportedEntries scope (Fields.present (detailFields d params amount))

theorem detail_field (scope : Scope) (d : Detail) (params : Option Expr) (amount : Expr) (key : String) :
    Value.field (exportedEntries scope (Fields.present (detailFields d params amount))) key =
      ((((detailFields d params amount).lookup key).join).map (exported scope)).getD .null :=
  field_present scope _ (detail_keys d params amount ▸ detail_keys_fine.1) key

theorem detail_loads (scope : Scope) (d : Detail) (titled : d.title ≠ "") (params : Option Expr) (amount : Expr) (i : Nat) :
    loadDetail i (exportedEntries scope (Fields.present (detailFields d params amount))) =
      .ok (loadedDetail scope d params amount) := by
  -- loading looks at three fields; the rest of the record is kept as it is
  have title : titleOf? (exportedEntries scope (Fields.present (detailFields d params amount))) = some d.title := by
    unfold titleOf?
    rw [detail_field]
    simp [detailFields, exported, titled]
  have damage : closureOf? (Value.field (exportedEntries scope (Fields.present (detailFields d params amount))) "dmg") =
      some (bodyOf amount, scope) := by
    rw [detail_field]
    simp [detailFields, List.lookup_cons, exported, closureOf?]
  have check : Value.field (exportedEntries scope (Fields.present (detailFields d params amount))) "check" =
      (((given d.check).map fun text => Value.closure (textBody text) scope)).getD .null := by
    rw [detail_field]
    cases own : given d.check <;> simp [detailFields, List.lookup_cons, own, exported, deferText, bodyOf]
  unfold loadDetail
  rw [title]
  dsimp only
  rw [damage, check]
  cases own : given d.check <;> simp [loadedDetail, own, pure, Except.pure]

theorem detail_decodes (kit : Kit) (n : Nat) (scope : Scope) (d : Detail) (fits : DetailFits n d) (params : Option Expr)
    (amount : Expr) (paramsHold : ParamsHold d.params ((params.map (exported scope)).getD .null))
    (damage : IsDamage kit d (bodyOf amount)) : DetailDecodes kit d (loadedDetail scope d params amount) where
  title := rfl
  titleField := by
    simp only [loadedDetail, detail_field]
    rfl
  kind := by
    simp only [loadedDetail, detail_field]
    rfl
  talent := by
    simp only [loadedDetail, detail_field]
    cases own : given d.talent <;> simp [detailFields, List.lookup_cons, own, exported, textOr]
  damageKey := by
    simp only [loadedDetail, detail_field]
    by_cases reaction : d.kind = .reaction <;> simp [detailFields, List.lookup_cons, reaction, exported, textOr]
  params := by
    simp only [loadedDetail, detail_field]
    simpa [detailFields, List.lookup_cons] using paramsHold
  cons := by
    simp only [loadedDetail, detail_field]
    exact natural_decodes scope d.cons fits.cons
  check := by
    cases own : given d.check with
    | none => simp [loadedDetail, own]
    | some text => exact ⟨textBody text, scope, by simp [loadedDetail, own], (fits.check text own).means⟩
  damage := damage

def BuffValueFits (n : Nat) : BuffValue → Prop
  | .number x => isFinite x = true
  | .expression text => TextFits n text

structure BuffFits (n : Nat) (b : Buff) : Prop where
  titled : b.title ≠ ""
  sort : ∀ s ∈ b.sort, ∃ x, ofInteger s = .ok x
  cons : ∀ c ∈ b.constellation, c ≤ 60
  trace : ∀ t ∈ b.trace, t ≤ 60
  check : ∀ text ∈ given b.check, TextFits (n + 1) text
  distinct : (b.data.map (·.1)).Nodup
  data : ∀ entry ∈ b.data, IsSafeKey entry.1 ∧ BuffValueFits n entry.2

def IsBuffValue : BuffValue → Value → Prop
  | .number x, v => IsNumber x v
  | .expression text, v => ∃ body scope, v = .closure body scope ∧ Means text body

structure BuffDecodes (b : Buff) (loaded : LoadedBuff) : Prop where
  title : loaded.title = b.title
  titleField : Value.field loaded.fields "title" = .string b.title
  sort : match b.sort with
    | some s => ∃ x, ofInteger s = .ok x ∧ IsNumber x (Value.field loaded.fields "sort")
    | none => Value.field loaded.fields "sort" = .null
  cons : IsOptionalNumber (b.constellation.map Float.ofNat) (Value.field loaded.fields "cons")
  trace : IsOptionalNumber (b.trace.map Float.ofNat) (Value.field loaded.fields "tree")
  check : match given b.check with
    | some text => ∃ body scope, Value.field loaded.fields "check" = .closure body scope ∧ Means text body
    | none => Value.field loaded.fields "check" = .null
  data : FieldsHold IsBuffValue b.data loaded.data
  dataField : Value.field loaded.fields "data" = .record loaded.data

def dataEntries (b : Buff) : List (String × Expr) := b.data.map fun (k, v) => (k, buffValue v)

def buffFields (b : Buff) (sort : Option Float) : List (String × Option Expr) :=
  [("title", some (.string b.title)), ("sort", sort.map .number), ("cons", b.constellation.map .natural),
    ("tree", b.trace.map .natural), ("check", (given b.check).map deferText), ("data", some (.record (dataEntries b)))]

theorem buff_record_fields (b : Buff) (sort : Option Float) (converted : b.sort.mapM ofInteger = .ok sort) :
    buffRecord b = .ok (.record (Fields.present (buffFields b sort))) := by
  unfold buffRecord
  rw [converted]
  simp only [buffFields, dataEntries, Fields.present_cons]
  simp [bind, entry?, Except.bind, pure, Except.pure, Fields.present]

theorem sort_converts (n : Nat) (b : Buff) (fits : BuffFits n b) : ∃ sort, b.sort.mapM ofInteger = .ok sort ∧
    (∀ x ∈ sort, isFinite x = true) ∧ match b.sort with
      | some s => ∃ x, ofInteger s = .ok x ∧ sort = some x
      | none => sort = none := by
  cases own : b.sort with
  | none => exact ⟨none, rfl, nofun, rfl⟩
  | some s =>
    obtain ⟨x, converted⟩ := fits.sort s own
    refine ⟨some x, ?_, ?_, x, converted, rfl⟩
    · simp [converted]
    · rintro y ⟨⟩
      exact of_integer_finite s x converted

theorem data_entries_deliver (n : Nat) (b : Buff) (fits : BuffFits n b) :
    ∀ entry ∈ dataEntries b, IsSafeKey entry.1 ∧ Delivers (n + 1) 2 entry.2 := by
  intro entry member
  obtain ⟨⟨key, v⟩, among, rfl⟩ := List.mem_map.mp member
  obtain ⟨safe, value⟩ := fits.data _ among
  refine ⟨safe, ?_⟩
  cases v with
  | number x => exact .number x value
  | expression text => exact .deferred value.shown

theorem data_delivers (n : Nat) (b : Buff) (fits : BuffFits n b) : Delivers (n + 2) 3 (.record (dataEntries b)) := by
  apply Delivers.record _ _ (data_entries_deliver n b fits)
  simpa [dataEntries, Function.comp_def] using fits.distinct

def buffKeys : List String := ["title", "sort", "cons", "tree", "check", "data"]

theorem buff_keys (b : Buff) (sort : Option Float) : (buffFields b sort).map (·.1) = buffKeys := rfl

theorem buff_keys_fine : buffKeys.Nodup ∧ ∀ key ∈ buffKeys, IsSafeKey key := by decide +kernel

theorem buff_fields_deliver (n : Nat) (b : Buff) (fits : BuffFits n b) (sort : Option Float)
    (finite : ∀ x ∈ sort, isFinite x = true) :
    ∀ value ∈ (buffFields b sort).map (·.2), ∀ e ∈ value, Delivers (n + 2) 3 e := by
  have order := optional_delivers Expr.number sort fun x own => Delivers.number (n := n + 1) (k := 1) x (finite x own)
  have cons := optional_delivers Expr.natural b.constellation fun c own =>
    Delivers.number (n := n + 1) (k := 1) _ (natural_finite c (fits.cons c own))
  have trace := optional_delivers Expr.natural b.trace fun t own =>
    Delivers.number (n := n + 1) (k := 1) _ (natural_finite t (fits.trace t own))
  have check := optional_delivers deferText (given b.check) fun text own =>
    Delivers.deferred (k := 2) (fits.check text own).shown
  simp only [buffFields, List.map_cons, List.map_nil, List.forall_mem_cons, Option.mem_some_iff, forall_eq']
  exact ⟨.string _, order, cons, trace, check, data_delivers n b fits, nofun⟩

theorem buff_delivers (n : Nat) (b : Buff) (fits : BuffFits n b) (sort : Option Float)
    (finite : ∀ x ∈ sort, isFinite x = true) : Delivers (n + 3) 4 (.record (Fields.present (buffFields b sort))) :=
  present_delivers (n + 2) 3 _ (buff_keys b sort ▸ buff_keys_fine.1) (buff_keys b sort ▸ buff_keys_fine.2)
    (buff_fields_deliver n b fits sort finite)

def loadedBuff (scope : Scope) (b : Buff) (sort : Option Float) : LoadedBuff where
  title := b.title
  data := exportedEntries scope (dataEntries b)
  fields := exportedEntries scope (Fields.present (buffFields b sort))

theorem buff_field (scope : Scope) (b : Buff) (sort : Option Float) (key : String) :
    Value.field (exportedEntries scope (Fields.present (buffFields b sort))) key =
      ((((buffFields b sort).lookup key).join).map (exported scope)).getD .null :=
  field_present scope _ (buff_keys b sort ▸ buff_keys_fine.1) key

theorem buff_loads (scope : Scope) (b : Buff) (titled : b.title ≠ "") (sort : Option Float) (i : Nat) :
    loadBuff i (exportedEntries scope (Fields.present (buffFields b sort))) = .ok (loadedBuff scope b sort) := by
  have title : titleOf? (exportedEntries scope (Fields.present (buffFields b sort))) = some b.title := by
    unfold titleOf?
    rw [buff_field]
    simp [buffFields, exported, titled]
  have data : (exportedEntries scope (Fields.present (buffFields b sort))).lookup "data" =
      some (.record (exportedEntries scope (dataEntries b))) := by
    rw [lookup_exported, Fields.lookup_present _ (by simp [buffFields])]
    simp [buffFields, List.lookup_cons, exported]
  unfold loadBuff
  rw [title]
  dsimp only
  rw [data]
  rfl

theorem data_decodes (n : Nat) (scope : Scope) (data : Fields BuffValue)
    (each : ∀ entry ∈ data, IsSafeKey entry.1 ∧ BuffValueFits n entry.2) :
    FieldsHold IsBuffValue data (exportedEntries scope (data.map fun (k, v) => (k, buffValue v))) := by
  induction data with
  | nil => exact .nil
  | cons entry rest ih =>
    obtain ⟨key, v⟩ := entry
    have fits := (each (key, v) List.mem_cons_self).2
    refine .cons ⟨rfl, ?_⟩ (ih fun other member => each other (List.mem_cons_of_mem _ member))
    cases v with
    | number x => exact exported_number scope x fits
    | expression text => exact ⟨textBody text, scope, rfl, fits.means⟩

theorem buff_decodes (n : Nat) (scope : Scope) (b : Buff) (fits : BuffFits n b) (sort : Option Float)
    (order : match b.sort with
      | some s => ∃ x, ofInteger s = .ok x ∧ sort = some x
      | none => sort = none) : BuffDecodes b (loadedBuff scope b sort) where
  title := rfl
  titleField := by
    simp only [loadedBuff, buff_field]
    rfl
  sort := by
    simp only [loadedBuff, buff_field]
    cases own : b.sort with
    | none =>
      rw [own] at order
      simp [buffFields, List.lookup_cons, order]
    | some s =>
      rw [own] at order
      obtain ⟨x, converted, rfl⟩ := order
      have number := exported_number scope x (of_integer_finite s x converted)
      exact ⟨x, converted, by simpa [buffFields, List.lookup_cons] using number⟩
  cons := by
    simp only [loadedBuff, buff_field]
    exact natural_decodes scope b.constellation fits.cons
  trace := by
    simp only [loadedBuff, buff_field]
    exact natural_decodes scope b.trace fits.trace
  check := by
    simp only [loadedBuff, buff_field]
    cases own : given b.check with
    | none => simp [buffFields, List.lookup_cons, own]
    | some text =>
      refine ⟨textBody text, scope, ?_, (fits.check text own).means⟩
      simp [buffFields, List.lookup_cons, own, exported, deferText, bodyOf]
  data := data_decodes n scope b.data fits.data
  dataField := by
    simp only [loadedBuff, buff_field]
    simp [buffFields, List.lookup_cons, exported]

end DamagePlan.Render
