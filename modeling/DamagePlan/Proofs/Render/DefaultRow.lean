import DamagePlan.Proofs.Refine.Whitelist

/-!
The default row of a script: the two exports that name it, one by its key and one by its index.
-/
set_option autoImplicit false

namespace DamagePlan.Render

open Script
open Refinement (IsMade validate)

def HasDamageRow (plan : Plan) (key : String) : Prop := ∃ d ∈ plan.details, d.kind = .dmg ∧ d.damageKey = key

theorem damage_key_filled (kit : Kit) (d : Detail) (listed : kit.hasTable d.talent d.table = true) : d.damageKey ≠ "" := by
  have talent : d.talent.getD "" ≠ "" := by
    unfold Kit.hasTable at listed
    split at listed
    · rename_i t n own _
      simp only [Bool.and_eq_true, Bool.not_eq_true', String.isEmpty_eq_false_iff] at listed
      simpa [own] using listed.1.1
    · cases listed
  unfold Detail.damageKey
  cases d.key with
  | none => exact talent
  | some key =>
    by_cases blank : Text.isBlankText key = true
    · simpa [blank] using talent
    · simpa [blank] using Text.trim_filled key (by simpa using blank)

theorem default_key_given (plan : Plan) :
    defaultKey plan = (given plan.defaultDamageKey).getD (defaultKey.fallback plan) := by
  unfold defaultKey given
  cases plan.defaultDamageKey with
  | none => rfl
  | some key => by_cases empty : key.isEmpty = true <;> simp [Option.filter, empty]

theorem fallback_key_of_row (plan : Plan) (filled : ∀ d ∈ plan.details, d.kind = .dmg → d.damageKey ≠ "")
    (damage : ∃ d ∈ plan.details, d.kind = .dmg) : HasDamageRow plan (defaultKey.fallback plan) := by
  unfold defaultKey.fallback
  cases found : plan.details.find? fun d => d.kind = .dmg && !d.damageKey.isEmpty with
  | none =>
    obtain ⟨d, member, isDamage⟩ := damage
    have empty := List.find?_eq_none.mp found d member
    simp [isDamage, filled d member isDamage] at empty
  | some d =>
    have keyed := List.find?_some found
    simp only [Bool.and_eq_true, decide_eq_true_eq] at keyed
    exact ⟨d, List.mem_of_find?_eq_some found, keyed.1, rfl⟩

theorem default_row (plan : Plan) (damage : ∃ d ∈ plan.details, d.kind = .dmg) (key : String) :
    ∃ d, plan.details[defaultIndex plan key]? = some d ∧ d.kind = .dmg ∧ (d.damageKey = key ↔ HasDamageRow plan key) := by
  unfold defaultIndex
  cases keyed : plan.details.findIdx? (fun d => d.kind = .dmg && d.damageKey == key) with
  | some i =>
    obtain ⟨inside, holds, -⟩ := List.findIdx?_eq_some_iff_getElem.mp keyed
    simp only [Bool.and_eq_true, decide_eq_true_eq, beq_iff_eq] at holds
    exact ⟨_, List.getElem?_eq_getElem inside, holds.1, fun same => ⟨_, List.getElem_mem inside, holds.1, same⟩,
      fun _ => holds.2⟩
  | none =>
    have absent : ¬HasDamageRow plan key := by
      rintro ⟨d, member, isDamage, same⟩
      have other := List.findIdx?_eq_none_iff.mp keyed d member
      simp [isDamage, same] at other
    cases first : plan.details.findIdx? (·.kind = .dmg) with
    | none =>
      obtain ⟨d, member, isDamage⟩ := damage
      have other := List.findIdx?_eq_none_iff.mp first d member
      simp [isDamage] at other
    | some i =>
      obtain ⟨inside, holds, -⟩ := List.findIdx?_eq_some_iff_getElem.mp first
      have isDamage := of_decide_eq_true holds
      exact ⟨_, List.getElem?_eq_getElem inside, isDamage,
        fun same => ⟨_, List.getElem_mem inside, isDamage, same⟩, fun there => absurd there absent⟩

theorem row_kind (kit : Kit) (scope : Scope) (d : Detail) (row : LoadedDetail) (isRow : IsRow kit scope d row) :
    Value.field row.fields "kind" = .string d.kind.code := by
  obtain ⟨params, amount, -, rfl⟩ := isRow
  simp only [loadedDetail, detail_field]
  rfl

theorem row_key (kit : Kit) (scope : Scope) (d : Detail) (row : LoadedDetail) (isRow : IsRow kit scope d row)
    (other : d.kind ≠ .reaction) : Value.field row.fields "dmgKey" = .string d.damageKey := by
  obtain ⟨params, amount, -, rfl⟩ := isRow
  simp only [loadedDetail, detail_field]
  simp [detailFields, List.lookup_cons, other, exported]

def defaultRow? (loaded : LoadedScript) : Option LoadedDetail := loaded.details[loaded.defaultIndex.toNat]?

theorem listed_default_row (stack : Stack) (kit : Kit) (plan : Plan)
    (listed : WhitelistedPlan kit plan) (damage : ∃ d ∈ plan.details, d.kind = .dmg) (tag text : String) (rendered : render kit plan tag = .ok text)
    (loaded : LoadedScript) (loads : load stack text = .ok loaded) :
    0 ≤ loaded.defaultIndex ∧ ∃ row, defaultRow? loaded = some row ∧
      Value.field row.fields "kind" = .string DetailKind.dmg.code ∧
      (Value.field row.fields "dmgKey" = .string loaded.defaultKey ↔
        ∀ key ∈ given plan.defaultDamageKey, HasDamageRow plan key) := by
  obtain ⟨keyed, placed, rows⟩ := rendered_rows stack kit plan listed tag text rendered loaded loads
  obtain ⟨d, there, isDamage, key⟩ := default_row plan damage (defaultKey plan)
  have other : d.kind ≠ .reaction := by simp [isDamage]
  obtain ⟨row, thereLoaded, isRow⟩ := paired_at _ _ rows _ d there
  refine ⟨by simp [placed], row, by simp [defaultRow?, placed, thereLoaded], by rw [row_kind kit _ d row isRow, isDamage], ?_⟩
  rw [row_key kit _ d row isRow other, keyed, Value.string.injEq, key, default_key_given]
  cases own : given plan.defaultDamageKey with
  | some key => simp
  | none =>
    have filled : ∀ d ∈ plan.details, d.kind = .dmg → d.damageKey ≠ "" := fun d member isDamage =>
      damage_key_filled kit d ((listed.details d member).listed (by simp [isDamage]))
    simpa using fallback_key_of_row plan filled damage

/-- The default row of a loaded script is a damage row, if the plan has any. Its key is the default key if and only if
the plan has no default key of its own, or one of a damage row. -/
theorem default_row_has_key (stack : Stack) (kit : Kit) (plan : Plan)
    (made : IsMade kit plan) (damage : ∃ d ∈ plan.details, d.kind = .dmg) (tag text : String) (rendered : render kit plan tag = .ok text)
    (loaded : LoadedScript) (loads : load stack text = .ok loaded) :
    0 ≤ loaded.defaultIndex ∧ ∃ row, defaultRow? loaded = some row ∧
      Value.field row.fields "kind" = .string DetailKind.dmg.code ∧
      (Value.field row.fields "dmgKey" = .string loaded.defaultKey ↔
        ∀ key ∈ given plan.defaultDamageKey, HasDamageRow plan key) :=
  listed_default_row stack kit plan (Refinement.made_whitelisted kit plan made) damage tag text rendered loaded
    loads

def healKit : Kit := { game := .gs, name := "X", tables := [("e", ["Skill DMG"]), ("q", ["Healing"])] }

def rawWithKey (key : String) : Json := .obj [
  ("mainAttr", .str "atk"), ("defDmgKey", .str key),
  ("details", .arr [
    .obj [("title", .str "Hit"), ("talent", .str "e"), ("table", .str "Skill DMG")],
    .obj [("title", .str "Heal"), ("kind", .str "heal"), ("talent", .str "q"), ("table", .str "Healing")]])]

def isPlain (plan : Plan) : Bool := plan.buffs.isEmpty && plan.details.all fun d =>
  d.params.isNone && d.check.isNone && d.raw.isNone && (Formula.ofDetail healKit d).isOk

theorem raw_with_key_loads (key : String) (either : key = "e" ∨ key = "q") : ∃ plan text loaded,
    validate healKit (rawWithKey key) .default = .ok plan ∧ plan.defaultDamageKey = some key ∧
      plan.details.map (fun d => (d.kind, d.damageKey)) = [(.dmg, "e"), (.heal, "q")] ∧
      render healKit plan "calcplan:model-assisted" = .ok text ∧ load (.levels 200) text = .ok loaded := by
  have evaluated : (validate healKit (rawWithKey key) .default).toOption.map
      (fun plan => (plan.defaultDamageKey, plan.details.map fun d => (d.kind, d.damageKey), isPlain plan)) =
        some (some key, [(.dmg, "e"), (.heal, "q")], true) := by
    rcases either with rfl | rfl
    · decide +kernel
    · decide +kernel
  obtain ⟨plan, made, same⟩ := evaluated_ok _ _ _ evaluated
  obtain ⟨own, same⟩ := Prod.mk.inj same
  obtain ⟨rows, plain⟩ := Prod.mk.inj same
  simp only [isPlain, Bool.and_eq_true, List.isEmpty_iff, List.all_eq_true, Option.isNone_iff_eq_none] at plain
  obtain ⟨buffs, each⟩ := plain
  have listed := Refinement.made_whitelisted healKit plan (.validated _ _ made)
  have rowsPlain : ∀ d ∈ plan.details, Plain d := by
    intro d member
    obtain ⟨⟨⟨params, check⟩, raw⟩, -⟩ := each d member
    exact ⟨params, by simp [check, given], by simp [raw, given]⟩
  rcases plain_plan_loads (.levels 200) healKit plan listed rowsPlain buffs "calcplan:model-assisted" with
    ⟨d, member, x, failed⟩ | ⟨text, loaded, rendered, loads⟩
  · have formula := (each d member).2
    rw [failed] at formula
    cases formula
  · exact ⟨plan, text, loaded, made, own, rows, rendered, loads⟩

theorem skill_key_has_row : ∃ plan text loaded row, IsMade healKit plan ∧
    (∃ d ∈ plan.details, d.kind = .dmg) ∧ render healKit plan "calcplan:model-assisted" = .ok text ∧
    load (.levels 200) text = .ok loaded ∧ defaultRow? loaded = some row ∧
    Value.field row.fields "dmgKey" = .string loaded.defaultKey := by
  obtain ⟨plan, text, loaded, made, own, rows, rendered, loads⟩ := raw_with_key_loads "e" (.inl rfl)
  obtain ⟨d, member, same⟩ := List.mem_map.mp (rows ▸ List.mem_cons_self : (DetailKind.dmg, "e") ∈ plan.details.map _)
  obtain ⟨isDamage, key⟩ := Prod.mk.inj same
  obtain ⟨-, row, there, -, agrees⟩ := default_row_has_key (.levels 200) healKit plan (.validated _ _ made)
    ⟨d, member, isDamage⟩ "calcplan:model-assisted" text rendered loaded loads
  refine ⟨plan, text, loaded, row, .validated _ _ made, ⟨d, member, isDamage⟩, rendered, loads, there, ?_⟩
  refine agrees.mpr fun key' given_ => ?_
  rw [own] at given_
  cases given_
  exact ⟨d, member, isDamage, key⟩

/-- The key of a healing row becomes the default key, and the default row has another one. -/
theorem healing_key_has_no_row : ∃ plan text loaded row, IsMade healKit plan ∧
    (∃ d ∈ plan.details, d.kind = .dmg) ∧ render healKit plan "calcplan:model-assisted" = .ok text ∧
    load (.levels 200) text = .ok loaded ∧ defaultRow? loaded = some row ∧
    Value.field row.fields "dmgKey" ≠ .string loaded.defaultKey := by
  obtain ⟨plan, text, loaded, made, own, rows, rendered, loads⟩ := raw_with_key_loads "q" (.inr rfl)
  obtain ⟨d, member, same⟩ := List.mem_map.mp (rows ▸ List.mem_cons_self : (DetailKind.dmg, "e") ∈ plan.details.map _)
  have isDamage := (Prod.mk.inj same).1
  have listed := Refinement.made_whitelisted healKit plan (.validated _ _ made)
  obtain ⟨-, row, there, -, agrees⟩ := listed_default_row (.levels 200) healKit plan listed ⟨d, member, isDamage⟩
    "calcplan:model-assisted" text rendered loaded loads
  refine ⟨plan, text, loaded, row, .validated _ _ made, ⟨d, member, isDamage⟩, rendered, loads, there, fun agree => ?_⟩
  obtain ⟨d', member', isDamage', key⟩ := agrees.mp agree "q" (by rw [own]; rfl)
  have among : (d'.kind, d'.damageKey) ∈ [(DetailKind.dmg, "e"), (.heal, "q")] := rows ▸ List.mem_map_of_mem member'
  simp [isDamage', key] at among

end DamagePlan.Render
