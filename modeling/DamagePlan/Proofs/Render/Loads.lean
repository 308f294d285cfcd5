import DamagePlan.Proofs.Render.Rows
import DamagePlan.Proofs.Steps

/-!
Rendering and loading cancel: the script of a plan loads as the plan.
-/
set_option autoImplicit false

namespace DamagePlan.Render

open Script Decimal

structure PlanFits (n : Nat) (plan : Plan) : Prop where
  details : ∀ d ∈ plan.details, DetailFits (n + 1) d
  buffs : ∀ b ∈ plan.buffs, BuffFits n b
  few : plan.details.length ≤ Plan.maxDetails

structure PlanDecodes (kit : Kit) (plan : Plan) (tag : String) (loaded : LoadedScript) : Prop where
  game : loaded.game = kit.game
  createdBy : loaded.createdBy = tag
  mainAttr : loaded.mainAttr = plan.mainAttrs
  defaultKey : loaded.defaultKey = defaultKey plan
  defaultIndex : loaded.defaultIndex = defaultIndex plan (Render.defaultKey plan)
  details : List.Forall₂ (DetailDecodes kit) plan.details loaded.details
  buffs : List.Forall₂ BuffDecodes plan.buffs loaded.buffs

structure Loads {α β : Type} (n : Nat) (load : Nat → List (String × Value) → Except StaticFault β)
    (decodes : α → β → Prop) (a : α) (e : Expr) : Prop where
  delivers : Delivers n 4 e
  loads : ∀ scope, ∃ fields b, exported scope e = .record fields ∧ (∀ i, load i fields = .ok b) ∧ decodes a b

section Lists

variable {α β : Type} {n : Nat} {load : Nat → List (String × Value) → Except StaticFault β} {decodes : α → β → Prop}

theorem each_delivers (as : List α) (es : List Expr) (each : List.Forall₂ (Loads n load decodes) as es) :
    ∀ e ∈ es, Delivers n 4 e := by
  induction each with
  | nil => nofun
  | cons first _ ih =>
    intro e member
    rcases List.mem_cons.mp member with rfl | later
    · exact first.delivers
    · exact ih e later

theorem list_delivers (as : List α) (es : List Expr) (each : List.Forall₂ (Loads n load decodes) as es) :
    Delivers (n + 1) 5 (.list es) := .list es (each_delivers as es each)

theorem list_loads (scope : Scope) (as : List α) (es : List Expr)
    (each : List.Forall₂ (fun a e => ∃ fields b, exported scope e = .record fields ∧ (∀ i, load i fields = .ok b) ∧
      decodes a b) as es) :
    ∃ records bs, recordsOf? (.list (exportedList scope es)) = some records ∧ records.length = as.length ∧
      (∀ i, loadEach load i records = .ok bs) ∧ List.Forall₂ decodes as bs := by
  induction each with
  | nil => exact ⟨[], [], rfl, rfl, fun _ => rfl, .nil⟩
  | cons first _ ih =>
    obtain ⟨fields, b, exportedAs, loaded, decoded⟩ := first
    obtain ⟨records, bs, areRecords, length, loadedRest, decodedRest⟩ := ih
    simp only [recordsOf?] at areRecords
    refine ⟨fields :: records, b :: bs, ?_, by simp [length], fun i => ?_, .cons decoded decodedRest⟩
    · simp [recordsOf?, exportedList, exportedAs, recordOf?, areRecords]
    · simp only [loadEach, loaded, loadedRest]
      rfl

theorem map_made {ε : Type} {make : α → Except ε Expr} (as : List α)
    (each : ∀ a ∈ as, (∃ x, make a = .error x) ∨ ∃ e, make a = .ok e ∧ Loads n load decodes a e) :
    (∃ a ∈ as, ∃ x, make a = .error x ∧ as.mapM make = .error x) ∨
      ∃ es, as.mapM make = .ok es ∧ List.Forall₂ (Loads n load decodes) as es := by
  induction as with
  | nil => exact .inr ⟨[], rfl, .nil⟩
  | cons a as ih =>
    rcases each a List.mem_cons_self with ⟨x, failed⟩ | ⟨e, made, loads⟩
    · refine .inl ⟨a, List.mem_cons_self, x, failed, ?_⟩
      simp [failed, bind, Except.bind]
    · rcases ih fun other member => each other (List.mem_cons_of_mem _ member) with
        ⟨other, member, x, failed, whole⟩ | ⟨es, whole, rest⟩
      · refine .inl ⟨other, List.mem_cons_of_mem _ member, x, failed, ?_⟩
        simp [made, whole, bind, Except.bind]
      · refine .inr ⟨e :: es, ?_, .cons loads rest⟩
        simp [made, whole, bind, Except.bind, pure, Except.pure]

end Lists

theorem detail_made (kit : Kit) (n : Nat) (enough : 19 ≤ n) (d : Detail) (fits : DetailFits n d) :
    (∃ x, Formula.ofDetail kit d = .error x ∧ detailRecord kit d = .error x) ∨
      ∃ e, detailRecord kit d = .ok e ∧ Loads (n + 2) loadDetail (DetailDecodes kit) d e := by
  obtain ⟨params, made, deliver, hold⟩ := parameters_deliver d n fits
  cases formula : Formula.ofDetail kit d with
  | error x =>
    refine .inl ⟨x, rfl, ?_⟩
    unfold detailRecord
    exact lift_made made (by rw [formula]; rfl)
  | ok amount =>
    obtain ⟨shown, damage⟩ := damage_shown kit n d enough fits amount formula
    refine .inr ⟨_, detail_record_fields kit d params amount made formula,
      detail_delivers n d (by omega) fits params amount deliver shown, fun scope => ?_⟩
    exact ⟨_, loadedDetail scope d params amount, rfl, fun i => detail_loads scope d fits.titled params amount i,
      detail_decodes kit n scope d fits params amount (hold scope) damage⟩

theorem buff_made (n : Nat) (b : Buff) (fits : BuffFits n b) :
    ∃ e, buffRecord b = .ok e ∧ Loads (n + 3) loadBuff BuffDecodes b e := by
  obtain ⟨sort, converted, finite, order⟩ := sort_converts n b fits
  refine ⟨_, buff_record_fields b sort converted, buff_delivers n b fits sort finite, fun scope => ?_⟩
  exact ⟨_, loadedBuff scope b sort, rfl, fun i => buff_loads scope b fits.titled sort i,
    buff_decodes n scope b fits sort order⟩

theorem default_index_inside (plan : Plan) (key : String) :
    plan.details = [] ∧ defaultIndex plan key = 0 ∨ defaultIndex plan key < plan.details.length := by
  unfold defaultIndex
  cases keyed : plan.details.findIdx? (fun d => d.kind = .dmg && d.damageKey == key) with
  | some i =>
    obtain ⟨inside, -⟩ := List.findIdx?_eq_some_iff_getElem.mp keyed
    exact .inr (by simpa using inside)
  | none =>
    cases first : plan.details.findIdx? (·.kind = .dmg) with
    | some i =>
      obtain ⟨inside, -⟩ := List.findIdx?_eq_some_iff_getElem.mp first
      exact .inr (by simpa using inside)
    | none =>
      cases rows : plan.details with
      | nil => exact .inl ⟨rfl, rfl⟩
      | cons d rest => exact .inr (by simp)

theorem default_index_small (plan : Plan) (few : plan.details.length ≤ Plan.maxDetails) (key : String) :
    defaultIndex plan key ≤ 20 := by
  simp only [Plan.maxDetails] at few
  rcases default_index_inside plan key with ⟨-, zero⟩ | inside <;> omega

theorem index_exported (scope : Scope) (plan : Plan) (few : plan.details.length ≤ Plan.maxDetails) (key : String) :
    indexExport (exported scope (.natural (defaultIndex plan key))) plan.details.length =
      .ok (defaultIndex plan key : Int) := by
  -- there are few enough rows to compute the export of every index
  have whole : ∀ k ≤ 20, integral? (unsignedZero (Float.ofNat k)) = some (k : Int) := by decide +kernel
  have inside := default_index_inside plan key
  simp only [Expr.natural, exported, indexExport, whole _ (default_index_small plan few key)]
  rcases inside with ⟨none_, zero⟩ | below
  · simp [none_]
  · have inRange : ((plan.details.length : Nat) != 0 &&
        !(decide ((0 : Int) ≤ defaultIndex plan key) && decide ((defaultIndex plan key : Int) < plan.details.length))) = false := by
      simp [below]
    rw [if_neg (by simpa using inRange)]

def headAssignments (kit : Kit) (plan : Plan) (tag : String) : List Assignment :=
  [⟨"game", .string kit.game.code⟩, ⟨"createdBy", .string tag⟩, ⟨"mainAttr", .string plan.mainAttrs⟩,
    ⟨"defDmgKey", .string (defaultKey plan)⟩, ⟨"defDmgIdx", .natural (defaultIndex plan (defaultKey plan))⟩]

def planAssignments (kit : Kit) (plan : Plan) (tag : String) (details buffs : List Expr) : List Assignment :=
  [⟨"game", .string kit.game.code⟩, ⟨"createdBy", .string tag⟩, ⟨"mainAttr", .string plan.mainAttrs⟩,
    ⟨"defDmgKey", .string (defaultKey plan)⟩, ⟨"defDmgIdx", .natural (defaultIndex plan (defaultKey plan))⟩,
    ⟨"details", .list details⟩, ⟨"buffs", .list buffs⟩]

theorem build_made (kit : Kit) (plan : Plan) (tag : String) (details buffs : List Expr)
    (rows : plan.details.mapM (detailRecord kit) = .ok details) (modifiers : plan.buffs.mapM buffRecord = .ok buffs) :
    build kit plan tag = .ok ⟨s!"Auto-generated by {tag}.\n{kit.name} ({kit.game.code})",
      planAssignments kit plan tag details buffs⟩ := by
  exact bind_made rows (lift_made modifiers rfl)

theorem build_ok (kit : Kit) (plan : Plan) (tag : String) (script : Program) (built : build kit plan tag = .ok script) :
    ∃ details buffs, plan.details.mapM (detailRecord kit) = .ok details ∧ plan.buffs.mapM buffRecord = .ok buffs ∧
      script.assignments = planAssignments kit plan tag details buffs := by
  obtain ⟨details, rows, built⟩ := bind_ok _ _ _ built
  obtain ⟨buffs, modifiers, built⟩ := lifted_ok _ _ _ _ built
  cases built
  exact ⟨details, buffs, rows, modifiers, rfl⟩

theorem rendered_program (kit : Kit) (plan : Plan) (tag text : String) (rendered : render kit plan tag = .ok text) :
    ∃ (p : Program) (details buffs : List Expr), text = p.plainText ∧
      p.assignments = planAssignments kit plan tag details buffs ∧
      plan.details.mapM (detailRecord kit) = .ok details ∧ plan.buffs.mapM buffRecord = .ok buffs ∧
      ∀ a ∈ p.assignments, a.value.nonFinite? = none := by
  obtain ⟨script, built, rendered⟩ := lifted_ok _ _ _ _ rendered
  obtain ⟨details, buffs, rows, modifiers, assignments⟩ := build_ok kit plan tag script built
  cases found : script.assignments.findSome? fun a => a.value.nonFinite? with
  | some x => simp [Program.text, found, Except.mapError] at rendered
  | none =>
    simp only [Program.text, found, Except.mapError, Except.ok.injEq] at rendered
    exact ⟨script, details, buffs, rendered.symm, assignments, rows, modifiers, List.findSome?_eq_none_iff.mp found⟩

theorem required_free (name : String) (known : name ∈ requiredExports) : Formula.IsFree name := by
  have free : ∀ name ∈ requiredExports, Formula.IsFree name := by decide +kernel
  exact free name known

theorem text_assignable (n : Nat) (name : String) (known : name ∈ requiredExports) (text : String) :
    Assignable n ⟨name, .string text⟩ := by
  have free := required_free name known
  exact ⟨free.1, free.2, .string (k := 63) text, Expr.print_ends 0 (.string text) trivial⟩

theorem head_assignable (kit : Kit) (plan : Plan) (tag : String) (n : Nat) (few : plan.details.length ≤ Plan.maxDetails) :
    ∀ a ∈ headAssignments kit plan tag, Assignable (n + 1) a := by
  have small := default_index_small plan few (defaultKey plan)
  have free := required_free "defDmgIdx" (by decide)
  have index : Assignable (n + 1) ⟨"defDmgIdx", .natural (defaultIndex plan (defaultKey plan))⟩ :=
    ⟨free.1, free.2, .number (k := 62) _ (natural_finite _ (by omega)),
      Expr.print_ends 0 (.number _) (Formula.natural_unsigned _ (by omega))⟩
  simp only [headAssignments, List.forall_mem_cons]
  exact ⟨text_assignable (n + 1) "game" (by decide) _, text_assignable (n + 1) "createdBy" (by decide) _,
    text_assignable (n + 1) "mainAttr" (by decide) _, text_assignable (n + 1) "defDmgKey" (by decide) _, index, nofun⟩

theorem plan_assignable (kit : Kit) (plan : Plan) (tag : String) (n : Nat)
    (few : plan.details.length ≤ Plan.maxDetails) (details buffs : List Expr) (rows : Delivers (n + 4) 5 (.list details))
    (modifiers : Delivers (n + 4) 5 (.list buffs)) :
    ∀ a ∈ planAssignments kit plan tag details buffs, Assignable (n + 4) a := by
  have list : ∀ name ∈ requiredExports, ∀ es, Delivers (n + 4) 5 (.list es) → Assignable (n + 4) ⟨name, .list es⟩ := by
    intro name known es delivers
    have free := required_free name known
    exact ⟨free.1, free.2, delivers.mono (Nat.le_refl _) (by decide), Expr.bracketed_ends _ _ _ _ _ (by decide)⟩
  have shape : planAssignments kit plan tag details buffs =
      headAssignments kit plan tag ++ [⟨"details", .list details⟩, ⟨"buffs", .list buffs⟩] := rfl
  rw [shape, List.forall_mem_append]
  refine ⟨head_assignable kit plan tag (n + 3) few, ?_⟩
  simp only [List.forall_mem_cons]
  exact ⟨list "details" (by decide) _ rows, list "buffs" (by decide) _ modifiers, nofun⟩

def headExports (kit : Kit) (plan : Plan) (tag : String) : Scope :=
  [("game", .string kit.game.code), ("createdBy", .string tag), ("mainAttr", .string plan.mainAttrs),
    ("defDmgKey", .string (defaultKey plan)),
    ("defDmgIdx", exported [] (.natural (defaultIndex plan (defaultKey plan))))]

def planExports (kit : Kit) (plan : Plan) (tag : String) (details buffs : Value) : Scope :=
  headExports kit plan tag ++ [("details", details), ("buffs", buffs)]

section Exports

variable (kit : Kit) (plan : Plan) (tag : String) (details buffs : Value)

theorem game_export : Value.field (planExports kit plan tag details buffs) "game" = .string kit.game.code := rfl

theorem key_export : textExport (planExports kit plan tag details buffs) "defDmgKey" = .ok (defaultKey plan) := rfl

theorem attr_export : textExport (planExports kit plan tag details buffs) "mainAttr" = .ok plan.mainAttrs := rfl

theorem tag_export : textExport (planExports kit plan tag details buffs) "createdBy" = .ok tag := rfl

theorem index_field : Value.field (planExports kit plan tag details buffs) "defDmgIdx" =
    exported [] (.natural (defaultIndex plan (defaultKey plan))) := rfl

theorem details_export : Value.field (planExports kit plan tag details buffs) "details" = details := rfl

theorem buffs_export : Value.field (planExports kit plan tag details buffs) "buffs" = buffs := rfl

theorem none_missing : (requiredExports.filter fun name =>
    !(planExports kit plan tag details buffs).any (·.1 == name)) = [] := by
  simp [requiredExports, planExports, headExports]

end Exports

theorem exports_load (kit : Kit) (plan : Plan) (tag : String) (few : plan.details.length ≤ Plan.maxDetails)
    (details buffs : Value) (detailRecords buffRecords : List (List (String × Value))) (loadedDetails : List LoadedDetail)
    (loadedBuffs : List LoadedBuff) (rows : recordsOf? details = some detailRecords)
    (counted : detailRecords.length = plan.details.length) (modifiers : recordsOf? buffs = some buffRecords)
    (rowsLoad : loadEach loadDetail 0 detailRecords = .ok loadedDetails)
    (modifiersLoad : loadEach loadBuff 0 buffRecords = .ok loadedBuffs) :
    loadExports (planExports kit plan tag details buffs) 0 = .ok
      { game := kit.game, details := loadedDetails, buffs := loadedBuffs
        defaultIndex := defaultIndex plan (defaultKey plan), defaultKey := defaultKey plan, mainAttr := plan.mainAttrs
        createdBy := tag, exports := planExports kit plan tag details buffs, marks := 0 } := by
  have index := index_exported [] plan few (defaultKey plan)
  rw [← counted] at index
  unfold loadExports
  simp only [none_missing, game_export, key_export, attr_export, tag_export, index_field, details_export, buffs_export,
    rows, modifiers, index, rowsLoad, modifiersLoad, Game.ofCode?_code, bind, Except.bind, pure, Except.pure,
    List.isEmpty_nil, Bool.not_true, Bool.false_eq_true, if_false]

def TooDeep (stack : Stack) (text : String) : Prop :=
  ∃ pos, load stack text = .error (.static (.badSyntax ⟨.nestedTooDeeply, pos⟩))

theorem plan_made (kit : Kit) (plan : Plan) (tag : String) (n : Nat) (enough : 19 ≤ n) (fits : PlanFits n plan) :
    (∃ d ∈ plan.details, ∃ x, Formula.ofDetail kit d = .error x ∧ render kit plan tag = .error (.ofFault kit.name x)) ∨
      ∃ header details buffs, plan.details.mapM (detailRecord kit) = .ok details ∧ plan.buffs.mapM buffRecord = .ok buffs ∧
        List.Forall₂ (Loads (n + 3) loadDetail (DetailDecodes kit)) plan.details details ∧
        List.Forall₂ (Loads (n + 3) loadBuff BuffDecodes) plan.buffs buffs ∧
        (∀ a ∈ planAssignments kit plan tag details buffs, Assignable (n + 4) a) ∧
        render kit plan tag = .ok (⟨header, planAssignments kit plan tag details buffs⟩ : Program).plainText := by
  have buffsMade : ∀ b ∈ plan.buffs, (∃ x, buffRecord b = .error x) ∨
      ∃ e, buffRecord b = .ok e ∧ Loads (n + 3) loadBuff BuffDecodes b e := fun b member =>
    .inr (buff_made n b (fits.buffs b member))
  have rowsMade : ∀ d ∈ plan.details, (∃ x, detailRecord kit d = .error x) ∨
      ∃ e, detailRecord kit d = .ok e ∧ Loads (n + 3) loadDetail (DetailDecodes kit) d e := by
    intro d member
    rcases detail_made kit (n + 1) (by omega) d (fits.details d member) with ⟨x, -, failed⟩ | made
    · exact .inl ⟨x, failed⟩
    · exact .inr made
  rcases map_made plan.details rowsMade with ⟨d, member, x, failed, whole⟩ | ⟨details, rows, rowsLoad⟩
  · left
    rcases detail_made kit (n + 1) (by omega) d (fits.details d member) with ⟨y, formula, same⟩ | ⟨e, made, -⟩
    · rw [same, Except.error.injEq] at failed
      subst failed
      have failed : build kit plan tag = .error y := by
        rw [build, whole]
        rfl
      refine ⟨d, member, y, formula, ?_⟩
      rw [render, failed]
      rfl
    · rw [made] at failed
      cases failed
  · right
    rcases map_made plan.buffs buffsMade with ⟨b, member, x, failed, -⟩ | ⟨buffs, modifiers, modifiersLoad⟩
    · obtain ⟨e, made, -⟩ := buff_made n b (fits.buffs b member)
      rw [made] at failed
      cases failed
    · have assignable := plan_assignable kit plan tag n fits.few details buffs (list_delivers _ _ rowsLoad)
        (list_delivers _ _ modifiersLoad)
      have built := build_made kit plan tag details buffs rows modifiers
      -- what the header says is of no interest to the parser, and only in the way here
      generalize s!"Auto-generated by {tag}.\n{kit.name} ({kit.game.code})" = header at built
      refine ⟨header, details, buffs, rows, modifiers, rowsLoad, modifiersLoad, assignable, ?_⟩
      refine lift_made built ?_
      rw [assignable_finite ⟨header, planAssignments kit plan tag details buffs⟩ (n + 4) assignable]
      rfl

theorem plan_loads (stack : Stack) (kit : Kit) (plan : Plan) (tag : String) (n : Nat) (enough : 19 ≤ n) (fits : PlanFits n plan) :
    (∃ d ∈ plan.details, ∃ x, Formula.ofDetail kit d = .error x ∧ render kit plan tag = .error (.ofFault kit.name x)) ∨
      ∃ text, render kit plan tag = .ok text ∧
        ((∃ loaded, load stack text = .ok loaded ∧ PlanDecodes kit plan tag loaded) ∨ TooDeep stack text) ∧
        (n + 4 ≤ 63 → ∃ loaded, load stack text = .ok loaded ∧ PlanDecodes kit plan tag loaded) := by
  rcases plan_made kit plan tag n enough fits with failed |
    ⟨header, details, buffs, -, -, rowsLoad, modifiersLoad, assignable, rendered⟩
  · exact .inl failed
  · right
    obtain ⟨records, loadedDetails, areRecords, counted, loadDetails, decodedDetails⟩ :=
      list_loads (headExports kit plan tag) _ _ (rowsLoad.imp fun _ _ row => row.loads _)
    -- the buffs come last, so their closures have captured the rows as well
    obtain ⟨records', loadedBuffs, areRecords', -, loadBuffs, decodedBuffs⟩ := list_loads
      (headExports kit plan tag ++ [("details", .list (exportedList (headExports kit plan tag) details))]) _ _
      (modifiersLoad.imp fun _ _ modifier => modifier.loads _)
    have whole := exports_load kit plan tag fits.few _ _ records records' loadedDetails loadedBuffs areRecords counted
      areRecords' (loadDetails 0) (loadBuffs 0)
    have loaded : ∃ loaded, loadExports (exportsFrom [] (planAssignments kit plan tag details buffs)) 0 = .ok loaded ∧
        PlanDecodes kit plan tag loaded := ⟨_, whole, rfl, rfl, rfl, rfl, rfl, decodedDetails, decodedBuffs⟩
    obtain ⟨script, exportsLoad, decodes⟩ := loaded
    have loads := literals_load stack ⟨header, planAssignments kit plan tag details buffs⟩ (n + 4) assignable
      (by simp [planAssignments]) script exportsLoad
    refine ⟨_, rendered, ?_, fun shallow => ⟨script, loads.2 shallow, decodes⟩⟩
    rcases loads.1 with loaded | deep
    · exact .inl ⟨script, loaded, decodes⟩
    · exact .inr deep

end DamagePlan.Render
