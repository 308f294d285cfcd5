import DamagePlan.Proofs.Refine.Admission

/-!
Keys in scripts: a record comes back under its keys as they are written, and so do the parameters of the rows of a
validated plan.
-/
set_option autoImplicit false

namespace DamagePlan.Render

open Script Decimal
open Legible (IsSafeKey)
open DamagePlan.Script.Parser (FailsDeep Spoils)
open Refinement (validate)

def HasParameters (d : Detail) (row : LoadedDetail) : Prop :=
  match d.params with
  | none | some [] => Value.field row.fields "params" = .null
  | some params => ∃ values, Value.field row.fields "params" = .record values ∧
      FieldsHold IsScalar (params.map underWritten) values

theorem shows_parameters (scope : Scope) (d : Detail) (scalar : ScalarParameters d) (params : Option Expr) (amount : Expr)
    (shows_ : ShowsParameters d params) : HasParameters d (loadedDetail scope d params amount) := by
  have field : Value.field (loadedDetail scope d params amount).fields "params" = (params.map (exported scope)).getD .null := by
    simp only [loadedDetail, detail_field]
    simp [detailFields, List.lookup_cons]
  unfold HasParameters
  rw [field]
  cases given : d.params with
  | none =>
    cases shows_ with
    | none => rfl
    | some fields filled hold => simp [given] at filled
  | some params =>
    cases params with
    | nil =>
      cases shows_ with
      | none => rfl
      | some fields filled hold => simp [given] at filled
    | cons first rest =>
      cases shows_ with
      | none empty => simp [given] at empty
      | some fields filled hold =>
        have all : shownParameters d = (first :: rest).map underWritten := by
          rw [shownParameters, given, Option.getD_some, List.filter_eq_self.mpr (scalar _ given)]
        exact ⟨_, rfl, all ▸ hold scope⟩

theorem present_distinct (fields : List (String × Option Expr)) (distinct : (fields.map (·.1)).Nodup)
    (each : ∀ value ∈ fields.map (·.2), ∀ e ∈ value, e.KeysDistinct) : (Expr.record (Fields.present fields)).KeysDistinct := by
  refine (Expr.keys_distinct_record _).mpr ⟨(Fields.present_keys fields).nodup distinct, fun entry member => ?_⟩
  simp only [Fields.present, List.mem_filterMap, Option.map_eq_some_iff] at member
  obtain ⟨⟨key, value⟩, among, e, there, rfl⟩ := member
  exact each value (List.mem_map.mpr ⟨_, among, rfl⟩) e there

theorem buff_record_distinct (b : Buff) (distinct : (b.data.map (·.1)).Nodup) (e : Expr) (made : buffRecord b = .ok e) :
    e.KeysDistinct := by
  obtain ⟨sort, converted, -⟩ := bind_ok _ _ _ made
  rw [buff_record_fields b sort converted] at made
  cases made
  have data : (Expr.record (dataEntries b)).KeysDistinct := by
    refine (Expr.keys_distinct_record _).mpr ⟨by simpa [dataEntries, Function.comp_def] using distinct, fun entry member => ?_⟩
    obtain ⟨⟨key, v⟩, -, rfl⟩ := List.mem_map.mp member
    cases v <;> trivial
  refine present_distinct _ (buff_keys b sort ▸ buff_keys_fine.1) ?_
  simp only [buffFields, List.map_cons, List.map_nil, List.forall_mem_cons, Option.mem_some_iff, forall_eq']
  exact ⟨trivial, optional_distinct _ _ fun _ => trivial, optional_distinct _ _ fun _ => trivial,
    optional_distinct _ _ fun _ => trivial, optional_distinct _ _ fun _ => trivial, data, List.forall_mem_nil _⟩

def RepeatsKey (plan : Plan) (kind : SyntaxErrorKind) : Prop :=
  ¬(∀ d ∈ plan.details, WrittenApart d) ∧ ∃ key, kind = .duplicateRecordKey key

section Literals

variable {P : SyntaxErrorKind → Prop} {n : Nat} (kit : Kit) (plan : Plan) (tag : String) (rows buffs : List Expr)

theorem buffs_made (fits : ∀ b ∈ plan.buffs, BuffFits n b) (made : plan.buffs.mapM buffRecord = .ok buffs) :
    List.Forall₂ (Loads (n + 3) loadBuff BuffDecodes) plan.buffs buffs ∧ (Expr.list buffs).KeysDistinct := by
  have each : List.Forall₂ (fun b e => Loads (n + 3) loadBuff BuffDecodes b e ∧ e.KeysDistinct) plan.buffs buffs := by
    refine List.Forall₂.imp (fun b e own => ?_)
      ((List.forall₂_and_left _ _).mpr ⟨fun b member => member, map_m_pairs _ _ _ made⟩)
    obtain ⟨member, made⟩ := own
    obtain ⟨e', made', loads⟩ := buff_made n b (fits b member)
    obtain rfl := Except.ok.inj (made'.symm.trans made)
    exact ⟨loads, buff_record_distinct b (fits b member).distinct e' made⟩
  refine ⟨each.imp fun _ _ own => own.1, (Expr.keys_distinct_list buffs).mpr fun e member => ?_⟩
  obtain ⟨b, -, -, distinct⟩ := paired_right _ _ each e member
  exact distinct

theorem plan_tells (few : plan.details.length ≤ Plan.maxDetails) (details : List Expr)
    (rowsTell : List.Forall₂ (Tells P (n + 3) 4) details rows) (buffsDeliver : Delivers (n + 4) 5 (.list buffs))
    (distinct : (Expr.list buffs).KeysDistinct) :
    List.Forall₂ (AssignsTelling P (n + 4)) (planAssignments kit plan tag details buffs)
      (planAssignments kit plan tag rows buffs) := by
  have listed (name : String) (known : name ∈ requiredExports) (es fs : List Expr)
      (tells : Tells P (n + 4) 5 (.list es) (.list fs)) : AssignsTelling P (n + 4) ⟨name, .list es⟩ ⟨name, .list fs⟩ := by
    have free := required_free name known
    exact ⟨rfl, free.1, free.2, tells.mono (Nat.le_refl _) (by decide), Expr.bracketed_ends _ _ _ _ _ (by decide)⟩
  have head : List.Forall₂ (AssignsTelling P (n + 4)) (headAssignments kit plan tag) (headAssignments kit plan tag) := by
    refine List.forall₂_same.mpr fun a member => (head_assignable kit plan tag (n + 3) few a member).tells ?_
    simp only [headAssignments, List.mem_cons, List.not_mem_nil, or_false] at member
    rcases member with rfl | rfl | rfl | rfl | rfl <;> trivial
  exact List.rel_append head (.cons (listed "details" (by decide) details rows (.list _ _ rowsTell))
    (.cons (listed "buffs" (by decide) buffs buffs (.of_delivers buffsDeliver distinct)) .nil))

theorem row_literal_apart (d : Detail) (f : Expr) (row : IsRowLiteral kit d f) (distinct : f.KeysDistinct) :
    WrittenApart d := by
  obtain ⟨params, amount, -, shows_, rfl⟩ := row
  refine shows_.apart ?_
  rintro e rfl
  exact ((Expr.keys_distinct_record _).mp distinct).2 ("params", e) (by simp [Fields.present, detailFields])

theorem literals_show_parameters (presentable : PresentablePlan plan) (scalar : ∀ d ∈ plan.details, ScalarParameters d)
    (each : List.Forall₂ (IsRowLiteral kit) plan.details rows)
    (modifiers : List.Forall₂ (Loads n loadBuff BuffDecodes) plan.buffs buffs) :
    ∃ loaded, loadExports (exportsFrom [] (planAssignments kit plan tag rows buffs)) 0 = .ok loaded ∧
      List.Forall₂ HasParameters plan.details loaded.details := by
  have records : List.Forall₂ (fun d f => ∃ fields b, exported (headExports kit plan tag) f = .record fields ∧
      (∀ i, loadDetail i fields = .ok b) ∧ HasParameters d b) plan.details rows := by
    refine List.Forall₂.imp (fun d f own => ?_) ((List.forall₂_and_left _ _).mpr ⟨fun d member => member, each⟩)
    obtain ⟨member, params, amount, -, shows_, rfl⟩ := own
    exact ⟨_, _, rfl, fun i => detail_loads _ d (presentable.details d member).titled params amount i,
      shows_parameters _ d (scalar d member) params amount shows_⟩
  obtain ⟨detailRecords, loadedDetails, areRecords, counted, detailsLoad, shown⟩ := list_loads _ _ _ records
  obtain ⟨buffRecords, loadedBuffs, areRecords', -, buffsLoad, -⟩ := list_loads
    (headExports kit plan tag ++ [("details", .list (exportedList (headExports kit plan tag) rows))]) _ _
    (modifiers.imp fun _ _ modifier => modifier.loads _)
  exact ⟨_, exports_load kit plan tag presentable.few _ _ detailRecords buffRecords loadedDetails loadedBuffs areRecords
    counted areRecords' (detailsLoad 0) (buffsLoad 0), shown⟩

end Literals

theorem plan_shows_parameters (stack : Stack) (kit : Kit) (plan : Plan) (presentable : PresentablePlan plan)
    (scalar : ∀ d ∈ plan.details, ScalarParameters d) (n : Nat) (enough : 19 ≤ n)
    (rowsFit : ∀ d ∈ plan.details, DetailFits (n + 1) { d with params := none }) (buffsFit : ∀ b ∈ plan.buffs, BuffFits n b)
    (tag text : String) (rendered : render kit plan tag = .ok text) :
    ((∀ d ∈ plan.details, WrittenApart d) ∧
        ∃ loaded, load stack text = .ok loaded ∧ List.Forall₂ HasParameters plan.details loaded.details) ∨
      ∃ fault, load stack text = .error (.static (.badSyntax fault)) ∧ Spoils (RepeatsKey plan) (n + 4) maxDepth fault := by
  have writable := rendered_writable kit plan tag text rendered
  obtain ⟨p, details, buffs, rfl, assignments, rowsMade, buffsMade, -⟩ := rendered_program kit plan tag text rendered
  obtain ⟨rows, rowsTell, literals⟩ := rows_tell (P := RepeatsKey plan) kit plan.details details (by omega : 19 ≤ n + 1)
    rowsFit writable.params (fun d member twice key => ⟨fun apart => twice (apart d member), key, rfl⟩)
    (map_m_pairs _ _ _ rowsMade)
  obtain ⟨modifiers, distinct⟩ := buffs_made plan buffs buffsFit buffsMade
  have assigns := plan_tells kit plan tag rows buffs presentable.few details rowsTell (list_delivers _ _ modifiers) distinct
  rw [← assignments] at assigns
  rcases telling_loads stack p _ assigns (by simp [planAssignments]) with ⟨distinct, loads⟩ | failed
  · left
    have rowsDistinct := (Expr.keys_distinct_list rows).mp (distinct ⟨"details", .list rows⟩ (by simp [planAssignments]))
    obtain ⟨loaded, exports, shown⟩ := literals_show_parameters kit plan tag rows buffs presentable scalar literals modifiers
    refine ⟨fun d member => ?_, loaded, by rw [loads, exports]; rfl, shown⟩
    obtain ⟨f, among, literal⟩ := paired_right _ _ literals.flip d member
    exact row_literal_apart kit d f literal (rowsDistinct f among)
  · exact .inr failed

theorem validated_parameters (stack : Stack) (kit : Kit) (raw : Json) (policy : EvictionPolicy) (plan : Plan)
    (made : validate kit raw policy = .ok plan) (tag text : String) (rendered : render kit plan tag = .ok text) :
    (∀ d ∈ plan.details, WrittenApart d) ∧
        (∃ loaded, load stack text = .ok loaded ∧ List.Forall₂ HasParameters plan.details loaded.details) ∨
      ¬(∀ d ∈ plan.details, WrittenApart d) ∧
        (∃ key pos, load stack text = .error (.static (.badSyntax ⟨.duplicateRecordKey key, pos⟩))) ∨
      ¬PlanRoom plan ∧ TooDeep stack text := by
  have writable := rendered_writable kit plan tag text rendered
  have presentable := (Refinement.made_whitelisted kit plan (.validated raw policy made)).presentable
  have scalar := Refinement.validated_scalars kit raw policy plan made
  have buffs : ∀ b ∈ plan.buffs, ExpressibleBuff b := fun b member =>
    writable.buff b member (Refinement.validated_buffs_admitted kit raw policy plan made b member)
  by_cases room : PlanRoom plan
  · -- texts with room leave a level to spare, so that nothing is nested too deeply
    have rowsFit : ∀ d ∈ plan.details, DetailFits 60 { d with params := none } := fun d member =>
      (presentable.details d member).fits_with 60
        (fun text own => room_fits text ((presentable.details d member).check text own) 3 (by decide)
          ((room.details d member).check text own))
        fun text own => room_fits text ((presentable.details d member).raw text own) 3 (by decide)
          ((room.details d member).raw text own)
    have buffsFit : ∀ b ∈ plan.buffs, BuffFits 59 b := fun b member =>
      expressible_buff_fits b (buffs b member) 59
        (fun text own => room_fits text ((buffs b member).check text own) 3 (by decide) ((room.buffs b member).check text own))
        fun entry among text own => room_fits text (expressible_datum b (buffs b member) entry among text own) 4 (by decide)
          ((room.buffs b member).data entry among text own)
    rcases plan_shows_parameters stack kit plan presentable scalar 59 (by decide) rowsFit buffsFit tag text rendered with
      shown | ⟨⟨kind, pos⟩, failed, ⟨twice, key, rfl⟩ | ⟨-, deep⟩⟩
    · exact .inl shown
    · exact .inr (.inl ⟨twice, key, pos, failed⟩)
    · exact absurd deep (by decide)
  · have rowsFit : ∀ d ∈ plan.details, DetailFits 64 { d with params := none } := fun d member =>
      (presentable.details d member).fits_with 64
        (fun text own => (accepted_fits text ((presentable.details d member).check text own)).mono (by decide))
        fun text own => (accepted_fits text ((presentable.details d member).raw text own)).mono (by decide)
    have buffsFit : ∀ b ∈ plan.buffs, BuffFits 63 b := fun b member =>
      expressible_buff_fits b (buffs b member) 63
        (fun text own => (accepted_fits text ((buffs b member).check text own)).mono (by decide))
        fun entry among text own => accepted_fits text (expressible_datum b (buffs b member) entry among text own)
    rcases plan_shows_parameters stack kit plan presentable scalar 63 (by decide) rowsFit buffsFit tag text rendered with
      shown | ⟨⟨kind, pos⟩, failed, ⟨twice, key, rfl⟩ | ⟨rfl, -⟩⟩
    · exact .inl shown
    · exact .inr (.inl ⟨twice, key, pos, failed⟩)
    · exact .inr (.inr ⟨room, pos, failed⟩)

/-- A printed record comes back under its keys as they are written, in their order, or is refused for a key that stands
twice, unless it is nested too deeply. A bare key that ends in a newline is written without it, and every other key is
kept, so two keys are written alike only if one of them is bare and is the other with a newline at its end. The same
holds of the parameters of each row of a validated plan. -/
theorem keys_come_back_as_written (n : Nat) (entries fields : List (String × Expr))
    (each : List.Forall₂ (ComesBack n) entries fields) (indent : Int) :
    (∃ text, (Expr.record entries).text indent = .ok text ∧
      ((entries.map fun entry => writtenKey entry.1).Nodup ∧ parseExpression text = .ok (.record fields) ∨
        ¬(entries.map fun entry => writtenKey entry.1).Nodup ∧
          (∃ key pos, parseExpression text = .error ⟨.duplicateRecordKey key, pos⟩) ∨
        63 ≤ n ∧ FailsDeep (parseExpression text))) ∧
    (∀ key, writtenKey key = key ↔ ¬(isBareKey key = true ∧ ¬IsSafeKey key)) ∧
    (∀ key other, key ≠ other → (writtenKey key = writtenKey other ↔
      isBareKey other = true ∧ other = key ++ "\n" ∨ isBareKey key = true ∧ key = other ++ "\n")) ∧
    ∀ (stack : Stack) (kit : Kit) (raw : Json) (policy : EvictionPolicy) (plan : Plan) (tag text : String),
      validate kit raw policy = .ok plan → render kit plan tag = .ok text →
      (∀ d ∈ plan.details, WrittenApart d) ∧
          (∃ loaded, load stack text = .ok loaded ∧ List.Forall₂ HasParameters plan.details loaded.details) ∨
        ¬(∀ d ∈ plan.details, WrittenApart d) ∧
          (∃ key pos, load stack text = .error (.static (.badSyntax ⟨.duplicateRecordKey key, pos⟩))) ∨
        ¬PlanRoom plan ∧ TooDeep stack text :=
  ⟨record_text_outcome n entries fields each indent, written_key_iff, written_alike_iff,
    fun stack kit raw policy plan tag text made rendered =>
      validated_parameters stack kit raw policy plan made tag text rendered⟩

def skillKit : Kit where
  game := .gs
  name := "X"
  tables := [("e", ["Skill DMG"])]

def rawWith (params : Fields Json) : Json := .obj [
  ("mainAttr", .str "atk"),
  ("details", .arr [.obj [("title", .str "Hit"), ("talent", .str "e"), ("table", .str "Skill DMG"), ("params", .obj params)]])]

def Textless (plan : Plan) : Prop := (∀ d ∈ plan.details, d.check = none ∧ d.raw = none) ∧ plan.buffs.isEmpty = true

instance (plan : Plan) : Decidable (Textless plan) := inferInstanceAs (Decidable (_ ∧ _))

instance (d : Detail) : Decidable (WrittenApart d) := inferInstanceAs (Decidable (List.Nodup _))

theorem Textless.room {plan : Plan} (textless : Textless plan) : PlanRoom plan where
  details d member := by
    obtain ⟨check, raw⟩ := textless.1 d member
    exact ⟨by simp [check, given], by simp [raw, given]⟩
  buffs b member := by
    rw [List.isEmpty_iff.mp textless.2] at member
    cases member

/-- Keys with blanks are quoted and come back as they are. -/
theorem quoted_keys_come_back :
    List.Forall₂ (ComesBack 1) [("a", .bool true), ("b c\n", .null)] [("a", .bool true), ("b c\n", .null)] ∧
    (∃ text, (Expr.record [("a", .bool true), ("b c\n", .null)]).text 0 = .ok text ∧
      parseExpression text = .ok (.record [("a", .bool true), ("b c\n", .null)])) ∧
    ∃ plan text loaded,
      validate skillKit (rawWith [("a", .int 1), ("b c\n", .bool true)]) .default = .ok plan ∧
      render skillKit plan "calcplan" = .ok text ∧ load (.levels 200) text = .ok loaded ∧
      List.Forall₂ HasParameters plan.details loaded.details := by
  have keys : writtenKey "a" = "a" ∧ writtenKey "b c\n" = "b c\n" := by decide +kernel
  have each : List.Forall₂ (ComesBack 1) [("a", .bool true), ("b c\n", .null)] [("a", .bool true), ("b c\n", .null)] :=
    .cons ⟨keys.1.symm, printable_shown (.bool true) trivial⟩
      (.cons ⟨keys.2.symm, printable_shown .null trivial⟩ .nil)
  obtain ⟨⟨text, printed, read⟩, -, -, loads⟩ := keys_come_back_as_written 1 _ _ each 0
  refine ⟨each, ⟨text, printed, ?_⟩, ?_⟩
  · rcases read with ⟨-, read⟩ | ⟨twice, -⟩ | ⟨deep, -⟩
    · exact read
    · exact absurd (by decide +kernel) twice
    · exact absurd deep (by decide)
  · have made : (validate skillKit (rawWith [("a", .int 1), ("b c\n", .bool true)]) .default).toOption.map (fun plan =>
        (((render skillKit plan "calcplan").toOption.map fun _ => ()),
          decide (Textless plan ∧ ∀ d ∈ plan.details, WrittenApart d))) = some (some (), true) := by decide +kernel
    obtain ⟨plan, valid, made⟩ := evaluated_ok _ _ _ made
    obtain ⟨rendered, checked⟩ := Prod.mk.inj made
    obtain ⟨text, rendered, -⟩ := evaluated_ok _ _ _ rendered
    obtain ⟨textless, apart⟩ := of_decide_eq_true checked
    refine ⟨plan, text, ?_⟩
    rcases loads (.levels 200) skillKit _ _ plan _ text valid rendered with
      ⟨-, loaded, loads, shown⟩ | ⟨twice, -⟩ | ⟨tight, -⟩
    · exact ⟨loaded, valid, rendered, loads, shown⟩
    · exact absurd apart twice
    · exact absurd textless.room tight

/-- A bare key and the same with a newline at its end are written alike, so that a record of both is not read back, and
the script of a valid plan with both is refused. -/
theorem newline_repeats_key :
    (∃ text key pos, (Expr.record [("a", .bool true), ("a\n", .null)]).text 0 = .ok text ∧
      parseExpression text = .error ⟨.duplicateRecordKey key, pos⟩) ∧
    ∃ plan text key pos, validate skillKit (rawWith [("a", .int 1), ("a\n", .int 2)]) .default = .ok plan ∧
      render skillKit plan "calcplan" = .ok text ∧
      load (.levels 200) text = .error (.static (.badSyntax ⟨.duplicateRecordKey key, pos⟩)) := by
  constructor
  · have keys : writtenKey "a" = "a" ∧ writtenKey "a\n" = "a" := by decide +kernel
    have each : List.Forall₂ (ComesBack 1) [("a", .bool true), ("a\n", .null)] [("a", .bool true), ("a", .null)] :=
      .cons ⟨keys.1.symm, printable_shown (.bool true) trivial⟩
        (.cons ⟨keys.2.symm, printable_shown .null trivial⟩ .nil)
    obtain ⟨text, printed, read⟩ := record_text_outcome 1 _ _ each 0
    rcases read with ⟨distinct, -⟩ | ⟨-, key, pos, failed⟩ | ⟨deep, -⟩
    · exact absurd distinct (by decide +kernel)
    · exact ⟨text, key, pos, printed, failed⟩
    · exact absurd deep (by decide)
  · have made : (validate skillKit (rawWith [("a", .int 1), ("a\n", .int 2)]) .default).toOption.map (fun plan =>
        (((render skillKit plan "calcplan").toOption.map fun _ => ()),
          decide (Textless plan ∧ ¬∀ d ∈ plan.details, WrittenApart d))) = some (some (), true) := by decide +kernel
    obtain ⟨plan, valid, made⟩ := evaluated_ok _ _ _ made
    obtain ⟨rendered, checked⟩ := Prod.mk.inj made
    obtain ⟨text, rendered, -⟩ := evaluated_ok _ _ _ rendered
    obtain ⟨textless, twice⟩ := of_decide_eq_true checked
    refine ⟨plan, text, ?_⟩
    rcases validated_parameters (.levels 200) skillKit _ _ plan valid _ text rendered with
      ⟨apart, -⟩ | ⟨-, key, pos, failed⟩ | ⟨tight, -⟩
    · exact absurd apart twice
    · exact ⟨key, pos, valid, rendered, failed⟩
    · exact absurd textless.room tight

end DamagePlan.Render
