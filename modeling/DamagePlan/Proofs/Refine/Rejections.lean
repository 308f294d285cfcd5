import DamagePlan.Proofs.Refine.Titles
import DamagePlan.Proofs.Refine.Validated

/-!
How a raw plan is refused: it is rejected with its faults, unless it holds an integer beyond the range of numbers, or a
text that enrichment or filtering cannot read.
-/
set_option autoImplicit false

namespace DamagePlan

open Decimal (IntegerTooLarge)

theorem Decimal.of_integer_fails (n : Int) :
    Fails (fun e => e.value = n ∧ Decimal.ofInteger e.value = .error e) (Decimal.ofInteger n) := by
  intro e failed
  have same : e = ⟨n⟩ := by
    unfold Decimal.ofInteger at failed
    split at failed
    · cases failed
    · exact (Except.error.inj failed).symm
  subst same
  exact ⟨rfl, failed⟩

namespace RawPlan

open RawRecord

def Holds (fields : Fields Json) (e : IntegerTooLarge) : Prop :=
  Decimal.ofInteger e.value = .error e ∧ ∃ key, (key, .int e.value) ∈ fields

/-- Such an integer among the parameters of a row or in the data of a buff. -/
inductive Oversized (e : IntegerTooLarge) : Json → Prop
  | parameter {plan row params : Fields Json} {rows : List Json} (listed : ("details", .arr rows) ∈ plan)
      (among : .obj row ∈ rows) (given : ("params", .obj params) ∈ row) (holds : Holds params e) : Oversized e (.obj plan)
  | value {plan buff data : Fields Json} {buffs : List Json} (listed : ("buffs", .arr buffs) ∈ plan)
      (among : .obj buff ∈ buffs) (given : ("data", .obj data) ∈ buff) (holds : Holds data e) : Oversized e (.obj plan)

theorem stripped_items (schema : Schema) (record : Fields Json) (key : String) (j : Json)
    (known : schema.find? key = some .list) (member : j ∈ itemsOf (strip schema record) key) :
    ∃ items, (key, .arr items) ∈ record ∧ j ∈ items := by
  unfold itemsOf at member
  split at member
  · rename_i items found
    obtain ⟨original, among, fits⟩ := stripped_fits schema record key _ _ known found
    cases original <;> cases fits
    exact ⟨items, among, member⟩
  · cases member

theorem stripped_entries (schema : Schema) (record : Fields Json) (key : String) (accepts : Json → Bool)
    (fields : Fields Json) (known : schema.find? key = some (.entries accepts))
    (found : entriesOf? (strip schema record) key = some fields) :
    ∃ original, (key, .obj original) ∈ record ∧ ∀ entry ∈ fields, entry ∈ original := by
  unfold entriesOf? at found
  split at found
  · rename_i found'
    cases found
    obtain ⟨original, among, fits⟩ := stripped_fits schema record key _ _ known found'
    cases original <;> cases fits
    rename_i all
    exact ⟨all, among, fun entry member => (List.mem_filter.mp member).1⟩
  · cases found

theorem keeps_parameter_fails (j : Json) :
    Fails (fun e => j = .int e.value ∧ Decimal.ofInteger e.value = .error e) (keepsParameter j) := by
  cases j with
  | int n =>
    refine fails_map _ _ ((Decimal.of_integer_fails n).mono ?_)
    rintro e ⟨rfl, large⟩
    exact ⟨rfl, large⟩
  | _ => exact fails_ok _

def RowFault (row : Fields Json) (e : IntegerTooLarge) : Prop := ∃ params, ("params", .obj params) ∈ row ∧ Holds params e

section Rows

variable (kit : Kit) (row : Fields Json)

theorem parameters_fail : Fails (RowFault row) (parametersOf (strip detailSchema row)) := by
  unfold parametersOf
  split
  · exact fails_ok _
  · rename_i fields found
    obtain ⟨params, given, among⟩ := stripped_entries detailSchema row "params" isScalar fields rfl found
    refine fails_bind _ _ (fails_filter_m _ _ fun entry member => ?_) fun kept _ => ?_
    · refine (keeps_parameter_fails entry.2).mono ?_
      rintro e ⟨same, large⟩
      exact ⟨params, given, large, entry.1, by rw [← same]; exact among entry member⟩
    · split <;> exact fails_ok _

theorem read_table_row_fails (kind : DetailKind) (reaction : Option String) (faults : List PlanFault) :
    Fails (RowFault row) (readTableRow kit (strip detailSchema row) kind reaction faults) := by
  unfold readTableRow
  split
  · split
    · exact fails_bind _ _ (fails_bind _ _ (parameters_fail row) fun _ _ => fails_ok _) fun _ _ => fails_ok _
    · exact fails_ok _
  · exact fails_ok _

theorem read_record_fails (i : Nat) : Fails (RowFault row) (readRecord kit i (strip detailSchema row)) := by
  unfold readRecord
  dsimp only
  split
  · exact fails_ok _
  · split
    · exact read_table_row_fails kit row _ _ _
    · exact fails_bind _ _ (fails_bind _ _ (parameters_fail row) fun _ _ => fails_ok _) fun _ _ => fails_ok _
  · exact read_table_row_fails kit row _ _ _

end Rows

theorem read_details_fails (kit : Kit) (items : List Json) (i : Nat) :
    Fails (fun e => ∃ row, .obj row ∈ items ∧ RowFault row e) (readDetails kit i items) := by
  induction items generalizing i with
  | nil => exact fails_ok _
  | cons j rest ih =>
    have first : Fails (fun e => ∃ row, .obj row ∈ j :: rest ∧ RowFault row e) (readDetail kit i j) := by
      unfold readDetail
      split
      · rename_i row
        exact (read_record_fails kit row i).mono fun e fault => ⟨row, List.mem_cons_self, fault⟩
      · exact fails_ok _
    refine fails_bind _ _ first fun _ _ => fails_bind _ _ ((ih (i + 1)).mono ?_) fun _ _ => fails_ok _
    rintro e ⟨row, among, fault⟩
    exact ⟨row, List.mem_cons_of_mem _ among, fault⟩

theorem read_value_fails (j : Json) :
    Fails (fun e => j = .int e.value ∧ Decimal.ofInteger e.value = .error e) (readBuffValue j) := by
  cases j with
  | int n =>
    refine fails_map _ _ ((Decimal.of_integer_fails n).mono ?_)
    rintro e ⟨rfl, large⟩
    exact ⟨rfl, large⟩
  | _ => exact fails_ok _

theorem read_data_fails (game : Game) (fields : Fields Json) (data : Fields BuffValue) :
    Fails (Holds fields) (readData game data fields) := by
  induction fields generalizing data with
  | nil => exact fails_ok _
  | cons first rest ih =>
    obtain ⟨key, j⟩ := first
    have later : ∀ data, Fails (Holds ((key, j) :: rest)) (readData game data rest) := fun data =>
      (ih data).mono fun e holds => ⟨holds.1, holds.2.imp fun _ => List.mem_cons_of_mem _⟩
    unfold readData
    dsimp only
    split
    · exact later data
    · refine fails_bind _ _ ((read_value_fails j).mono ?_) fun value _ => ?_
      · rintro e ⟨rfl, large⟩
        exact ⟨large, key, List.mem_cons_self⟩
      · split <;> exact later _

theorem read_buff_fails (game : Game) (j : Json) :
    Fails (fun e => ∃ buff data, j = .obj buff ∧ ("data", .obj data) ∈ buff ∧ Holds data e) (readBuff game j) := by
  unfold readBuff
  split
  · rename_i buff
    dsimp only
    split
    · exact fails_ok _
    · refine fails_bind _ _ ?_ fun data _ => by split <;> exact fails_ok _
      cases found : entriesOf? (strip buffSchema buff) "data" with
      | none => exact fails_ok _
      | some fields =>
        obtain ⟨data, given, among⟩ := stripped_entries buffSchema buff "data" isNumberOrText fields rfl found
        refine (read_data_fails game fields []).mono fun e holds => ⟨buff, data, rfl, given, holds.1, ?_⟩
        exact holds.2.imp fun key member => among _ member
  · exact fails_ok _

def Refused (raw : Json) (e : PlanError) : Prop := (∃ r, e = .rejected r) ∨ ∃ f, e = .integerTooLarge f ∧ Oversized f raw

theorem read_plan_fails (kit : Kit) (raw : Json) : Fails (Refused raw) (read kit raw) := by
  unfold read
  split
  · rename_i plan
    refine fails_bind _ _ (fails_map_error _ _ _ (read_details_fails kit _ 0) ?_) fun readings _ => ?_
    · rintro e ⟨row, member, params, given, holds⟩
      obtain ⟨rows, listed, among⟩ := stripped_items planSchema plan "details" _ rfl member
      exact .inr ⟨e, rfl, .parameter listed among given holds⟩
    dsimp only
    split
    · exact fails_error _ (.inl ⟨_, rfl⟩)
    · split
      · exact fails_error _ (.inl ⟨_, rfl⟩)
      · refine fails_bind _ _ (fails_map_error _ _ _ (P := fun e => Oversized e (.obj plan))
          (fails_map_m _ _ fun j member => ?_) fun e large => .inr ⟨e, rfl, large⟩) fun _ _ => fails_ok _
        refine (read_buff_fails kit.game j).mono ?_
        rintro e ⟨buff, data, rfl, given, holds⟩
        obtain ⟨buffs, listed, among⟩ := stripped_items planSchema plan "buffs" _ rfl member
        exact .value listed among given holds
  · exact fails_error _ (.inl ⟨_, rfl⟩)

end RawPlan

namespace Refinement

open RawPlan

/-- A text that may refer to a character by a number with too many digits: one of the kit, the title of a row, or the
title of a buff together with all hints. Digits count wherever they stand, and two more may come into a title. -/
inductive Crowded (kit : Kit) (plan : Plan) : Prop
  | ofKit (text : String) (among : text ∈ Scaling.texts kit) (long : ¬Text.Brief 2 text.toList)
  | row (d : Detail) (among : d ∈ plan.details) (long : ¬Text.Brief 2 d.title.toList)
  | buff (b : Buff) (among : b ∈ plan.buffs) (long : ¬Text.Brief 0 (b.title.toList ++ kit.hints.flatMap String.toList))

theorem enrichment_crowded (kit : Kit) (samples : Scaling.SamplesInRange kit) (plan : Plan) (policy : EvictionPolicy) :
    Fails (fun f => Scaling.IsTooLong f ∧ Crowded kit plan)
      (Enrichment.enrich kit (plan.details.take Plan.maxDetails) policy) := by
  intro f failed
  refine ⟨Enrichment.enrich_too_long kit samples _ policy _ f failed, ?_⟩
  by_contra roomy
  have brief : Scaling.BriefTexts kit := fun text among => by_contra fun long => roomy (.ofKit text among long)
  obtain ⟨enriched, made, -⟩ := Enrichment.enrichment_total (Enrichment.in_range_legible kit brief samples)
    (plan.details.take Plan.maxDetails) (fun d member => Enrichment.brief_readable (by_contra fun long =>
      roomy (.row d (List.mem_of_mem_take member) long))) policy Plan.maxDetails
  rw [made] at failed
  cases failed

theorem filter_crowded (kit : Kit) (plan : Plan) :
    Fails (fun _ => Crowded kit plan) (BuffFilter.filter kit (plan.buffs.take Plan.maxBuffs)) := by
  intro e failed
  by_contra roomy
  have hints : ∀ hint ∈ kit.hints, Text.Brief 0 hint.toList := fun hint member => by
    have among : hint ∈ Scaling.texts kit := List.mem_append_right _ member
    exact Text.Brief.mono (by_contra fun long => roomy (.ofKit hint among long)) (by decide)
  obtain ⟨filtered, made⟩ := BuffFilter.filter_total kit (plan.buffs.take Plan.maxBuffs) hints fun b member =>
    by_contra fun long => roomy (.buff b (List.mem_of_mem_take member) long)
  rw [made] at failed
  cases failed

theorem refine_fails (kit : Kit) (samples : Scaling.SamplesInRange kit) (plan : Plan) (policy : EvictionPolicy) :
    Fails (fun e => (∃ r, e = .rejected r) ∨ (∃ f, e = .unreadable f) ∧ Crowded kit plan) (refine kit plan policy) := by
  unfold refine
  split
  · exact fails_error _ (.inl ⟨_, rfl⟩)
  · refine fails_bind _ _ (fails_map_error _ _ _ (enrichment_crowded kit samples plan policy) ?_) fun enriched _ =>
      fails_bind _ _ (fails_map_error _ _ _ (filter_crowded kit plan) ?_) fun _ _ => fails_ok _
    · rintro _ ⟨⟨f, rfl⟩, crowded⟩
      exact .inr ⟨⟨f, rfl⟩, crowded⟩
    · exact fun f crowded => .inr ⟨⟨f, rfl⟩, crowded⟩

def parameterRaw (n : Int) : Json := .obj [
  ("mainAttr", .str "atk"),
  ("details", .arr [
    .obj [("talent", .str "e"), ("table", .str "Skill DMG"), ("params", .obj [("q", .int n)])]])]

def isOversized : Except PlanError Plan → Bool
  | .error (.integerTooLarge _) => true
  | _ => false

end Refinement

end DamagePlan
