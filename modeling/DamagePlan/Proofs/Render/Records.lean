import DamagePlan.Proofs.Render.Formula
import DamagePlan.Proofs.Script.Exported
import DamagePlan.Render.Script

/-!
Rows and buffs as records of a script: their records can be written, and loading gives back what a row or a buff
says.
-/
set_option autoImplicit false

namespace DamagePlan

namespace Fields

variable {α : Type}

theorem present_cons (key : String) (value : Option α) (rest : List (String × Option α)) :
    present ((key, value) :: rest) = (value.map (key, ·)).toList ++ present rest := by
  cases value <;> rfl

theorem present_keys (fields : List (String × Option α)) :
    ((present fields).map (·.1)).Sublist (fields.map (·.1)) := by
  induction fields with
  | nil => exact .slnil
  | cons field rest ih =>
    obtain ⟨key, value⟩ := field
    cases value with
    | none => exact ih.cons key
    | some a => exact ih.cons_cons key

theorem lookup_present (fields : List (String × Option α)) (distinct : (fields.map (·.1)).Nodup) (key : String) :
    (present fields).lookup key = (fields.lookup key).join := by
  induction fields with
  | nil => rfl
  | cons field rest ih =>
    obtain ⟨first, value⟩ := field
    obtain ⟨absent, distinctRest⟩ := List.nodup_cons.mp distinct
    have following := ih distinctRest
    rw [present_cons, List.lookup_cons]
    by_cases same : key = first
    · subst same
      cases value with
      | some a => simp
      | none =>
        have missing : rest.lookup key = none := by
          rw [List.lookup_eq_none_iff]
          intro other member
          refine bne_iff_ne.mpr ?_
          rintro rfl
          exact absent (List.mem_map.mpr ⟨other, member, rfl⟩)
        simpa [missing] using following
    · have other : (key == first) = false := beq_eq_false_iff_ne.mpr same
      cases value <;> simp [other, following, List.lookup_cons]

end Fields

namespace Render

open Script Decimal
open Legible (IsSafeKey)

theorem present_entries (n k : Nat) (fields : List (String × Option Expr)) (safe : ∀ key ∈ fields.map (·.1), IsSafeKey key)
    (each : ∀ value ∈ fields.map (·.2), ∀ e ∈ value, Delivers n k e) :
    ∀ entry ∈ Fields.present fields, IsSafeKey entry.1 ∧ Delivers n k entry.2 := by
  intro entry member
  simp only [Fields.present, List.mem_filterMap, Option.map_eq_some_iff] at member
  obtain ⟨⟨key, value⟩, among, e, there, rfl⟩ := member
  exact ⟨safe key (List.mem_map.mpr ⟨_, among, rfl⟩), each value (List.mem_map.mpr ⟨_, among, rfl⟩) e there⟩

theorem present_delivers (n k : Nat) (fields : List (String × Option Expr)) (distinct : (fields.map (·.1)).Nodup)
    (safe : ∀ key ∈ fields.map (·.1), IsSafeKey key) (each : ∀ value ∈ fields.map (·.2), ∀ e ∈ value, Delivers n k e) :
    Delivers (n + 1) (k + 1) (.record (Fields.present fields)) :=
  .record _ ((Fields.present_keys fields).nodup distinct) (present_entries n k fields safe each)

theorem optional_delivers {α : Type} {n k : Nat} (make : α → Expr) (a? : Option α)
    (each : ∀ a ∈ a?, Delivers n k (make a)) : ∀ e ∈ a?.map make, Delivers n k e := by
  intro e member
  obtain ⟨a, there, rfl⟩ := Option.map_eq_some_iff.mp member
  exact each a there

theorem field_present (scope : Scope) (fields : List (String × Option Expr)) (distinct : (fields.map (·.1)).Nodup)
    (key : String) : Value.field (exportedEntries scope (Fields.present fields)) key =
      (((fields.lookup key).join).map (exported scope)).getD .null := by
  rw [Value.field, lookup_exported, Fields.lookup_present fields distinct]

def IsNumber (x : Float) (v : Value) : Prop := ∃ y, v = .number ⟨y, none⟩ ∧ (y == x) = true

theorem unsigned_zero_equal (x : Float) (finite : isFinite x = true) : (unsignedZero x == x) = true := by
  unfold isFinite at finite
  cases decoded : Binary.ofFloat x with
  | nan => rw [decoded] at finite; cases finite
  | infinite negative => rw [decoded] at finite; cases finite
  | finite negative m e =>
    unfold unsignedZero
    split
    · rename_i e' zero
      exact zeros_equal (-x) x false true e' e' (of_float_neg x true 0 e' zero) zero
    · exact finite_equals_itself x negative m e decoded

theorem exported_number (scope : Scope) (x : Float) (finite : isFinite x = true) :
    IsNumber x (exported scope (.number x)) := ⟨unsignedZero x, rfl, unsigned_zero_equal x finite⟩

theorem natural_finite (k : Nat) (small : k ≤ 60) : isFinite (Float.ofNat k) = true := by
  obtain ⟨m, e, decoded⟩ := Formula.natural_unsigned k (by omega)
  rw [isFinite, decoded]

def ScalarFits : Json → Prop
  | .int n => ∃ x, ofInteger n = .ok x
  | .float x => isFinite x = true
  | _ => True

def IsScalar : Json → Value → Prop
  | .bool b, v => v = .bool b
  | .str s, v => v = .string s
  | .int n, v => ∃ x, ofInteger n = .ok x ∧ IsNumber x v
  | .float x, v => IsNumber x v
  | _, _ => False

theorem scalar_delivers (j : Json) (plain : isPlainParameter j = true) (fits : ScalarFits j) :
    ∃ e, Expr.ofJson j = .ok e ∧ Delivers 1 2 e ∧ ∀ scope, IsScalar j (exported scope e) := by
  cases j with
  | bool b => exact ⟨.bool b, rfl, .bool b, fun scope => rfl⟩
  | str s => exact ⟨.string s, rfl, .string s, fun scope => rfl⟩
  | float x => exact ⟨.number x, rfl, .number x fits, fun scope => exported_number scope x fits⟩
  | int n =>
    obtain ⟨x, converted⟩ := fits
    have finite := of_integer_finite n x converted
    refine ⟨.number x, ?_, .number x finite, fun scope => ⟨x, converted, exported_number scope x finite⟩⟩
    rw [Expr.ofJson, converted]
    rfl
  | null => cases plain
  | arr items => cases plain
  | obj fields => cases plain

def FieldsHold {α : Type} (holds : α → Value → Prop) (fields : Fields α) (values : List (String × Value)) : Prop :=
  List.Forall₂ (fun field value => field.1 = value.1 ∧ holds field.2 value.2) fields values

theorem fields_deliver (fields : Fields Json)
    (each : ∀ field ∈ fields, isPlainParameter field.2 = true ∧ ScalarFits field.2) :
    ∃ es, Expr.ofJsonFields fields = .ok es ∧ es.map (·.1) = fields.map (·.1) ∧
      (∀ entry ∈ es, Delivers 1 2 entry.2) ∧ ∀ scope, FieldsHold IsScalar fields (exportedEntries scope es) := by
  induction fields with
  | nil => exact ⟨[], rfl, rfl, nofun, fun _ => .nil⟩
  | cons field rest ih =>
    obtain ⟨key, j⟩ := field
    obtain ⟨plain, fits⟩ := each (key, j) List.mem_cons_self
    obtain ⟨e, made, delivers, holds⟩ := scalar_delivers j plain fits
    obtain ⟨es, madeRest, keys, deliverRest, holdRest⟩ := ih fun other member => each other (List.mem_cons_of_mem _ member)
    refine ⟨(key, e) :: es, ?_, by simp [keys], ?_, fun scope => .cons ⟨rfl, holds scope⟩ (holdRest scope)⟩
    · simp only [Expr.ofJsonFields, made, madeRest]
      rfl
    · intro entry member
      rcases List.mem_cons.mp member with rfl | later
      · exact delivers
      · exact deliverRest entry later

end Render

end DamagePlan
