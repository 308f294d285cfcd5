import Mathlib.Data.List.Forall2
import DamagePlan.Proofs.Decimal.Rounding
import DamagePlan.Refine.RawRecord

/-!
Schema documents: what they demand of the fields of a raw record and of the entries of its objects. The shapes of fields
say the same, and a stripped record is what the demands leave of it.
-/
set_option autoImplicit false

namespace DamagePlan

namespace Decimal.Binary

def order? : Binary → Int → Option Ordering
  | .nan, _ => none
  | .infinite negative, _ => some (if negative then .lt else .gt)
  | .finite negative mantissa exponent, n =>
    let (num, den) := scaleBinary mantissa 1 exponent
    some (compare (if negative then -(num : Int) else num) (n * den))

theorem order_integral (x : Float) (n m : Int) (whole : integral? x = some n) : (ofFloat x).order? m = some (compare n m) := by
  unfold integral? at whole
  cases decoded : ofFloat x with
  | nan => rw [decoded] at whole; cases whole
  | infinite negative => rw [decoded] at whole; cases whole
  | finite negative mantissa exponent =>
    rw [decoded] at whole
    have positive := (scale_binary_ratio mantissa 1 exponent Nat.one_pos).1
    dsimp only [order?] at whole ⊢
    generalize scaleBinary mantissa 1 exponent = fraction at whole positive ⊢
    obtain ⟨num, den⟩ := fraction
    dsimp only at whole positive ⊢
    split at whole
    · rename_i divides
      have product : ((num / den : Nat) : Int) * den = num := by exact_mod_cast Nat.div_mul_cancel (Nat.dvd_of_mod_eq_zero divides)
      have scaled : (if negative then -(num : Int) else num) = n * den := by
        cases whole
        cases negative <;> simp only [if_true, if_false, Bool.false_eq_true, neg_mul, product]
      have grows : 0 < (den : Int) := by exact_mod_cast positive
      rw [scaled, Option.some.injEq]
      rcases lt_trichotomy n m with less | rfl | more
      · rw [compare_lt_iff_lt.mpr less, compare_lt_iff_lt.mpr (Int.mul_lt_mul_of_pos_right less grows)]
      · rw [compare_eq_iff_eq.mpr rfl, compare_eq_iff_eq.mpr rfl]
      · rw [compare_gt_iff_gt.mpr more, compare_gt_iff_gt.mpr (Int.mul_lt_mul_of_pos_right more grows)]
    · cases whole

end Decimal.Binary

namespace RawRecord

inductive TypeName where
  | object | array | string | number | integer | boolean

def TypeName.admits : TypeName → Json → Bool
  | .object, .obj _ => true
  | .array, .arr _ => true
  | .string, .str _ => true
  | .number, .int _ => true
  | .number, .float _ => true
  | .integer, .int _ => true
  | .integer, .float x => (Decimal.integral? x).isSome
  | .boolean, .bool _ => true
  | _, _ => false

def order? : Json → Int → Option Ordering
  | .int m, n => some (compare m n)
  | .float x, n => (Decimal.Binary.ofFloat x).order? n
  | _, _ => none

inductive Demand where
  | types (names : List TypeName)
  | enum (words : List String)
  | pattern (accepts : String → Bool)
  | minLength (least : Nat)
  | minimum (least : Int)
  | maximum (most : Int)

def Demand.isMet : Demand → Json → Bool
  | .types names, j => names.any (·.admits j)
  | .enum words, .str s => words.contains s
  | .enum _, _ => false
  | .pattern accepts, .str s => accepts s
  | .minLength least, .str s => least ≤ s.length
  | .minimum least, j => order? j least != some .lt
  | .maximum most, j => order? j most != some .gt
  | _, _ => true

def entriesIn : Json → Fields Json
  | .obj fields => fields
  | _ => []

structure Property where
  demands : List Demand
  entries : Option (List TypeName) := none

namespace Property

def admits (p : Property) (j : Json) : Bool := p.demands.all (·.isMet j)

def admitsEntry (p : Property) (entry : String × Json) : Bool := p.entries.all (·.any (·.admits entry.2))

def withoutEntries (p : Property) : Json → Json
  | .obj fields => .obj (fields.filter p.admitsEntry)
  | j => j

def part? (p : Property) (j : Json) : Option Json := if p.admits j then some (p.withoutEntries j) else none

def isMet (p : Property) (j : Json) : Bool := p.admits j && (entriesIn j).all p.admitsEntry

end Property

structure Document where
  properties : List (String × Property)
  required : List String := []

def Document.keep? (document : Document) (field : String × Json) : Option (String × Json) :=
  match document.properties.lookup field.1 with
  | some p => (p.part? field.2).map (field.1, ·)
  | none => some field

def IsKeyText (s : String) : Prop := ∃ keys : List (List Char), keys ≠ [] ∧
  (∀ key ∈ keys, key ≠ [] ∧ ∀ c ∈ key, isKeyChar c = true) ∧
    (s.toList = [','].intercalate keys ∨ s.toList = [','].intercalate keys ++ ['\n'])

theorem joined_chars (keys : List (List Char)) (c : Char) (member : c ∈ [','].intercalate keys) :
    c = ',' ∨ ∃ key ∈ keys, c ∈ key := by
  induction keys with
  | nil => simp at member
  | cons key keys ih =>
    cases keys with
    | nil => exact .inr ⟨key, List.mem_cons_self, by simpa using member⟩
    | cons next keys =>
      rw [List.intercalate_cons_cons, List.mem_append, List.mem_append] at member
      rcases member with (here | comma) | later
      · exact .inr ⟨key, List.mem_cons_self, here⟩
      · exact .inl (List.mem_singleton.mp comma)
      · rcases ih later with same | ⟨other, among, inside⟩
        · exact .inl same
        · exact .inr ⟨other, List.mem_cons_of_mem _ among, inside⟩

theorem is_key_list_iff (s : String) : isKeyList s = true ↔ IsKeyText s := by
  have split_at (cs : List Char) : cs.splitOnP (· == ',') = cs.splitOn ',' := rfl
  simp only [isKeyList, split_at, List.all_eq_true, Bool.and_eq_true, Bool.not_eq_true', List.isEmpty_eq_false_iff]
  constructor
  · intro each
    refine ⟨(Text.withoutFinalNewline s.toList).splitOn ',', List.splitOnP_ne_nil _ _, each, ?_⟩
    rw [List.intercalate_splitOn]
    unfold Text.withoutFinalNewline
    split
    · rename_i ends
      exact .inr (List.dropLast_append_getLast? _ ends).symm
    · exact .inl rfl
  · rintro ⟨keys, some_, each, text⟩
    -- neither a key nor a comma is a newline, so the newline that is taken off is the one that follows
    have noNewline : '\n' ∉ [','].intercalate keys := by
      intro member
      rcases joined_chars keys '\n' member with same | ⟨key, among, inside⟩
      · exact absurd same (by decide)
      · exact absurd ((each key among).2 _ inside) (by decide)
    have bare : Text.withoutFinalNewline s.toList = [','].intercalate keys := by
      unfold Text.withoutFinalNewline
      rcases text with text | text
      · rw [text, if_neg fun ends => noNewline (List.mem_of_getLast? ends)]
      · rw [text, if_pos List.getLast?_concat, List.dropLast_concat]
    have noComma : ∀ key ∈ keys, ',' ∉ key := fun key among inside => absurd ((each key among).2 _ inside) (by decide)
    rwa [bare, List.splitOn_intercalate ',' noComma some_]

instance : DecidablePred IsKeyText := fun s => decidable_of_iff (isKeyList s = true) (is_key_list_iff s)

inductive RecordKind where
  | plan | detail | buff

namespace RecordKind

def shapes : RecordKind → Schema
  | .plan => planSchema
  | .detail => detailSchema
  | .buff => buffSchema

def document : RecordKind → Document
  | .plan => { properties := [
      ("mainAttr", ⟨[.types [.string]], none⟩),
      ("defDmgKey", ⟨[.types [.string]], none⟩),
      ("details", ⟨[.types [.array]], none⟩),
      ("buffs", ⟨[.types [.array]], none⟩)] }
  | .detail => { properties := [
      ("title", ⟨[.types [.string], .minLength 1], none⟩),
      ("kind", ⟨[.types [.string]], none⟩),
      ("talent", ⟨[.types [.string]], none⟩),
      ("table", ⟨[.types [.string], .minLength 1], none⟩),
      ("key", ⟨[.types [.string], .pattern fun s => decide (IsKeyText s)], none⟩),
      ("ele", ⟨[.types [.string]], none⟩),
      ("stat", ⟨[.types [.string], .enum Scaling.stats], none⟩),
      ("reaction", ⟨[.types [.string]], none⟩),
      ("pick", ⟨[.types [.integer], .minimum 0, .maximum 10], none⟩),
      ("params", ⟨[.types [.object]], some [.number, .boolean, .string]⟩),
      ("check", ⟨[.types [.string]], none⟩),
      ("cons", ⟨[.types [.integer], .minimum 1, .maximum 6], none⟩),
      ("dmgExpr", ⟨[.types [.string]], none⟩)] }
  | .buff => {
      properties := [
        ("title", ⟨[.types [.string], .minLength 1], none⟩),
        ("sort", ⟨[.types [.integer]], none⟩),
        ("cons", ⟨[.types [.integer], .minimum 1, .maximum 6], none⟩),
        ("tree", ⟨[.types [.integer], .minimum 1, .maximum 10], none⟩),
        ("check", ⟨[.types [.string]], none⟩),
        ("data", ⟨[.types [.object]], some [.number, .string]⟩)]
      required := ["title"] }

end RecordKind

/-- A shape takes of every value what a property leaves of it. -/
def Agrees (shape : Shape) (p : Property) : Prop := ∀ j, shape.fit? j = p.part? j

section Agreement

attribute [local simp] Shape.fit? Property.part? Property.admits Property.withoutEntries Demand.isMet TypeName.admits

theorem text_agrees : Agrees (.text 0) ⟨[.types [.string]], none⟩ := by
  intro j
  cases j <;> simp

theorem filled_text_agrees (least : Nat) : Agrees (.text least) ⟨[.types [.string], .minLength least], none⟩ := by
  intro j
  cases j <;> simp

theorem word_agrees (words : List String) : Agrees (.word words) ⟨[.types [.string], .enum words], none⟩ := by
  intro j
  cases j <;> simp

theorem keys_agree : Agrees .keys ⟨[.types [.string], .pattern fun s => decide (IsKeyText s)], none⟩ := by
  intro j
  cases j <;> simp [is_key_list_iff]

theorem list_agrees : Agrees .list ⟨[.types [.array]], none⟩ := by
  intro j
  cases j <;> simp

theorem entries_agree (accepts : Json → Bool) (types : List TypeName) (same : ∀ j, accepts j = types.any (·.admits j)) :
    Agrees (.entries accepts) ⟨[.types [.object]], some types⟩ := by
  intro j
  cases j with
  | obj fields =>
    have admitted : Property.admitsEntry ⟨[.types [.object]], some types⟩ = fun entry => accepts entry.2 :=
      funext fun entry => (same entry.2).symm
    simp [admitted]
  | _ => simp

theorem within_bounds (least most : Option Int) (j : Json) (n : Int) (compares : ∀ m, order? j m = some (compare n m)) :
    (least.toList.map Demand.minimum ++ most.toList.map Demand.maximum).all (·.isMet j) =
      (least.all (· ≤ n) && most.all (n ≤ ·)) := by
  have above (m : Int) : (order? j m != some .lt) = decide (m ≤ n) := by
    rw [compares, Bool.eq_iff_iff]
    simp [compare_lt_iff_lt]
  have below (m : Int) : (order? j m != some .gt) = decide (n ≤ m) := by
    rw [compares, Bool.eq_iff_iff]
    simp [compare_gt_iff_gt]
  cases least <;> cases most <;> simp [above, below]

theorem integer_agrees (least most : Option Int) : Agrees (.integer least most)
    ⟨.types [.integer] :: (least.toList.map .minimum ++ most.toList.map .maximum), none⟩ := by
  intro j
  cases j with
  | int n => simp [integerOf?, ← within_bounds least most (.int n) n fun m => rfl]
  | float x =>
    cases whole : Decimal.integral? x with
    | none => simp [integerOf?, whole]
    | some n => simp [integerOf?, whole, ← within_bounds least most (.float x) n fun m => Decimal.Binary.order_integral x n m whole]
  | _ => simp [integerOf?]

end Agreement

theorem shapes_agree (kind : RecordKind) : List.Forall₂ (fun (known : String × Shape) (stated : String × Property) =>
    known.1 = stated.1 ∧ Agrees known.2 stated.2) kind.shapes kind.document.properties := by
  have scalars : ∀ j, isScalar j = [TypeName.number, .boolean, .string].any (·.admits j) := by intro j; cases j <;> rfl
  have numbers : ∀ j, isNumberOrText j = [TypeName.number, .string].any (·.admits j) := by intro j; cases j <;> rfl
  cases kind with
  | plan =>
    exact .cons ⟨rfl, text_agrees⟩ (.cons ⟨rfl, text_agrees⟩ (.cons ⟨rfl, list_agrees⟩ (.cons ⟨rfl, list_agrees⟩ .nil)))
  | detail =>
    exact .cons ⟨rfl, filled_text_agrees 1⟩ (.cons ⟨rfl, text_agrees⟩ (.cons ⟨rfl, text_agrees⟩
      (.cons ⟨rfl, filled_text_agrees 1⟩ (.cons ⟨rfl, keys_agree⟩ (.cons ⟨rfl, text_agrees⟩
      (.cons ⟨rfl, word_agrees Scaling.stats⟩ (.cons ⟨rfl, text_agrees⟩ (.cons ⟨rfl, integer_agrees (some 0) (some 10)⟩
      (.cons ⟨rfl, entries_agree _ _ scalars⟩ (.cons ⟨rfl, text_agrees⟩ (.cons ⟨rfl, integer_agrees (some 1) (some 6)⟩
      (.cons ⟨rfl, text_agrees⟩ .nil))))))))))))
  | buff =>
    exact .cons ⟨rfl, filled_text_agrees 1⟩ (.cons ⟨rfl, integer_agrees none none⟩
      (.cons ⟨rfl, integer_agrees (some 1) (some 6)⟩ (.cons ⟨rfl, integer_agrees (some 1) (some 10)⟩
      (.cons ⟨rfl, text_agrees⟩ (.cons ⟨rfl, entries_agree _ _ numbers⟩ .nil)))))

theorem fit_field_keep (kind : RecordKind) (field : String × Json) :
    fitField? kind.shapes field = kind.document.keep? field := by
  have look_up : ∀ (shapes : Schema) (properties : List (String × Property)),
      List.Forall₂ (fun known stated => known.1 = stated.1 ∧ Agrees known.2 stated.2) shapes properties →
        fitField? shapes field = Document.keep? ⟨properties, []⟩ field := by
    intro shapes properties agree
    induction agree with
    | nil => rfl
    | @cons known stated shapes properties same _ ih =>
      obtain ⟨name, shape⟩ := known
      obtain ⟨name', p⟩ := stated
      obtain ⟨rfl, agrees⟩ := same
      unfold fitField? Document.keep? Fields.find? at ih ⊢
      rw [List.lookup_cons, List.lookup_cons]
      cases here : field.1 == name with
      | true => simp only [agrees field.2]
      | false => exact ih
  exact look_up _ _ (shapes_agree kind)

theorem strip_keeps (kind : RecordKind) (record : Fields Json) :
    strip kind.shapes record = record.filterMap kind.document.keep? := by
  unfold strip
  exact congrArg (record.filterMap ·) (funext (fit_field_keep kind))

end RawRecord

end DamagePlan
