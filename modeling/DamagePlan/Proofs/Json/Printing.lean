import DamagePlan.Proofs.Json.Fields
import DamagePlan.Proofs.Json.Numeral

/-!
Printed values read back: what a style prints for a value, the grammar derives for that value.
-/
set_option autoImplicit false

namespace DamagePlan.Json

/-- The values that can be printed and read back: no object has a key twice, and no integer has too many digits. -/
inductive Encodable : Json → Prop
  | null : Encodable .null
  | bool (b : Bool) : Encodable (.bool b)
  | int (n : Int) (short : IsShort n) : Encodable (.int n)
  | float (x : Float) : Encodable (.float x)
  | str (s : String) : Encodable (.str s)
  | arr (items : List Json) (each : ∀ v ∈ items, Encodable v) : Encodable (.arr items)
  | obj (fields : List (String × Json)) (distinct : (fields.map (·.1)).Nodup) (each : ∀ field ∈ fields, Encodable field.2) :
      Encodable (.obj fields)

namespace Style

structure Spaced (style : Style) : Prop where
  unsorted : style.sortKeys = false
  items : ∃ gap, IsGap gap ∧ style.itemSeparator.toList = ',' :: gap
  keys : ∃ gap, IsGap gap ∧ style.keySeparator.toList = ':' :: gap

theorem plain_spaced (asciiOnly : Bool) (indent : Option Nat) : ({ asciiOnly, indent } : Style).Spaced where
  unsorted := rfl
  items := ⟨[' '], by simp [IsGap, isSpace], by simp⟩
  keys := ⟨[' '], by simp [IsGap, isSpace], by simp⟩

theorem print_items_map (style : Style) (level : Nat) (items : List Json) :
    style.printItems level items = items.map (style.print level) := by
  induction items with
  | nil => rfl
  | cons v items ih => rw [printItems, ih, List.map_cons]

theorem print_fields_map (style : Style) (level : Nat) (fields : List (String × Json)) :
    style.printFields level fields = fields.map fun field => (field.1, style.print level field.2) := by
  induction fields with
  | nil => rfl
  | cons field fields ih => rw [printFields, ih, List.map_cons]

def member (style : Style) (level : Nat) (field : String × Json) : List Char :=
  stringLiteral style.asciiOnly field.1 ++ style.keySeparator.toList ++ style.print level field.2

theorem order_fields_unsorted (style : Style) (unsorted : style.sortKeys = false) (level : Nat) (fields : List (String × Json)) :
    style.orderFields (style.printFields level fields) = fields.map (style.member level) := by
  rw [orderFields, unsorted, if_neg (by decide), print_fields_map, List.map_map]
  rfl

theorem new_line_gap (width : Nat) : IsGap ('\n' :: List.replicate width ' ') := by
  refine List.forall_mem_cons.mpr ⟨rfl, fun c member => ?_⟩
  rw [List.eq_of_mem_replicate member]
  rfl

theorem wrap_layout (style : Style) (spaced : style.Spaced) (level : Nat) (opening closing : String) (texts : List (List Char))
    (some_ : texts ≠ []) : ∃ before between after, IsGap before ∧ IsGap between ∧ IsGap after ∧
      style.wrap level opening closing texts =
        opening.toList ++ (before ++ ((',' :: between).intercalate texts ++ (after ++ closing.toList))) := by
  rw [wrap, if_neg (by simpa using some_)]
  cases style.indent with
  | none =>
    obtain ⟨gap, isGap, separator⟩ := spaced.items
    exact ⟨[], gap, [], nofun, isGap, nofun, by simp [separator]⟩
  | some width =>
    refine ⟨'\n' :: List.replicate (width * (level + 1)) ' ', '\n' :: List.replicate (width * (level + 1)) ' ',
      '\n' :: List.replicate (width * level) ' ', new_line_gap _, new_line_gap _, new_line_gap _, ?_⟩
    simp

section Layouts

variable (style : Style) (level : Nat) (between after : List Char) (isBetween : IsGap between) (isAfter : IsGap after)
include isBetween isAfter

theorem elements_spelled (items : List Json) (some_ : items ≠ [])
    (each : ∀ v ∈ items, Spells (style.print level v) (.value v)) :
    Spells ((',' :: between).intercalate (items.map (style.print level)) ++ (after ++ [']'])) (.elements items) := by
  induction items with
  | nil => exact absurd rfl some_
  | cons v items ih =>
    have first := each v List.mem_cons_self
    cases items with
    | nil =>
      rw [List.map_singleton, List.intercalate_singleton]
      exact .lastElement first after isAfter
    | cons w items =>
      have others := ih (List.cons_ne_nil _ _) fun u member => each u (List.mem_cons_of_mem _ member)
      have spelled := Spells.nextElement first [] between nofun isBetween others
      rw [List.map_cons, List.map_cons, List.intercalate_cons_cons]
      simpa using spelled

theorem members_spelled (spaced : style.Spaced) (fields : List (String × Json)) (some_ : fields ≠ [])
    (each : ∀ field ∈ fields, Spells (style.print level field.2) (.value field.2)) :
    Spells ((',' :: between).intercalate (fields.map (style.member level)) ++ (after ++ ['\x7d'])) (.members fields) := by
  obtain ⟨gap, isGap, separator⟩ := spaced.keys
  induction fields with
  | nil => exact absurd rfl some_
  | cons field fields ih =>
    obtain ⟨key, v⟩ := field
    have first := each (key, v) List.mem_cons_self
    have name := string_literal_reads style.asciiOnly key
    cases fields with
    | nil =>
      have spelled := Spells.lastMember name [] gap after nofun isGap isAfter first
      simpa [member, separator] using spelled
    | cons other fields =>
      have others := ih (List.cons_ne_nil _ _) fun u member => each u (List.mem_cons_of_mem _ member)
      have spelled := Spells.nextMember name [] gap [] between nofun isGap nofun isBetween first others
      rw [List.map_cons, List.map_cons, List.intercalate_cons_cons]
      simpa [member, separator] using spelled

end Layouts

theorem print_spelled (style : Style) (spaced : style.Spaced) {v : Json} (encodable : Encodable v) :
    ∀ level, Spells (style.print level v) (.value v) := by
  induction encodable with
  | null => exact fun _ => .word "null" _ (by simp [words])
  | bool b =>
    intro _
    cases b
    · exact .word "false" _ (by simp [words])
    · exact .word "true" _ (by simp [words])
  | int n short => exact fun _ => integer_spelled n short
  | float x => exact fun _ => float_spelled x
  | str s => exact fun _ => .string (string_literal_reads style.asciiOnly s)
  | arr items _ ih =>
    intro level
    rw [print, print_items_map]
    cases items with
    | nil => exact .emptyArray [] (List.forall_mem_nil _)
    | cons v items =>
      obtain ⟨before, between, after, isBefore, isBetween, isAfter, layout⟩ :=
        wrap_layout style spaced level "[" "]" ((v :: items).map (style.print (level + 1))) (List.cons_ne_nil _ _)
      rw [layout]
      exact .array before isBefore (elements_spelled style (level + 1) between after isBetween isAfter (v :: items)
        (List.cons_ne_nil _ _) fun u member => ih u member (level + 1))
  | obj fields distinct _ ih =>
    intro level
    rw [print, order_fields_unsorted style spaced.unsorted]
    cases fields with
    | nil => exact .emptyObject [] (List.forall_mem_nil _)
    | cons field fields =>
      obtain ⟨before, between, after, isBefore, isBetween, isAfter, layout⟩ :=
        wrap_layout style spaced level "\x7b" "\x7d" ((field :: fields).map (style.member (level + 1))) (List.cons_ne_nil _ _)
      have spelled := Spells.object before isBefore (members_spelled style (level + 1) between after isBetween isAfter spaced
        (field :: fields) (List.cons_ne_nil _ _) fun u member => ih u member (level + 1))
      rw [Fields.of_list_distinct _ distinct] at spelled
      rw [layout]
      exact spelled

theorem print_parses (style : Style) (spaced : style.Spaced) {v : Json} (encodable : Encodable v) :
    parse (style.render v) = .ok v := by
  rw [parse, render, String.toList_ofList, parse_list_iff]
  exact ⟨[], _, [], nofun, nofun, print_spelled style spaced encodable 0, by simp⟩

end Style

end DamagePlan.Json
