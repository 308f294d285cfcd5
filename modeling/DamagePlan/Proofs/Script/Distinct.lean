import DamagePlan.Proofs.Script.IfRead
import DamagePlan.Proofs.Script.Language

/-!
Records hold each key once: what is read has distinct keys, and two keys of a record are read back as one only if they
are written alike.
-/
set_option autoImplicit false

namespace DamagePlan.Script

open DamagePlan.Script.Parser (Derives FailsDeep Spoils lexemes levels_take)
open Legible (IsSafeKey)
open Text (withoutFinalNewline)

namespace Expr

mutual
def KeysDistinct : Expr → Prop
  | .list items => KeysDistinctInList items
  | .record entries => (entries.map (·.1)).Nodup ∧ KeysDistinctInEntries entries
  | _ => True

def KeysDistinctInList : List Expr → Prop
  | [] => True
  | e :: es => KeysDistinct e ∧ KeysDistinctInList es

def KeysDistinctInEntries : List (String × Expr) → Prop
  | [] => True
  | (_, e) :: rest => KeysDistinct e ∧ KeysDistinctInEntries rest
end

theorem keys_distinct_list (es : List Expr) : (Expr.list es).KeysDistinct ↔ ∀ e ∈ es, e.KeysDistinct := by
  simp only [KeysDistinct]
  induction es with
  | nil => simp [KeysDistinctInList]
  | cons e es ih => simp [KeysDistinctInList, ih]

theorem keys_distinct_record (entries : List (String × Expr)) : (Expr.record entries).KeysDistinct ↔
    (entries.map (·.1)).Nodup ∧ ∀ entry ∈ entries, entry.2.KeysDistinct := by
  simp only [KeysDistinct]
  refine and_congr_right' ?_
  induction entries with
  | nil => simp [KeysDistinctInEntries]
  | cons entry rest ih => simp [KeysDistinctInEntries, ih]

theorem word_keys_distinct (id : String) : (Parser.ofWord id).KeysDistinct := by
  unfold Parser.ofWord
  split <;> [trivial; skip]
  split <;> [trivial; skip]
  split <;> trivial

end Expr

namespace Parser

def Constituent.KeysDistinct : Constituent → Prop
  | .expr _ e | .nested e => e.KeysDistinct
  | .items es => ∀ e ∈ es, e.KeysDistinct
  | .entries fields => ∀ entry ∈ fields, entry.2.KeysDistinct
  | .arguments _ | .further _ => True

theorem Derives.keys_distinct {d : Nat} {ls : List Lexeme} {c : Constituent} (derived : Derives d ls c) :
    c.KeysDistinct := by
  induction derived with
  | loosen _ _ ih | nested _ ih | paren _ ih => exact ih
  | word id => exact Expr.word_keys_distinct id
  | list _ ih => exact (Expr.keys_distinct_list _).mpr ih
  | record distinct _ ih => exact (Expr.keys_distinct_record _).mpr ⟨distinct, ih⟩
  | number | string | member | index | call | unary | binary | conditional | deferred => trivial
  | argumentsNone | argumentsSome | furtherClosed | furtherMore => trivial
  | itemsClosed | entriesClosed => exact List.forall_mem_nil _
  | itemsLast _ part => exact List.forall_mem_singleton.mpr part
  | itemsMore _ _ part more => exact List.forall_mem_cons.mpr ⟨part, more⟩
  | entriesLast _ _ part => exact List.forall_mem_singleton.mpr part
  | entriesMore _ _ _ part more => exact List.forall_mem_cons.mpr ⟨part, more⟩

end Parser

theorem parsed_keys_distinct (text : String) (e : Expr) (parsed : parseExpression text = .ok e) : e.KeysDistinct := by
  obtain ⟨tokens, split, -⟩ := bind_ok _ _ _ parsed
  obtain ⟨ls, k, -, derived⟩ := expression_sound text tokens split e parsed
  exact derived.keys_distinct

theorem listed_keys_distinct {ls : List Lexeme} {all : List Assignment} (lists : Lists ls all) :
    ∀ a ∈ all, a.value.KeysDistinct := by
  induction lists with
  | done => exact List.forall_mem_nil _
  | line _ value _ ih => exact List.forall_mem_cons.mpr ⟨value.keys_distinct, ih⟩

theorem script_keys_distinct (text : String) (s : Program) (parsed : parseScript text = .ok s) :
    ∀ a ∈ s.assignments, a.value.KeysDistinct := by
  obtain ⟨tokens, split, -⟩ := bind_ok _ _ _ parsed
  exact listed_keys_distinct (script_sound text tokens split s parsed).2

theorem plain_name_one_line (cs : List Char) (plain : isPlainName cs = true) : '\n' ∉ cs := by
  intro member
  cases cs with
  | nil => cases member
  | cons c cs =>
    simp only [isPlainName, Bool.and_eq_true, List.all_eq_true] at plain
    rcases List.mem_cons.mp member with rfl | later
    · exact absurd plain.1 (by decide)
    · exact absurd (plain.2 _ later) (by decide)

theorem written_bare (key base : String) (ends : key = base ++ "\n") (bare : isBareKey key = true) : writtenKey key = base := by
  subst ends
  simp [writtenKey, if_pos bare, withoutFinalNewline]

theorem unsafe_key (key : String) (ends : ¬IsSafeKey key) : ∃ base, key = base ++ "\n" := by
  have last : key.toList.getLast? = some '\n' := Decidable.not_not.mp ends
  refine ⟨String.ofList key.toList.dropLast, String.toList_injective ?_⟩
  simpa using (List.dropLast_append_getLast? _ last).symm

theorem written_key_iff (key : String) : writtenKey key = key ↔ ¬(isBareKey key = true ∧ ¬IsSafeKey key) := by
  constructor
  · rintro kept ⟨bare, ends⟩
    obtain ⟨base, rfl⟩ := unsafe_key key ends
    rw [written_bare _ base rfl bare] at kept
    have length := congrArg String.length kept
    simp at length
  · intro fine
    by_cases safe : IsSafeKey key
    · exact safe_key_written key safe
    · rw [writtenKey, if_neg fun bare => fine ⟨bare, safe⟩]

theorem written_alike_iff (key other : String) (different : key ≠ other) : writtenKey key = writtenKey other ↔
    (isBareKey other = true ∧ other = key ++ "\n") ∨ (isBareKey key = true ∧ key = other ++ "\n") := by
  have lone : ∀ base, isBareKey (base ++ "\n") = true → writtenKey base = base := by
    intro base bare
    apply safe_key_written
    intro ends
    simp only [isBareKey, withoutFinalNewline, String.toList_append, Bool.and_eq_true] at bare
    refine plain_name_one_line _ bare.1 ?_
    simpa using List.mem_of_getLast? ends
  constructor
  · intro alike
    by_cases kept : writtenKey key = key
    · by_cases kept' : writtenKey other = other
      · rw [kept, kept'] at alike
        exact absurd alike different
      · obtain ⟨bare, ends⟩ := Decidable.not_not.mp (mt (written_key_iff other).mpr kept')
        obtain ⟨base, rfl⟩ := unsafe_key other ends
        rw [kept, written_bare _ base rfl bare] at alike
        exact .inl ⟨bare, by rw [alike]⟩
    · obtain ⟨bare, ends⟩ := Decidable.not_not.mp (mt (written_key_iff key).mpr kept)
      obtain ⟨base, rfl⟩ := unsafe_key key ends
      rw [written_bare _ base rfl bare] at alike
      by_cases kept' : writtenKey other = other
      · exact .inr ⟨bare, by rw [alike, kept']⟩
      · obtain ⟨bare', ends'⟩ := Decidable.not_not.mp (mt (written_key_iff other).mpr kept')
        obtain ⟨base', rfl⟩ := unsafe_key other ends'
        rw [written_bare _ base' rfl bare'] at alike
        exact absurd (by rw [alike]) different
  · rintro (⟨bare, rfl⟩ | ⟨bare, rfl⟩)
    · rw [written_bare _ key rfl bare, lone key bare]
    · rw [written_bare _ other rfl bare, lone other bare]

def ComesBack (n : Nat) (entry field : String × Expr) : Prop := field.1 = writtenKey entry.1 ∧ Shown n entry.2 field.2

theorem coming_back_keys (n : Nat) (entries fields : List (String × Expr)) (each : List.Forall₂ (ComesBack n) entries fields) :
    fields.map (·.1) = entries.map fun entry => writtenKey entry.1 := by
  induction each with
  | nil => rfl
  | cons first _ ih => rw [List.map_cons, List.map_cons, first.1, ih]

theorem coming_back_finite (n : Nat) (entries fields : List (String × Expr))
    (each : List.Forall₂ (ComesBack n) entries fields) : (Expr.record entries).nonFinite? = none := by
  rw [Expr.nonFinite?]
  induction each with
  | nil => rfl
  | cons first _ ih => rw [Expr.nonFiniteInEntries?, first.2.finite, Option.none_or, ih]

theorem record_text_outcome (n : Nat) (entries fields : List (String × Expr))
    (each : List.Forall₂ (ComesBack n) entries fields) (indent : Int) :
    ∃ text, (Expr.record entries).text indent = .ok text ∧
      ((entries.map fun entry => writtenKey entry.1).Nodup ∧ parseExpression text = .ok (.record fields) ∨
        ¬(entries.map fun entry => writtenKey entry.1).Nodup ∧
          (∃ key pos, parseExpression text = .error ⟨.duplicateRecordKey key, pos⟩) ∨
        63 ≤ n ∧ FailsDeep (parseExpression text)) := by
  refine ⟨(Expr.record entries).plainText indent, by simp [Expr.text, coming_back_finite n entries fields each], ?_⟩
  rw [← coming_back_keys n entries fields each]
  have settles := printed_record_settles (n := n) (P := fun kind => ¬(fields.map (·.1)).Nodup ∧ ∃ key, kind = .duplicateRecordKey key)
    entries fields (fun repeated key => ⟨repeated, key, rfl⟩)
    (each.imp fun _ _ back => ⟨back.1, fun indent => (back.2.legible indent).settles⟩) indent
  rcases parse_settles settles with read | ⟨⟨kind, pos⟩, failed, ⟨repeated, key, rfl⟩ | ⟨rfl, few⟩⟩
  · exact .inl ⟨((Expr.keys_distinct_record fields).mp (parsed_keys_distinct _ _ read)).1, read⟩
  · exact .inr (.inl ⟨repeated, key, pos, failed⟩)
  · exact .inr (.inr ⟨Nat.le_of_succ_le_succ few, pos, failed⟩)

end DamagePlan.Script
