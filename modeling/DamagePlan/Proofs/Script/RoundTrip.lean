import DamagePlan.Proofs.Script.Numeral
import DamagePlan.Proofs.Script.Reading
import DamagePlan.Script.Stack

/-!
Printed expressions and scripts are read back as what was printed.
-/
set_option autoImplicit false

namespace DamagePlan.Script

open DamagePlan.Script.Parser (ofWord FailsDeep)
open Legible (AllLegible EntryLegible IsSafeKey)

namespace Expr

mutual
def height : Expr → Nat
  | .number _ | .string _ | .bool _ | .null | .name _ | .verbatim _ => 0
  | .member obj _ => height obj + 1
  | .index obj key => max (height obj) (height key) + 1
  | .call func args => max (height func + 1) (heightOfList args)
  | .unary _ operand => height operand + 1
  | .binary _ left right => max (height left) (height right) + 1
  | .conditional test consequent alternative => max (height test) (max (height consequent) (height alternative)) + 1
  | .list items => heightOfList items
  | .record entries => heightOfEntries entries
  | .deferred body => height body + 1

def heightOfList : List Expr → Nat
  | [] => 0
  | e :: es => max (height e + 1) (heightOfList es)

def heightOfEntries : List (String × Expr) → Nat
  | [] => 0
  | (_, e) :: rest => max (height e + 1) (heightOfEntries rest)
end

mutual
/-- Expressions that the language can write: no verbatim text, no number that takes a sign, and names, members and
keys that read back as themselves. -/
def Printable : Expr → Prop
  | .number x => IsUnsigned x
  | .string _ | .bool _ | .null => True
  | .name id => isName id.toList = true ∧ id ∉ keywords
  | .member obj part => Printable obj ∧ isName part.toList = true
  | .index obj key => Printable obj ∧ Printable key
  | .call func args => Printable func ∧ PrintableList args
  | .unary _ operand => Printable operand
  | .binary _ left right => Printable left ∧ Printable right
  | .conditional test consequent alternative => Printable test ∧ Printable consequent ∧ Printable alternative
  | .list items => PrintableList items
  | .record entries =>
    (entries.map (·.1)).Nodup ∧ (∀ key ∈ entries.map (·.1), IsSafeKey key) ∧ PrintableEntries entries
  | .deferred body => Printable body
  | .verbatim _ => False

def PrintableList : List Expr → Prop
  | [] => True
  | e :: es => Printable e ∧ PrintableList es

def PrintableEntries : List (String × Expr) → Prop
  | [] => True
  | (_, e) :: rest => Printable e ∧ PrintableEntries rest
end

mutual
theorem reach_le_height (e : Expr) : e.reach ≤ e.height + 1 := by
  cases e with
  | number _ | string _ | bool _ | null | name _ | verbatim _ => exact Nat.le_refl 1
  | deferred body => exact Nat.le_add_left 1 _
  | member obj _ => exact Nat.succ_le_succ (reach_le_height obj)
  | unary _ operand => exact Nat.succ_le_succ (reach_le_height operand)
  | index obj key =>
    have first := reach_le_height obj
    have second := reach_le_height key
    simp only [reach, height]
    omega
  | binary _ left right =>
    have first := reach_le_height left
    have second := reach_le_height right
    simp only [reach, height]
    omega
  | conditional test consequent alternative =>
    have first := reach_le_height test
    have second := reach_le_height consequent
    have third := reach_le_height alternative
    simp only [reach, height]
    omega
  | call func args =>
    have first := reach_le_height func
    have second := reach_of_list_le args
    simp only [reach, height]
    omega
  | list items => exact Nat.succ_le_succ (reach_of_list_le items)
  | record entries => exact Nat.succ_le_succ (reach_of_entries_le entries)

theorem reach_of_list_le (es : List Expr) : reachOfList es ≤ heightOfList es := by
  cases es with
  | nil => exact Nat.le_refl 0
  | cons e es =>
    have first := reach_le_height e
    have rest := reach_of_list_le es
    simp only [reachOfList, heightOfList]
    omega

theorem reach_of_entries_le (entries : List (String × Expr)) : reachOfEntries entries ≤ heightOfEntries entries := by
  cases entries with
  | nil => exact Nat.le_refl 0
  | cons entry rest =>
    have first := reach_le_height entry.2
    have others := reach_of_entries_le rest
    simp only [reachOfEntries, heightOfEntries]
    omega
end

theorem of_word_name (id : String) (free : id ∉ keywords) : ofWord id = .name id := by
  simp only [keywords, List.mem_cons, List.not_mem_nil, or_false, not_or] at free
  simp [ofWord, free]

theorem power_low (e : Expr) : -1 ≤ e.power := by
  cases e with
  | binary op => exact Int.le_trans (by decide) (Int.natCast_nonneg op.power)
  | _ => simp [power]

theorem operand_legible (p : Int) (cs : List Char) (e : Expr) (n : Nat) (high : p ≤ 9)
    (legible : Legible cs e e.power n) : Legible (parenthesize cs (e.power < p)) e p (n + 1) :=
  legible.operand p _ high fun free => by simpa using free

-- Induction on the expression. Parentheses, brackets and signs each nest once more, and no part is under more than two
-- of these per level, which bounds the nesting by twice the height.
mutual
theorem print_legible (indent : Int) (e : Expr) (printable : e.Printable) :
    Legible (e.print indent) e e.power (2 * e.height + 1) := by
  cases e with
  | number x => exact (Legible.number x (numeral_text x printable)).mono (Nat.zero_le _)
  | string t => exact (Legible.string t).mono (Nat.zero_le _)
  | bool b =>
    cases b with
    | true => exact (Legible.word "true" (by decide)).mono (Nat.zero_le _)
    | false => exact (Legible.word "false" (by decide)).mono (Nat.zero_le _)
  | null => exact (Legible.word "null" (by decide)).mono (Nat.zero_le _)
  | name id =>
    have word := Legible.word id printable.1
    rw [of_word_name id printable.2] at word
    exact word.mono (Nat.zero_le _)
  | member obj part =>
    have whole := operand_legible 8 _ obj _ (by decide) (print_legible indent obj printable.1)
    simp only [print, height, postfixPower]
    exact (whole.member part (Int.le_refl 8) printable.2).mono (by omega)
  | index obj key =>
    have whole := operand_legible 8 _ obj _ (by decide) (print_legible indent obj printable.1)
    have inner := print_legible indent key printable.2
    simp only [print, height, postfixPower]
    exact (whole.index (Int.le_refl 8) inner).mono (by omega)
  | call func args =>
    have whole := operand_legible 8 _ func _ (by decide) (print_legible indent func printable.1)
    have inner := print_list_legible indent args printable.2
    simp only [print, height, postfixPower]
    exact (whole.call _ args (Int.le_refl 8) inner).mono (by omega)
  | unary op operand =>
    have inner := operand_legible 7 _ operand _ (by decide) (print_legible indent operand printable)
    simp only [print, height]
    exact (inner.unary_op op (Int.le_refl 7)).mono (by omega)
  | binary op left right =>
    have high : (op.power : Int) + 1 ≤ 9 := by cases op <;> decide
    have first := operand_legible op.power _ left _ (by omega) (print_legible indent left printable.1)
    have second := operand_legible (op.power + 1) _ right _ high (print_legible indent right printable.2)
    simp only [print, height]
    exact (first.binary_op op (Int.le_refl _) (Int.le_refl _) second).mono (by omega)
  | conditional test consequent alternative =>
    have first := operand_legible 1 _ test _ (by decide) (print_legible indent test printable.1)
    have second := operand_legible 1 _ consequent _ (by decide) (print_legible indent consequent printable.2.1)
    have third := operand_legible 0 _ alternative _ (by decide) (print_legible indent alternative printable.2.2)
    simp only [print, height]
    exact (first.conditional (Int.le_refl 1) second third).mono (by omega)
  | list items =>
    have inner := print_list_legible (if (Expr.list items).isBlock then indent + 1 else indent) items printable
    simp only [print, height]
    exact (Legible.list _ indent _ items inner).mono (by omega)
  | record entries =>
    have inner := print_entries_legible (if (Expr.record entries).isBlock then indent + 1 else indent) entries
      printable.2.1 printable.2.2
    simp only [print, height]
    exact (Legible.record _ indent _ entries printable.1 inner).mono (by omega)
  | deferred body =>
    have inner := print_legible indent body printable
    simp only [print, height]
    exact inner.deferred.mono (by omega)
  | verbatim text => exact printable.elim

theorem print_list_legible (indent : Int) (es : List Expr) (printable : PrintableList es) :
    AllLegible (2 * heightOfList es - 1) (printList indent es) es := by
  cases es with
  | nil => exact .nil
  | cons e es =>
    have first := (print_legible indent e printable.1).loosen e.power_low
    have following := print_list_legible indent es printable.2
    exact .cons (first.mono (by simp only [heightOfList]; omega))
      (following.imp fun _ _ legible => legible.mono (by simp only [heightOfList]; omega))

theorem print_entries_legible (indent : Int) (entries : List (String × Expr))
    (safe : ∀ key ∈ entries.map (·.1), IsSafeKey key) (printable : PrintableEntries entries) :
    List.Forall₂ (EntryLegible (2 * heightOfEntries entries - 1)) (printEntries indent entries) entries := by
  cases entries with
  | nil => exact .nil
  | cons entry rest =>
    obtain ⟨key, e⟩ := entry
    have value := (print_legible indent e printable.1).mono (m := 2 * heightOfEntries ((key, e) :: rest) - 1)
      (by simp only [heightOfEntries]; omega)
    have first := Legible.entry key (safe key (by simp)) e.power_low value
    have following := print_entries_legible indent rest (fun k member => safe k (by simp at member ⊢; tauto)) printable.2
    exact .cons first (following.imp fun _ _ entry => Legible.entry_mono (by simp only [heightOfEntries]; omega) entry)
end

mutual
theorem printable_finite (e : Expr) (printable : e.Printable) : e.nonFinite? = none := by
  cases e with
  | number x =>
    obtain ⟨mantissa, exponent, finite⟩ := printable
    simp [nonFinite?, Decimal.isFinite, finite]
  | string _ | bool _ | null | name _ => rfl
  | member obj part => exact printable_finite obj printable.1
  | index obj key => simp [nonFinite?, printable_finite obj printable.1, printable_finite key printable.2]
  | call func args => simp [nonFinite?, printable_finite func printable.1, printable_list_finite args printable.2]
  | unary op operand => exact printable_finite operand printable
  | binary op left right => simp [nonFinite?, printable_finite left printable.1, printable_finite right printable.2]
  | conditional test consequent alternative =>
    simp [nonFinite?, printable_finite test printable.1, printable_finite consequent printable.2.1,
      printable_finite alternative printable.2.2]
  | list items => exact printable_list_finite items printable
  | record entries => exact printable_entries_finite entries printable.2.2
  | deferred body => exact printable_finite body printable
  | verbatim text => exact printable.elim

theorem printable_list_finite (es : List Expr) (printable : PrintableList es) : nonFiniteInList? es = none := by
  cases es with
  | nil => rfl
  | cons e es => simp [nonFiniteInList?, printable_finite e printable.1, printable_list_finite es printable.2]

theorem printable_entries_finite (entries : List (String × Expr)) (printable : PrintableEntries entries) :
    nonFiniteInEntries? entries = none := by
  cases entries with
  | nil => rfl
  | cons entry rest =>
    obtain ⟨key, e⟩ := entry
    simp [nonFiniteInEntries?, printable_finite e printable.1, printable_entries_finite rest printable.2]
end

theorem ends_append (cs ds : List Char) (first : cs.getLast? ≠ some '\n') (second : ds.getLast? ≠ some '\n') :
    (cs ++ ds).getLast? ≠ some '\n' := by
  rw [List.getLast?_append]
  cases last : ds.getLast? with
  | none => simpa using first
  | some c => simpa [last] using second

theorem name_ends (id : List Char) (named : isName id = true) : id.getLast? ≠ some '\n' := by
  intro last
  have member := List.mem_of_getLast? last
  cases id with
  | nil => cases member
  | cons c cs =>
    simp only [isName, Bool.and_eq_true, List.all_eq_true] at named
    rcases List.mem_cons.mp member with rfl | later
    · exact absurd named.1 (by decide)
    · exact absurd (named.2 _ later) (by decide)

theorem solid_ends (cs : List Char) (c : Char) (solid : c ≠ '\n') : (cs ++ [c]).getLast? ≠ some '\n' := by
  simpa using solid

theorem parenthesize_ends (cs : List Char) (needed : Bool) (ends : cs.getLast? ≠ some '\n') :
    (parenthesize cs needed).getLast? ≠ some '\n' := by
  cases needed with
  | false => exact ends
  | true => exact solid_ends ('(' :: cs) ')' (by decide)

theorem bracketed_ends (opening closing : Char) (block : Bool) (indent : Int) (parts : List (List Char))
    (solid : closing ≠ '\n') : (bracketed opening closing block indent parts).getLast? ≠ some '\n' := by
  cases parts with
  | nil => exact solid_ends [opening] closing solid
  -- a block ends with its closing bracket at the margin, so the margin is never last
  | cons part parts =>
    cases block with
    | false => exact solid_ends (opening :: _) closing solid
    | true => exact solid_ends (opening :: '\n' :: _ ++ '\n' :: margin indent) closing solid

theorem print_ends (indent : Int) (e : Expr) (printable : e.Printable) : (e.print indent).getLast? ≠ some '\n' := by
  cases e with
  | number x => exact (numeral_text x printable).last
  | string t =>
    simp only [print, stringText, String.toList_ofList]
    exact solid_ends ('"' :: _) '"' (by decide)
  | bool b => cases b <;> simp [print]
  | null => simp [print]
  | name id => exact name_ends _ printable.1
  | member obj part =>
    exact ends_append _ _ (parenthesize_ends _ _ (print_ends indent obj printable.1))
      (ends_append ['.'] _ (by decide) (name_ends _ printable.2))
  | index obj key => exact solid_ends _ ']' (by decide)
  | call func args => exact solid_ends _ ')' (by decide)
  | unary op operand =>
    exact ends_append _ _ (by cases op <;> decide) (parenthesize_ends _ _ (print_ends indent operand printable))
  | binary op left right =>
    simp only [print]
    rw [List.append_assoc]
    have first := parenthesize_ends _ (decide (left.power < op.power)) (print_ends indent left printable.1)
    have second := parenthesize_ends _ (decide (right.power < op.power + 1)) (print_ends indent right printable.2)
    have sign : (' ' :: op.text.toList).getLast? ≠ some '\n' := by cases op <;> decide
    exact ends_append _ _ first (ends_append _ _ sign (ends_append [' '] _ (by decide) second))
  | conditional test consequent alternative =>
    have first := parenthesize_ends _ (decide (test.power < 1)) (print_ends indent test printable.1)
    have second := parenthesize_ends _ (decide (consequent.power < 1)) (print_ends indent consequent printable.2.1)
    have third := parenthesize_ends _ (decide (alternative.power < 0)) (print_ends indent alternative printable.2.2)
    have asked := ends_append _ _ first (ends_append [' ', '?', ' '] _ (by decide) second)
    exact ends_append _ _ asked (ends_append [' ', ':', ' '] _ (by decide) third)
  | list items => exact bracketed_ends _ _ _ _ _ (by decide)
  | record entries => exact bracketed_ends _ _ _ _ _ (by decide)
  | deferred body => exact ends_append ['=', '>', ' '] _ (by decide) (print_ends indent body printable)
  | verbatim text => exact printable.elim

end Expr

def Program.Printable (s : Program) : Prop :=
  ∀ a ∈ s.assignments, isName a.name.toList = true ∧ a.name ∉ keywords ∧ a.value.Printable

def sampleExpr : Expr :=
  .conditional (.binary .equal (.name "cons") (.number (Float.ofBits 0x3FF8000000000000)))
    (.record [("a b", .list [.string "say \"#\"\n"]), ("true", .record [])])
    (.deferred (.unary .negate (.member (.unary .negate (.name "calc")) "true")))

def sampleProgram : Program := ⟨"made by\r# a = 1", [⟨"details", .list [sampleExpr]⟩, ⟨"mainAttr", .string "atk"⟩]⟩

end DamagePlan.Script
