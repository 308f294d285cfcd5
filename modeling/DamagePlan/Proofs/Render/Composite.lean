import DamagePlan.Proofs.Render.Idle
import DamagePlan.Proofs.Steps

/-!
Composite formulas: what enrichment writes into the rows that it derives from others. Their texts are taken as
expressions, mean what was written, and deal no damage where stand-ins take the place of all data.
-/
set_option autoImplicit false

namespace DamagePlan.Script

open Text (isBlank trim trimList)

structure Crisp (cs : List Char) : Prop where
  begins : ∃ c, cs.head? = some c ∧ isBlank c = false
  ends : ∃ c, cs.getLast? = some c ∧ isBlank c = false

theorem crisp_trimmed (cs : List Char) (crisp : Crisp cs) : trimList cs = cs := by
  obtain ⟨⟨first, head, solid⟩, last, foot, solid'⟩ := crisp
  have front : cs.dropWhile isBlank = cs := by
    obtain ⟨more, rfl⟩ := List.head?_eq_some_iff.mp head
    exact List.dropWhile_cons_of_neg (by simp [solid])
  obtain ⟨init, rfl⟩ := List.getLast?_eq_some_iff.mp foot
  simp [trimList, Text.trimWhile, Text.dropEndWhile, front, solid']

theorem call_crisp (func : Expr) (args : List Expr) (first : Char) (tight : ¬func.power < 8)
    (begins : (func.print 0).head? = some first) (solid : isBlank first = false) : Crisp ((Expr.call func args).print 0) where
  begins := ⟨first, by simp [Expr.print, Expr.postfixPower, tight, Expr.parenthesize, begins], solid⟩
  ends := ⟨')', by simp only [Expr.print, List.getLast?_concat], by decide⟩

theorem conditional_crisp (test consequent alternative : Expr) (tight : ¬test.power < 1) (loose : ¬alternative.power < 0)
    (front : Crisp (test.print 0)) (back : Crisp (alternative.print 0)) :
    Crisp ((Expr.conditional test consequent alternative).print 0) := by
  obtain ⟨first, begins, solid⟩ := front.begins
  obtain ⟨last, ends, solid'⟩ := back.ends
  refine ⟨⟨first, ?_, solid⟩, last, ?_, solid'⟩
  · simp [Expr.print, tight, Expr.parenthesize, List.head?_append, begins]
  · simp [Expr.print, loose, Expr.parenthesize, List.getLast?_append, List.getLast?_cons, ends]

theorem record_crisp (entries : List (String × Expr)) : Crisp ((Expr.record entries).print 0) := by
  have ends : ∀ block parts, Crisp (Expr.bracketed '\x7b' '\x7d' block 0 parts) := by
    intro block parts
    unfold Expr.bracketed
    split
    · exact ⟨⟨'\x7b', rfl, by decide⟩, '\x7d', rfl, by decide⟩
    · split
      · exact ⟨⟨'\x7b', rfl, by decide⟩, '\x7d', List.getLast?_concat, by decide⟩
      · exact ⟨⟨'\x7b', rfl, by decide⟩, '\x7d', List.getLast?_concat, by decide⟩
  exact ends _ _

theorem Crisp.filled {e : Expr} (crisp : Crisp (e.print 0)) : e.plainText ≠ "" := by
  obtain ⟨c, begins, -⟩ := crisp.begins
  intro empty
  have none : e.print 0 = [] := by simpa [Expr.plainText] using congrArg String.toList empty
  rw [none] at begins
  cases begins

theorem plain_text_is_context_expression (e : Expr) (printable : e.Printable) (crisp : Crisp (e.print 0))
    (shallow : 2 * e.height + 2 ≤ 63) (plain : e.deferrals = 0) (inside : e.readsContextOnly = true) :
    isContextExpression e.plainText = true := by
  obtain ⟨ls, spelled, phrase, -⟩ := e.print_legible 0 printable
  have scans := spelled [] false [] apart_nil
  rw [List.append_nil] at scans
  obtain ⟨tokens, tokenized, carried⟩ := scans.tokens_of_end _ true
  obtain ⟨front, back, rfl, first, ending⟩ := Parser.carries_append tokens _ _ carried
  obtain ⟨newline, back, rfl, final⟩ := Parser.carries_cons back _ _ ending
  obtain ⟨eof, rfl⟩ := Parser.carries_singleton back _ final
  -- the tokens of the text are known from printing, so their arrows are counted through what they are read as
  have read := (expr_reads ls e _ _ phrase front [⟨.newline, newline⟩, ⟨.eof, eof⟩] first (by simp [Parser.pull])).2 (by omega)
  have count := expr_arrows _ _ _ read
  rw [plain] at count
  have noArrow := (any_arrow _).mpr count
  have alone : tokenize e.plainText = .ok (front ++ [⟨.newline, newline⟩, ⟨.eof, eof⟩]) := by
    simpa [tokenize, Expr.plainText] using tokenized
  have trimmed := crisp_trimmed _ crisp
  have means := (plain_text_fits e printable trimmed shallow).1.means
  rw [(plain_text_fits e printable trimmed shallow).2, Means, trim, Expr.plainText, String.toList_ofList, trimmed] at means
  simp only [isContextExpression, alone, noArrow]
  simp [Expr.plainText, means, inside]

end DamagePlan.Script

namespace DamagePlan.Formula

open Script
open DamagePlan.Enrichment (scaledResult)

structure Composite (e : Expr) : Prop where
  writable : Writable 12 e
  crisp : Crisp (e.print 0)
  idle : ∀ engine scope, Stage engine scope → Gives engine scope e IsNoDamage

namespace Composite

variable {e : Expr} (composite : Composite e)

include composite

theorem shallow : 2 * e.height + 2 ≤ 63 := by
  have low := composite.writable.low
  omega

theorem fits : TextFits 26 e.plainText ∧ textBody e.plainText = e := by
  have low := composite.writable.low
  obtain ⟨fits, body⟩ := plain_text_fits e composite.writable.printable (crisp_trimmed _ composite.crisp) composite.shallow
  exact ⟨⟨fits.means, fits.shown.mono (by omega)⟩, body⟩

theorem taken : isContextExpression e.plainText = true := by
  refine plain_text_is_context_expression e composite.writable.printable composite.crisp composite.shallow
    composite.writable.plain ?_
  -- formulas use a vocabulary of their own, which is part of what accepted texts may read
  have inside : ∀ id ∈ vocabulary, (contextNames.contains id || helperNames.contains id) = true := by decide +kernel
  exact List.all_eq_true.mpr fun id member => inside id (composite.writable.inside id member)

theorem filled : e.plainText ≠ "" := composite.crisp.filled

end Composite

theorem scaled_damage_crisp (amount : Expr) (stat key : String) (element : Option String) :
    Crisp ((scaledDamage amount stat key element).print 0) ∧ (scaledDamage amount stat key element).power = 9 := by
  unfold scaledDamage
  split
  · exact ⟨call_crisp (.name "dmg") _ 'd' (by decide) rfl (by decide), rfl⟩
  · exact ⟨call_crisp (.path "dmg" ["basic"]) _ 'd' (by decide) rfl (by decide), rfl⟩

theorem damage_as_crisp (row : DamageRow) (stat : String) (schema : Option Scaling.Schema) :
    Crisp ((damageAs row stat schema).print 0) := by
  have scaled : ∀ amount stat, Crisp ((row.scaled amount stat).print 0) := fun amount stat => (scaled_damage_crisp ..).1
  have listed : Crisp ((isList (tableRef row.talent row.table)).print 0) :=
    call_crisp (.name "isList") _ 'i' (by decide) rfl (by decide)
  -- a formula with a test in front begins with that test and ends with the plain call
  have chosen : ∀ amount, Crisp ((Expr.conditional (isList (tableRef row.talent row.table)) amount
      (damageOfPart row stat 0)).print 0) := by
    intro amount
    have alternative := scaled_damage_crisp (row.part 0) stat row.key row.element
    refine conditional_crisp _ _ _ (by simp [isList, Expr.callName, Expr.power]) ?_ listed alternative.1
    rw [damageOfPart, DamageRow.scaled, alternative.2]
    decide
  cases schema with
  | none => exact scaled _ _
  | some schema =>
    cases schema with
    | statStat one two => exact chosen _
    | statFlat stat => exact chosen _
    | statTimes stat =>
      simp only [damageAs]
      split <;> exact scaled _ _
    | percentList stat => exact scaled _ _

theorem table_damage_composite (kit : Kit) (row : DamageRow) (named : isTalent row.talent = true)
    (low : ∀ p ∈ row.pick, ∃ k ≤ 10, p = Int.ofNat k) (e : Expr) (made : tableDamage kit row = .ok e) :
    Writable 9 e ∧ Composite e := by
  have writable := table_damage_writable named low e made
  refine ⟨writable, writable.mono (by decide), ?_, fun engine scope stage => table_damage_gives stage kit row e made⟩
  cases (table_damage_ok_iff kit row e).mp made with
  | picked => exact (scaled_damage_crisp ..).1
  | shaped stat schema => exact damage_as_crisp row stat schema

theorem member_of_result_gives {engine : Engine} {scope : Scope} {e : Expr} (gives : Gives engine scope e IsNoDamage)
    (part : String) (known : part = "dmg" ∨ part = "avg") : Gives engine scope (.member e part) IsZero := by
  obtain ⟨v, value, same⟩ := gives
  rw [IsNoDamage] at same
  subst same
  rcases known with rfl | rfl <;>
    exact ⟨.number .zero, by simp [evaluate, value, memberOf, Helper.damageRecord, Value.field, List.lookup_cons,
      Evaluation.lift], rfl⟩

theorem scaled_result_gives {engine : Engine} {scope : Scope} {e : Expr} (gives : Gives engine scope e IsNoDamage)
    (n : Nat) (few : n ≤ 60) : Gives engine scope (scaledResult e (Float.ofNat n)) IsNoDamage := by
  have part : ∀ name, name = "dmg" ∨ name = "avg" →
      Gives engine scope (times (.member e name) (.number (Float.ofNat n))) IsZero := fun name known =>
    times_count_gives ((member_of_result_gives gives name known).mono fun _ => IsZero.nought)
      ((gives_number _).mono fun _ same => ⟨n, few, same⟩)
  obtain ⟨v, value, zero⟩ := part "dmg" (.inl rfl)
  obtain ⟨v', value', zero'⟩ := part "avg" (.inr rfl)
  refine ⟨_, ?_, rfl⟩
  rw [IsZero] at zero zero'
  subst zero zero'
  simp [scaledResult, evaluate, evaluateEntries, value, value', Helper.damageRecord]

theorem scaled_result_writable {e : Expr} (writable : Writable 9 e) (n : Nat) (few : n ≤ 60) :
    Writable 12 (scaledResult e (Float.ofNat n)) := by
  have part : ∀ name, isName name.toList = true → Writable 11 (times (.member e name) (.number (Float.ofNat n))) := by
    intro name named
    exact (writable.member name named).binary .multiply (.number _ (natural_unsigned n (by omega)))
  have dmg := part "dmg" (by decide +kernel)
  have avg := part "avg" (by decide +kernel)
  have safe : ∀ key ∈ ["dmg", "avg"], Legible.IsSafeKey key := by decide +kernel
  refine ⟨⟨by simp, safe, dmg.printable, avg.printable, trivial⟩, ?_, ?_, ?_, ?_⟩
  -- each part is under one product and one entry more than the row itself
  · have one := dmg.low
    have two := avg.low
    simp only [scaledResult, Expr.height, Expr.heightOfEntries] at one two ⊢
    omega
  · simp only [scaledResult, Expr.names, Expr.namesOfEntries, List.append_nil]
    exact List.forall_mem_append.mpr ⟨dmg.inside, avg.inside⟩
  · simp only [scaledResult, Expr.deferrals, Expr.deferralsOfEntries, dmg.plain, avg.plain]
  · simp only [scaledResult, Expr.compares, Expr.comparesInEntries, dmg.scalar, avg.scalar, Bool.or_false]

theorem scaled_result_composite {e : Expr} (writable : Writable 9 e) (composite : Composite e) (n : Nat) (few : n ≤ 60) :
    Composite (scaledResult e (Float.ofNat n)) :=
  ⟨scaled_result_writable writable n few, record_crisp _,
    fun engine scope stage => scaled_result_gives (composite.idle engine scope stage) n few⟩

end DamagePlan.Formula
