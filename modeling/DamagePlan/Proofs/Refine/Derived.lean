import DamagePlan.Proofs.Refine.Fresh
import DamagePlan.Proofs.Render.Composite

/-!
Derived rows: the totals of several hits and of all targets are rows of another title with a composite formula.
-/
set_option autoImplicit false

namespace DamagePlan.Enrichment

open Script
open Text (append_filled filled_append)
open Decimal (IntegerTooLarge)
open Formula (Composite Writable isTalent)

def IsDerived (d derived : Detail) : Prop :=
  ∃ title e, title ≠ "" ∧ Composite e ∧ derived = { d with title, raw := some e.plainText, pick := none }

theorem total_title_filled (title : String) (times : Option Int) : totalTitle title times ≠ "" := by
  unfold totalTitle
  split
  · cases times with
    | none => exact filled_append _ _ (by decide)
    | some n => exact filled_append _ _ (by decide)
  · cases times with
    | none => exact filled_append _ _ (by decide)
    | some n => exact filled_append _ _ (by decide)

theorem hits_stated (text name : String) (n : Nat) (found : HitCount.nextTo? text name = some n) : 2 ≤ n ∧ n ≤ 60 := by
  unfold HitCount.nextTo? at found
  dsimp only at found
  split at found
  · cases found
  · split at found
    · split at found
      · rename_i bounds
        simp only [Bool.and_eq_true, decide_eq_true_eq] at bounds
        cases found
        exact bounds
      · cases found
    · cases found

theorem may_have_total (d : Detail) (may : mayHaveTotal d = true) : d.kind = .dmg ∧ d.pick = none := by
  simp only [mayHaveTotal, isPlainDamage, Bool.and_eq_true, decide_eq_true_eq, Option.isNone_iff_eq_none] at may
  exact ⟨may.1.1.1.1.1, may.1.1.2⟩

theorem table_damage_of_composite (kit : Kit) (d : Detail) (named : isTalent (d.talent.getD "") = true) (title : String)
    (e : Expr) (made : tableDamageOf kit d title = .ok e) : Writable 9 e ∧ Composite e :=
  Formula.table_damage_composite kit _ named (fun p own => by cases own) e made

theorem stated_hits_few (kit : Kit) (d : Detail) (n : Nat) (stated : statedHits? kit d = .ok (some n)) : 2 ≤ n ∧ n ≤ 60 := by
  unfold statedHits? at stated
  dsimp only at stated
  split at stated
  · cases stated
  · obtain ⟨text, -, found⟩ := map_ok _ _ _ stated
    exact hits_stated text _ n found

inductive IsTotal (kit : Kit) (d : Detail) : Detail → Prop
  | counted (stat : String) (e : Expr)
      (shaped : Scaling.schema kit (d.talent.getD "") (d.table.getD "") = .ok (some (.statTimes stat)))
      (made : tableDamageOf kit d (totalTitle d.title none) = .ok e) :
      IsTotal kit d { d with title := totalTitle d.title none, raw := some e.plainText }
  | stated (n : Nat) (e : Expr) (said : statedHits? kit d = .ok (some n)) (made : tableDamageOf kit d d.title = .ok e) :
      IsTotal kit d { d with
        title := totalTitle d.title (some n), raw := some (scaledResult e (Float.ofNat n)).plainText }

theorem total_row_cases (kit : Kit) (d total : Detail) (made : totalRow kit d = .ok (some total)) :
    mayHaveTotal d = true ∧ IsTotal kit d total := by
  unfold totalRow at made
  split at made
  · cases made
  · rename_i may
    simp only [Bool.not_eq_true', Bool.not_eq_false] at may
    refine ⟨may, ?_⟩
    obtain ⟨schema, shaped, made⟩ := bind_ok _ _ _ made
    split at made
    · obtain ⟨counted, count, same⟩ := bind_ok _ _ _ made
      cases same
      obtain ⟨e, found, same⟩ := bind_ok _ _ _ count
      cases same
      exact .counted _ e shaped found
    · obtain ⟨hits, said, made⟩ := lifted_ok _ _ _ _ made
      obtain ⟨n, own, count⟩ := option_map_m_ok _ _ _ made
      obtain rfl : hits = some n := own
      obtain ⟨e, found, same⟩ := bind_ok _ _ _ count
      cases same
      exact .stated n e said found

theorem total_row_derived (kit : Kit) (d total : Detail) (named : d.kind = .dmg → isTalent (d.talent.getD "") = true)
    (made : totalRow kit d = .ok (some total)) : d.kind = .dmg ∧ IsDerived d total := by
  obtain ⟨may, shape⟩ := total_row_cases kit d total made
  obtain ⟨damage, whole⟩ := may_have_total d may
  replace named := named damage
  refine ⟨damage, ?_⟩
  -- a total keeps its row's pick; a row with a pick has no total, so that is none
  have same : ∀ title raw, { d with title, raw } = { d with title, raw, pick := none } := by
    intro title raw
    rw [whole]
  cases shape with
  | counted stat e shaped found =>
    have composite := (table_damage_of_composite kit d named _ e found).2
    exact ⟨_, e, total_title_filled _ _, composite, same _ _⟩
  | stated n e said found =>
    obtain ⟨writable, composite⟩ := table_damage_of_composite kit d named _ e found
    exact ⟨_, _, total_title_filled _ _,
      Formula.scaled_result_composite writable composite n (stated_hits_few kit d n said).2, same _ _⟩

theorem repeats_bounds (text : String) : HitCount.repeatsIn text = 1 ∨ 2 ≤ HitCount.repeatsIn text ∧ HitCount.repeatsIn text ≤ 6 := by
  unfold HitCount.repeatsIn
  split
  · split
    · rename_i bounds
      simp only [Bool.and_eq_true, decide_eq_true_eq] at bounds
      exact .inr bounds
    · exact .inl rfl
  · exact .inl rfl

theorem repeats_few (text : String) : HitCount.repeatsIn text ≤ 60 := by
  rcases repeats_bounds text with once | ⟨-, few⟩ <;> omega

section Blast

variable (kit : Kit) (adjacent main : Detail) (named : isTalent (main.talent.getD "") = true)
  (low : ∀ p ∈ adjacent.pick, p ≤ 10) (low' : ∀ p ∈ main.pick, p ≤ 10)

include named low low'

def blastAmount (talent : String) : Expr :=
  Formula.plus (Formula.tablePart talent (main.table.getD "") (Float.ofNat (main.pick.getD 0)))
    (Formula.times (Formula.tablePart talent (adjacent.table.getD "") (Float.ofNat (adjacent.pick.getD 0))) (.natural 2))

omit named low low' in
theorem blast_expr_ok (e : Expr) (made : blastExpr kit adjacent main = .ok e) : ∃ stat text,
    Formula.damageStat kit (main.talent.getD "") (main.table.getD "") main.scaleStat = .ok stat ∧
      Text.normalizeMarkup ((kit.descriptions.find? (main.talent.getD "")).getD "") = .ok text ∧
      e = if 1 < HitCount.repeatsIn text then
          scaledResult (Formula.scaledDamage (blastAmount adjacent main (main.talent.getD "")) stat main.damageKey main.element)
            (Float.ofNat (HitCount.repeatsIn text))
        else Formula.scaledDamage (blastAmount adjacent main (main.talent.getD "")) stat main.damageKey main.element := by
  obtain ⟨stat, told, made⟩ := bind_ok _ _ _ made
  obtain ⟨n, counted, shape⟩ := bind_ok _ _ _ made
  obtain ⟨text, read, rfl⟩ := map_ok _ _ _ counted
  exact ⟨stat, text, told, read, (Except.ok.inj shape).symm⟩

theorem blast_composite (e : Expr) (made : blastExpr kit adjacent main = .ok e) : Composite e := by
  -- a row without a pick stands for the first part of its table
  have picked : ∀ pick : Option Nat, (∀ p ∈ pick, p ≤ 10) → pick.getD 0 ≤ 10 := by
    intro pick small
    cases pick with
    | none => decide
    | some p => exact small p rfl
  have part : ∀ table n, n ≤ 10 → Writable 4 (Formula.tablePart (main.talent.getD "") table (Float.ofNat n)) ∧
      ∀ engine scope, Stage engine scope →
        Gives engine scope (Formula.tablePart (main.talent.getD "") table (Float.ofNat n)) Nought := by
    intro table n small
    refine ⟨Formula.table_part_writable named table _ (Formula.natural_unsigned n (by omega)), fun engine scope stage => ?_⟩
    exact (Formula.table_part_gives stage _ _ _ (Render.natural_finite n (by omega))).mono fun _ => IsZero.nought
  obtain ⟨first, firstGives⟩ := part (main.table.getD "") (main.pick.getD 0) (picked _ low')
  obtain ⟨second, secondGives⟩ := part (adjacent.table.getD "") (adjacent.pick.getD 0) (picked _ low)
  have twice := second.binary .multiply (.number (Float.ofNat 2) (Formula.natural_unsigned 2 (by decide)))
  have amount := (first.mono (by decide)).binary .add twice
  obtain ⟨stat, text, told, -, rfl⟩ := blast_expr_ok kit adjacent main e made
  have writable : Writable 9 (Formula.scaledDamage (blastAmount adjacent main (main.talent.getD "")) stat main.damageKey
      main.element) :=
    Formula.scaled_damage_writable _ _ (Formula.damage_stat_known _ _ _ _ stat told) (by decide) amount
  have composite : Composite (Formula.scaledDamage (blastAmount adjacent main (main.talent.getD "")) stat main.damageKey
      main.element) := by
    refine ⟨writable.mono (by decide), (Formula.scaled_damage_crisp ..).1, fun engine scope stage => ?_⟩
    -- the table of the adjacent target counts twice
    have doubled := Formula.times_count_gives (secondGives engine scope stage)
      ((gives_number (Float.ofNat 2)).mono fun _ same => ⟨2, by decide, same⟩)
    exact Formula.scaled_damage_gives stage _ _ _
      (plus_gives (firstGives engine scope stage) (doubled.mono fun _ => IsZero.nought))
  split
  · exact Formula.scaled_result_composite writable composite _ (repeats_few text)
  · exact composite

theorem complete_row_derived (d : Detail) (made : completeRow kit adjacent main = .ok d) : IsDerived main d := by
  obtain ⟨e, found, rfl⟩ := map_ok _ _ _ made
  exact ⟨_, e, TableName.title_for_filled _ _ _ (filled_append _ _ (by decide)) (filled_append _ _ (by decide)),
    blast_composite kit adjacent main named low low' e found, rfl⟩

end Blast

end DamagePlan.Enrichment
