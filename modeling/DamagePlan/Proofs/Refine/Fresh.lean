import Mathlib.Data.List.Basic
import DamagePlan.Proofs.Json.Fields
import DamagePlan.Proofs.Planning.TableName
import DamagePlan.Proofs.Steps
import DamagePlan.Proofs.Text.Replacing
import DamagePlan.Refine.Enrichment

/-!
Fresh rows: what rules make from the tables of a kit and the texts of its reactions.
-/
set_option autoImplicit false

namespace DamagePlan.Enrichment

open TableName
open Text (append_filled filled_append)

/-- A row of a table of the kit, or of a reaction, that has a title and nothing else of its own. -/
structure Fresh (kit : Kit) (d : Detail) : Prop where
  titled : d.title ≠ ""
  listed : d.kind ≠ .reaction → kit.hasTable d.talent d.table = true
  reacts : d.kind = .reaction → ∃ id ∈ d.reaction, id ∈ Reaction.ids kit.game ∧ id ∉ Reaction.amplifying
  element : ∀ e ∈ d.element, e ∈ Reaction.elementOverrides kit.game
  pick : d.pick = none
  params : d.params = none
  check : d.check = none
  raw : d.raw = none
  cons : d.cons = none

theorem table_listed (kit : Kit) (talent table : String) (named : talent ≠ "") (filled : table ≠ "")
    (there : table ∈ kit.tablesOf talent) : kit.hasTable (some talent) (some table) = true := by
  simp [Kit.hasTable, named, filled, there]

theorem marked_filled (kind : DetailKind) (table : String) (marked : (supportMarker kind).occursIn table = true) :
    table ≠ "" := by
  rintro rfl
  have unmarked : (supportMarker kind).occursIn "" = false := by cases kind <;> decide +kernel
  rw [unmarked] at marked
  cases marked

theorem damage_row_fresh (kit : Kit) (talent table title : String) (key element : Option String) (named : talent ≠ "")
    (there : table ∈ kit.tablesOf talent) (marked : isDamage table = true) (titled : title ≠ "")
    (known : ∀ e ∈ element, e ∈ Reaction.elementOverrides kit.game) :
    Fresh kit { title, talent := some talent, table := some table, key, element } where
  titled := titled
  listed _ := table_listed kit talent table named (damage_filled table marked) there
  reacts := nofun
  element := known
  pick := rfl
  params := rfl
  check := rfl
  raw := rfl
  cons := rfl

theorem amount_row_fresh (kit : Kit) (kind : DetailKind) (talent table title : String) (key scaleStat : Option String)
    (other : kind ≠ .reaction) (named : talent ≠ "") (there : table ∈ kit.tablesOf talent) (filled : table ≠ "")
    (titled : title ≠ "") :
    Fresh kit { title, kind, talent := some talent, table := some table, key, scaleStat } where
  titled := titled
  listed _ := table_listed kit talent table named filled there
  reacts same := absurd same other
  element := nofun
  pick := rfl
  params := rfl
  check := rfl
  raw := rfl
  cons := rfl

theorem physical_known (game : Game) (same : game = .gs) : "phy" ∈ Reaction.elementOverrides game := by
  subst same
  decide

section Rows

variable (kit : Kit)

theorem core_row_fresh (talent : String) (core : talent ∈ Talent.core kit.game) (d : Detail)
    (made : coreRow? kit talent = some d) : Fresh kit d := by
  obtain ⟨table, picked, rfl⟩ := Option.map_eq_some_iff.mp made
  obtain ⟨there, marked⟩ := pick_damage_among _ _ picked
  have named : talent ≠ "" := by
    rintro rfl
    cases game : kit.game <;> simp [game, Talent.core] at core
  refine damage_row_fresh kit talent table _ _ _ named there marked
    (title_for_filled _ _ _ (filled_append _ _ (by decide)) (filled_append _ _ (by decide))) ?_
  intro e own
  split at own
  · rename_i physical
    simp only [Bool.and_eq_true, decide_eq_true_eq] at physical
    cases own
    exact physical_known kit.game physical.1.1
  · cases own

theorem support_table_among (kind : DetailKind) (talent table : String)
    (found : supportTable? kit kind talent = some table) :
    table ∈ kit.tablesOf talent ∧ (supportMarker kind).occursIn table = true := by
  have among : table ∈ (kit.tablesOf talent).filter fun t =>
      (supportMarker kind).occursIn t && !sideMarker.occursIn t := by
    unfold supportTable? at found
    dsimp only at found
    rcases Option.or_eq_some_iff.mp found with preferred | ⟨-, first⟩
    · split at preferred
      · exact List.mem_of_find?_eq_some preferred
      · exact List.mem_of_find?_eq_some preferred
    · exact List.mem_of_head? first
  simp only [List.mem_filter, Bool.and_eq_true] at among
  exact ⟨among.1, among.2.1⟩

theorem support_row_fresh (kind : DetailKind) (talent : String) (other : kind ≠ .reaction) (known : talent = "e" ∨ talent = "q")
    (d : Detail) (made : supportRow? kit kind talent = .ok (some d)) : Fresh kit d := by
  obtain ⟨table, found, made⟩ := option_map_m_ok _ _ _ made
  obtain ⟨stat, -, rfl⟩ := map_ok _ _ _ made
  obtain ⟨there, marked⟩ := support_table_among kit kind talent table found
  have letter : talentLetter talent ≠ "" ∧ talent ≠ "" := by rcases known with rfl | rfl <;> decide
  exact amount_row_fresh kit kind talent table _ _ _ other letter.2 there (marked_filled kind table marked)
    (title_for_filled _ _ _ (append_filled _ _ letter.1) (append_filled _ _ (append_filled _ _ letter.1)))

theorem alias_row_fresh (game : kit.game = .gs) (entry : Alias) (known : entry ∈ aliases) (d : Detail)
    (made : aliasRow? kit entry = some d) : Fresh kit d := by
  obtain ⟨table, found, rfl⟩ := Option.map_eq_some_iff.mp made
  have there := List.mem_of_find?_eq_some found
  have marked := List.find?_some found
  simp only [Bool.and_eq_true] at marked
  have titles : entry.chinese ≠ "" ∧ entry.english ≠ "" := by
    simp only [aliases, List.mem_cons, List.not_mem_nil, or_false] at known
    rcases known with rfl | rfl <;> decide
  refine damage_row_fresh kit "a" table _ _ _ (by decide) there marked.2 (title_for_filled _ _ _ titles.1 titles.2) ?_
  intro e own
  split at own
  · cases own
  · cases own
    exact physical_known kit.game game

theorem transformative_row_fresh (game : kit.game = .gs) (d : Detail) (made : transformativeRow? kit = some d) :
    Fresh kit d := by
  unfold transformativeRow? at made
  split at made
  · cases made
  · obtain ⟨reaction, found, rfl⟩ := Option.map_eq_some_iff.mp made
    obtain ⟨triggered, -⟩ := Option.filter_eq_some_iff.mp found
    have known : ∀ entry ∈ Reaction.transformedBy, entry.2 ∈ Reaction.ids .gs ∧ entry.2 ∉ Reaction.amplifying := by decide
    -- titles are looked up in one table or the other, by the language of the kit
    have worded : ∀ entry ∈ reactionTitlesChinese ++ Reaction.titles, entry.2 ≠ "" := by decide
    have titled : ∀ (titles : List (String × String)) (fallback : String), titles ⊆ reactionTitlesChinese ++ Reaction.titles →
        fallback ≠ "" → (titles.lookup reaction).getD fallback ≠ "" := by
      intro titles fallback part filled
      cases entry : titles.lookup reaction with
      | none => exact filled
      | some title =>
        exact worded _ (part (Fields.found_entry _ _ _ entry))
    refine { titled := ?_, listed := fun other => absurd rfl other, reacts := fun _ => ⟨reaction, rfl, ?_⟩,
             element := nofun, pick := rfl, params := rfl, check := rfl, raw := rfl, cons := rfl }
    · dsimp only
      split
      · exact titled _ _ (List.subset_append_left _ _) (by decide)
      · exact titled _ _ (List.subset_append_right _ _) (by decide)
    · rw [game]
      exact known _ (Fields.found_entry _ _ _ triggered)

end Rows

end DamagePlan.Enrichment
