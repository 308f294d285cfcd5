import DamagePlan.Proofs.Refine.Titles

/-!
The heuristic plan: all of its rows are fresh rows of the kit's tables, and their titles can be read if the names of these can.
-/
set_option autoImplicit false

namespace DamagePlan.Heuristic

open TableName
open Text (append_filled filled_append)
open Enrichment (Fresh)

variable {kit : Kit}

theorem damage_row_made (talent chinese english : String) (named : talent ≠ "") (titles : chinese ≠ "" ∧ english ≠ "")
    (d : Detail) (made : damageRow? kit talent chinese english = some d) :
    Fresh kit d ∧ ∀ element : Option String, (∀ e ∈ element, e ∈ Reaction.elementOverrides kit.game) →
      Fresh kit { d with element } := by
  obtain ⟨table, picked, rfl⟩ := Option.map_eq_some_iff.mp made
  obtain ⟨there, marked⟩ := pick_damage_among _ _ picked
  have titled := title_for_filled table chinese english titles.1 titles.2
  exact ⟨Enrichment.damage_row_fresh kit talent table _ _ none named there marked titled nofun,
    fun element known => Enrichment.damage_row_fresh kit talent table _ _ element named there marked titled known⟩

theorem plan_gs_fresh (game : kit.game = .gs) : ∀ d ∈ (planGs kit).details, Fresh kit d := by
  intro d member
  simp only [planGs, List.mem_append, Option.mem_toList] at member
  rcases member with (skill | burst) | normal
  · exact (damage_row_made "e" _ _ (by decide) (by decide) d skill).1
  · exact (damage_row_made "q" _ _ (by decide) (by decide) d burst).1
  · obtain ⟨plain, made, rfl⟩ := Option.map_eq_some_iff.mp normal
    refine (damage_row_made "a" _ _ (by decide) (by decide) plain made).2 _ fun e own => ?_
    split at own
    · cases own
    · cases own
      exact Enrichment.physical_known kit.game game

theorem support_row_made (talent : String) (kind : DetailKind) (chinese english : String) (other : kind ≠ .reaction)
    (named : talent ≠ "") (titles : chinese ≠ "" ∧ english ≠ "") (d : Detail)
    (made : supportRow? talent (kit.tablesOf talent) kind chinese english = some d) : Fresh kit d := by
  obtain ⟨table, found, rfl⟩ := Option.map_eq_some_iff.mp made
  have among : table ∈ kit.tablesOf talent ∧
      ((preferredSupport kind).occursIn table = true ∨ flatSupport.occursIn table = true) := by
    rcases Option.or_eq_some_iff.mp found with preferred | ⟨-, flat⟩
    · exact ⟨List.mem_of_find?_eq_some preferred, .inl (List.find?_some preferred)⟩
    · exact ⟨List.mem_of_find?_eq_some flat, .inr (List.find?_some flat)⟩
  have filled : table ≠ "" := by
    rintro rfl
    have preferred : (preferredSupport kind).occursIn "" = false := by cases kind <;> decide +kernel
    have flat : flatSupport.occursIn "" = false := by decide +kernel
    simp [preferred, flat] at among
  exact Enrichment.amount_row_fresh kit kind talent table _ _ _ other named among.1 filled
    (title_for_filled _ _ _ titles.1 titles.2)

theorem ability_row_made (description talent chinese english : String) (named : talent ≠ "") (d : Detail)
    (made : abilityRow? kit description talent chinese english = some d) : Fresh kit d := by
  unfold abilityRow? at made
  dsimp only at made
  split at made
  · exact support_row_made talent .shield _ _ (by decide) named
      ⟨filled_append _ _ (by decide), filled_append _ _ (by decide)⟩ d made
  · split at made
    · exact support_row_made talent .heal _ _ (by decide) named
        ⟨filled_append _ _ (by decide), filled_append _ _ (by decide)⟩ d made
    · exact (damage_row_made talent _ _ named ⟨filled_append _ _ (by decide), filled_append _ _ (by decide)⟩ d made).1

theorem ultimate_rows_fresh (main : Option String) (tables : List String) (inside : ∀ table ∈ tables, table ∈ kit.tablesOf "q")
    (rows : List Detail) (each : ∀ d ∈ rows, Fresh kit d) : ∀ d ∈ addUltimateRows main rows tables, Fresh kit d := by
  induction tables generalizing rows with
  | nil => exact each
  | cons table more ih =>
    have rest := ih fun other member => inside other (List.mem_cons_of_mem _ member)
    unfold addUltimateRows
    split
    · exact each
    · split
      · exact rest rows each
      · rename_i unused
        simp only [Bool.or_eq_true, decide_eq_true_eq, Bool.not_eq_true', not_or, Bool.not_eq_false] at unused
        refine rest _ fun d member => ?_
        rcases List.mem_append.mp member with old | added
        · exact each d old
        · rw [List.mem_singleton.mp added]
          have filled := damage_filled table unused.2
          exact Enrichment.damage_row_fresh kit "q" table _ _ none (by decide) (inside table List.mem_cons_self) unused.2
            (Text.replace_nonempty table _ _ (by decide) (by decide) filled) nofun

theorem talent_row_made (d : Detail) (made : (pickDamage? (kit.tablesOf "t")).map (fun table =>
    let title := if (Text.Pattern.exactly "反击").occursIn table then "反击伤害" else titleFor table "天赋伤害" "Talent DMG"
    ({ title, talent := some "t", table := some table, key := some "t" } : Detail)) = some d) : Fresh kit d := by
  obtain ⟨table, picked, rfl⟩ := Option.map_eq_some_iff.mp made
  obtain ⟨there, marked⟩ := pick_damage_among _ _ picked
  refine Enrichment.damage_row_fresh kit "t" table _ _ none (by decide) there marked ?_ nofun
  split
  · decide
  · exact title_for_filled _ _ _ (by decide) (by decide)

theorem plan_sr_fresh (descriptions : Fields String) : ∀ d ∈ (planSr kit descriptions).details, Fresh kit d := by
  intro d member
  unfold planSr at member
  dsimp only at member
  rcases List.mem_append.mp member with row | talent
  · refine ultimate_rows_fresh _ (kit.tablesOf "q") (fun _ among => among) _ (fun first member => ?_) d row
    simp only [List.mem_append, Option.mem_toList] at member
    rcases member with (basic | skill) | ultimate
    · exact (damage_row_made "a" _ _ (by decide) (by decide) first basic).1
    · exact ability_row_made _ "e" _ _ (by decide) first skill
    · exact ability_row_made _ "q" _ _ (by decide) first ultimate
  · exact talent_row_made d (Option.mem_toList.mp talent)

theorem plan_fresh (plan : Plan) (planned : Heuristic.plan kit = .ok plan) : ∀ d ∈ plan.details, Fresh kit d := by
  unfold Heuristic.plan at planned
  split at planned
  · rename_i game
    cases planned
    exact plan_gs_fresh game
  · obtain ⟨descriptions, -, rfl⟩ := map_ok _ _ _ planned
    exact plan_sr_fresh descriptions

theorem plan_frame (plan : Plan) (planned : Heuristic.plan kit = .ok plan) : plan.mainAttrs ≠ "" ∧ plan.buffs = [] := by
  unfold Heuristic.plan at planned
  split at planned
  · cases planned
    exact ⟨show ",".intercalate mainAttrs ≠ "" by decide, rfl⟩
  · obtain ⟨plain, -, rfl⟩ := map_ok _ _ _ planned
    refine ⟨?_, rfl⟩
    unfold planSr
    dsimp only
    split <;> split <;> decide

section Titles

open Text (Brief brief_plain)
open Enrichment (Readable brief_readable title_for_plain)

theorem damage_row_plain (talent chinese english : String) (plain : '&' ∉ chinese.toList ∧ '&' ∉ english.toList) (d : Detail)
    (made : damageRow? kit talent chinese english = some d) : '&' ∉ d.title.toList := by
  obtain ⟨table, -, rfl⟩ := Option.map_eq_some_iff.mp made
  exact title_for_plain table chinese english plain

theorem ability_row_plain (description talent chinese english : String)
    (plain : '&' ∉ chinese.toList ∧ '&' ∉ english.toList) (d : Detail)
    (made : abilityRow? kit description talent chinese english = some d) : '&' ∉ d.title.toList := by
  have behind (chinese' english' : String) (words : '&' ∉ chinese'.toList ∧ '&' ∉ english'.toList) :
      '&' ∉ (chinese ++ chinese').toList ∧ '&' ∉ (english ++ english').toList := by
    simp [String.toList_append, plain, words]
  have support (kind : DetailKind) (chinese' english' : String) (words : '&' ∉ chinese'.toList ∧ '&' ∉ english'.toList)
      (made : supportRow? talent (kit.tablesOf talent) kind (chinese ++ chinese') (english ++ english') = some d) :
      '&' ∉ d.title.toList := by
    obtain ⟨table, -, rfl⟩ := Option.map_eq_some_iff.mp made
    exact title_for_plain table _ _ (behind _ _ words)
  unfold abilityRow? at made
  dsimp only at made
  split at made
  · exact support .shield _ _ (by decide) made
  · split at made
    · exact support .heal _ _ (by decide) made
    · exact damage_row_plain talent _ _ (behind _ _ (by decide)) d made

theorem ultimate_rows_readable (main : Option String) (tables : List String) (named : ∀ table ∈ tables, Brief 2 table.toList)
    (rows : List Detail) (each : ∀ d ∈ rows, Readable d) : ∀ d ∈ addUltimateRows main rows tables, Readable d := by
  induction tables generalizing rows with
  | nil => exact each
  | cons table more ih =>
    have rest := ih fun other member => named other (List.mem_cons_of_mem _ member)
    unfold addUltimateRows
    split
    · exact each
    · split
      · exact rest rows each
      · refine rest _ fun d member => ?_
        rcases List.mem_append.mp member with old | added
        · exact each d old
        · rw [List.mem_singleton.mp added]
          have rewrites := Text.replace_rewrites table "回合开始伤害" "附加伤害" (by decide)
          exact brief_readable ((named table List.mem_cons_self).milder (rewrites.milder ⟨by decide, by decide⟩))

theorem plan_readable (named : ∀ talent, ∀ table ∈ kit.tablesOf talent, Brief 2 table.toList) (plan : Plan)
    (planned : Heuristic.plan kit = .ok plan) : ∀ d ∈ plan.details, Readable d := by
  have bare (d : Detail) (plain : '&' ∉ d.title.toList) : Readable d := brief_readable (brief_plain plain 2)
  unfold Heuristic.plan at planned
  split at planned
  · cases planned
    intro d member
    simp only [planGs, List.mem_append, Option.mem_toList] at member
    rcases member with (skill | burst) | normal
    · exact bare d (damage_row_plain "e" _ _ (by decide) d skill)
    · exact bare d (damage_row_plain "q" _ _ (by decide) d burst)
    · obtain ⟨own, made, rfl⟩ := Option.map_eq_some_iff.mp normal
      exact bare _ (damage_row_plain "a" _ _ (by decide) own made)
  · obtain ⟨descriptions, -, rfl⟩ := map_ok _ _ _ planned
    intro d member
    unfold planSr at member
    dsimp only at member
    rcases List.mem_append.mp member with row | talent
    · refine ultimate_rows_readable _ _ (named "q") _ (fun first member => ?_) d row
      simp only [List.mem_append, Option.mem_toList] at member
      rcases member with (basic | skill) | ultimate
      · exact bare first (damage_row_plain "a" _ _ (by decide) first basic)
      · exact bare first (ability_row_plain _ "e" _ _ (by decide) first skill)
      · exact bare first (ability_row_plain _ "q" _ _ (by decide) first ultimate)
    · obtain ⟨table, -, rfl⟩ := Option.map_eq_some_iff.mp (Option.mem_toList.mp talent)
      refine bare _ ?_
      dsimp only
      split
      · decide
      · exact title_for_plain _ _ _ (by decide)

end Titles

end DamagePlan.Heuristic
