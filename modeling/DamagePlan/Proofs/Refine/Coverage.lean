import DamagePlan.Proofs.Refine.History
import DamagePlan.Proofs.Refine.Protected

/-!
Coverage of core talents: in a plan with room left, a core talent with a damage table has a damage row, unless another
row took the title that the rule would give it, or its rows gave way to totals of all targets of another talent.
-/
set_option autoImplicit false

namespace DamagePlan.Enrichment

open Budget (titleKey SameWords known_row_alike)

def IsDamageOf (talent : String) (d : Detail) : Prop := d.kind = .dmg ∧ d.talent = some talent

def Covers (talent : String) (details : List Detail) : Prop := ∃ d ∈ details, IsDamageOf talent d

variable {kit : Kit} {b b' : Budget} {talent : String}

theorem Pushes.covers {M : Detail → Prop} (pushes : Pushes M b b') (room : b'.isFull = false)
    (covers : Covers talent b.details) : Covers talent b'.details := by
  obtain ⟨added, shape, -⟩ := pushes.appends room
  obtain ⟨d, member, damage⟩ := covers
  exact ⟨d, by rw [Budget.details, shape, List.map_append]; exact List.mem_append_left _ member, damage⟩

theorem find_damage_iff (b : Budget) (talent : String) :
    (b.find? { kind := some .dmg, talent := some talent }).isSome = true ↔ Covers talent b.details := by
  rw [Budget.find?, List.find?_isSome]
  constructor
  · rintro ⟨d, member, accepts⟩
    simp only [Budget.Query.accepts, Option.all_some, Option.all_none, Bool.and_true, Bool.and_eq_true,
      decide_eq_true_eq] at accepts
    exact ⟨d, member, accepts.1.symm, accepts.2.symm⟩
  · rintro ⟨d, member, kind, own⟩
    exact ⟨d, member, by simp [Budget.Query.accepts, kind, own]⟩

theorem core_row_damage (d : Detail) (made : coreRow? kit talent = some d) : IsDamageOf talent d := by
  obtain ⟨table, -, rfl⟩ := Option.map_eq_some_iff.mp made
  exact ⟨rfl, rfl⟩

def coreTitles (talent : String) : List String := [talentLetter talent ++ "伤害", talentLetter talent ++ " DMG"]

theorem core_row_titled (d : Detail) (made : coreRow? kit talent = some d) : d.title ∈ coreTitles talent := by
  obtain ⟨table, -, rfl⟩ := Option.map_eq_some_iff.mp made
  dsimp only
  unfold TableName.titleFor
  split
  · exact List.mem_cons_self
  · exact List.mem_cons_of_mem _ List.mem_cons_self

theorem core_titles_apart : ∀ game, ∀ talent ∈ Talent.core game, ∀ other ∈ Talent.core game, talent ≠ other →
    ∀ title ∈ coreTitles talent, ∀ title' ∈ coreTitles other, titleKey title ≠ titleKey title' := by
  intro game
  cases game <;> decide +kernel

def Titled (kit : Kit) (talent : String) (details : List Detail) : Prop :=
  ∃ core, coreRow? kit talent = some core ∧ ∃ d ∈ details, SameWords d.title core.title

theorem core_row_lands (core : Detail) (made : coreRow? kit talent = some core) (done : addCoreRow kit b talent = .ok b')
    (room : b'.isFull = false) : Covers talent b'.details ∨ ¬Covers talent b.details ∧ Titled kit talent b.details := by
  unfold addCoreRow at done
  split at done
  · rename_i found
    cases done
    exact .inl ((find_damage_iff b talent).mp found)
  · rename_i missing
    rw [find_damage_iff] at missing
    simp only [made] at done
    have grows := Budget.push_grows b core b' done
    obtain ⟨taken, adds⟩ := Budget.push_cases b core b' done
    cases adds with
    | known there =>
      obtain ⟨other, member, identity | title⟩ := known_row_alike there
      · obtain ⟨kind, own⟩ := core_row_damage core made
        refine absurd ⟨other.detail, List.mem_map_of_mem member, ?_, ?_⟩ missing
        · rw [← kind]
          exact congrArg Detail.Identity.kind identity
        · rw [← own]
          exact congrArg Detail.Identity.talent identity
      · exact .inr ⟨missing, core, made, other.detail, List.mem_map_of_mem member, title⟩
    | appended => exact .inl ⟨core, by simp [Budget.details], core_row_damage core made⟩
    | refused _ full => simp [full] at room
    | evicting _ full => simp [grows.full full] at room

theorem core_rows_cover (known : talent ∈ Talent.core kit.game) (core : Detail) (made : coreRow? kit talent = some core)
    (done : addCoreRows kit b = .ok b') (room : b'.isFull = false) :
    Covers talent b'.details ∨ ¬Covers talent b.details ∧ Titled kit talent b.details := by
  obtain ⟨earlier, later, split⟩ := List.append_of_mem known
  have part : earlier ⊆ Talent.core kit.game ∧ later ⊆ Talent.core kit.game := by
    rw [split]
    exact ⟨List.subset_append_left .., fun other member => List.mem_append_right _ (List.mem_cons_of_mem _ member)⟩
  -- the budgets to which the rule comes just before and just after the talent
  rw [addCoreRows, split, List.foldlM_append] at done
  obtain ⟨reached, ahead, done⟩ := bind_ok _ _ _ done
  rw [List.foldlM_cons] at done
  obtain ⟨next, here, behind⟩ := bind_ok _ _ _ done
  have before := core_fold_push kit earlier part.1 ahead
  have after := core_fold_push kit later part.2 behind
  have roomNext := after.grows.room room
  have roomReached := (core_row_pushes kit talent known here).grows.room roomNext
  rcases core_row_lands core made here roomNext with covers | ⟨missing, core', made', d, member, title⟩
  · exact .inl (after.covers room covers)
  · obtain ⟨added, shape, each⟩ := before.appends roomReached
    refine .inr ⟨fun covers => missing (before.covers roomReached covers), core', made', d, ?_, title⟩
    have rows : d ∈ b.details ++ added.map (·.detail) := by
      rwa [Budget.details, shape, List.map_append] at member
    rcases List.mem_append.mp rows with old | new
    · exact old
    -- core rows have titles of their own
    · obtain ⟨row, among, rfl⟩ := List.mem_map.mp new
      obtain ⟨other, known', made''⟩ := each row among
      have different : talent ≠ other := by
        rintro rfl
        exact missing ⟨row.detail, member, core_row_damage _ made''⟩
      obtain ⟨key, own, same⟩ := title
      exact absurd (same.trans own.symm) (core_titles_apart kit.game talent known other known' different _
        (core_row_titled core' made') _ (core_row_titled _ made''))

def Overlaid (kit : Kit) (rows : List Row) (full : Bool) (row row' : Row) : Prop :=
  row'.tag = row.tag ∧ (row'.detail = row.detail ∨ Overlays kit rows full row row'.detail)

/-- There are damage rows of a talent, and all of them are complete ones that totals of another talent go over. -/
def GivesWhole (kit : Kit) (talent : String) (rows : List Row) : Prop :=
  Covers talent (rows.map (·.detail)) ∧ ∀ row ∈ rows, IsDamageOf talent row.detail →
    completeMarker.occursIn row.detail.title = true ∧ ∃ d, Overlays kit rows false row d ∧ d.talent ≠ some talent

theorem overlay_damage {rows : List Row} {full : Bool} {old : Row} {d : Detail} (overlays : Overlays kit rows full old d) :
    d.kind = .dmg := by
  obtain ⟨group, ⟨⟨groups, grouped, member⟩, adjacent, main, pair, made⟩, -⟩ := overlays
  obtain ⟨-, far, -⟩ := blast_pair_among group adjacent main pair
  obtain ⟨e, -, rfl⟩ := map_ok _ _ _ made
  exact (blast_group_among rows groups grouped group member main far).2

theorem blasts_cover (orderly : Orderly b) (covers : Covers talent b.details) (done : addBlastTotals kit b = .ok b')
    (room : b'.isFull = false) : Covers talent b'.details ∨ GivesWhole kit talent b.rows := by
  obtain ⟨-, follows⟩ := blasts_succeed kit (R := Overlaid kit b.rows false) (fun _ => ⟨rfl, .inl rfl⟩)
    (fun _ _ step => step.1) orderly done fun old d overlays => ⟨rfl, .inr (room ▸ overlays)⟩
  refine or_iff_not_imp_left.mpr fun missing => ⟨covers, fun row member damage => ?_⟩
  obtain ⟨i, there⟩ := List.mem_iff_getElem?.mp member
  obtain ⟨row', there', -, step⟩ := follows i row there
  have among := List.mem_map_of_mem (f := (·.detail)) (List.mem_of_getElem? there')
  rcases step with same | overlays
  · exact absurd ⟨row'.detail, among, by rwa [same]⟩ missing
  · refine ⟨?_, row'.detail, overlays, fun own => missing ⟨row'.detail, among, overlay_damage overlays, own⟩⟩
    obtain ⟨group, -, -, complete | ⟨-, full⟩⟩ := overlays
    · exact complete
    · cases full

theorem opening_covers (details : List Detail) : Covers talent (details.map (opening kit)) ↔ Covers talent details := by
  have same : ∀ d, IsDamageOf talent (opening kit d) ↔ IsDamageOf talent d := by
    intro d
    unfold opening
    split
    · rcases burst_state_row_shape d with stays | ⟨-, -, ⟨key, title, params, shape⟩, -⟩
      · rw [stays]
      · rw [shape]
        rfl
    · rfl
  simp [Covers, same]

theorem few_details (policy : EvictionPolicy) (details : List Detail)
    (grows : Budget.Grows (Budget.ofDetails Plan.maxDetails policy details) b) (room : b.isFull = false) : details.length < Plan.maxDetails := by
  have begun := grows.room room
  have positive : ¬(Plan.maxDetails : Int) < 0 := by omega
  simp only [Budget.isFull, Budget.ofDetails, Budget.ofRows, positive, if_false, Int.toNat_natCast, List.length_take,
    Budget.tagged, List.length_map, List.length_zipIdx, decide_eq_false_iff_not] at begun
  omega

/-- In an enriched plan with room left, a core talent with a damage table has a damage row, but for two cases: the plan
had none and a row of it had the title of the row that would be added, or all of them were complete ones that totals of
another talent went over. -/
theorem core_talents_covered (kit : Kit) (details : List Detail) :
    (Legible kit → (∀ d ∈ details, Readable d) → ∃ enriched, enrich kit details = .ok enriched) ∧
      ∀ enriched, enrich kit details = .ok enriched → enriched.length < Plan.maxDetails →
        ∀ talent ∈ Talent.core kit.game, ∀ table, TableName.pickDamage? (kit.tablesOf talent) = some table →
          Covers talent enriched ∨
          ¬Covers talent details ∧ Titled kit talent (details.map (opening kit)) ∨
          ∃ stages : Stages kit details .default Plan.maxDetails enriched, GivesWhole kit talent stages.totalled.rows := by
  constructor
  · intro legible each
    obtain ⟨enriched, made, -⟩ := enrichment_total legible details each .default Plan.maxDetails
    exact ⟨enriched, made⟩
  intro enriched made few talent known table picked
  obtain ⟨stages⟩ := enriched_stages kit details enriched _ _ made
  obtain ⟨core, core_made⟩ : ∃ core, coreRow? kit talent = some core := by
    rw [coreRow?, picked]
    exact ⟨_, rfl⟩
  -- the budgets on the way, each of which grows to the next one
  obtain ⟨opened, cored, opens, cores, pushes⟩ := first_rules_push kit _ stages.filled stages.fills
  obtain ⟨blasted, blasts, last⟩ := last_rules_push kit stages.totalled stages.finished stages.finishes
  have opensGrow := opened_grows kit _ opened opens
  have coresGrow := (core_rows_push kit cores).grows
  have added := pushes.trans ((multi_hit_totals_push kit stages.totals).mono fun _ _ => trivial)
  obtain ⟨groups, -, folded⟩ := bind_ok _ _ _ blasts
  have blastsGrow := blast_groups_grow kit groups stages.totalled blasted folded
  have grows := opensGrow.trans (coresGrow.trans (added.grows.trans (blastsGrow.trans last.grows)))
  have ends := stages.ends
  have room : stages.finished.isFull = false := by
    have cap : stages.finished.cap = Plan.maxDetails := grows.cap
    rw [ends] at few
    simpa [Budget.isFull, cap, Budget.details] using few
  have roomBlasts := last.grows.room room
  have roomAdded := blastsGrow.room roomBlasts
  obtain ⟨orderly, rows⟩ := of_details_orderly details (Nat.le_of_lt (few_details _ details grows room))
  rcases core_rows_cover known core core_made cores (added.grows.room roomAdded) with covers | ⟨missing, titled⟩
  · have begun := (opened_budget_opens kit orderly opens).1
    have sheltered := (multi_hit_totals_push kit stages.totals).shelter
      (pushes.shelter ((core_rows_push kit cores).shelter begun.shelters))
    rcases blasts_cover sheltered.toOrderly (added.covers roomAdded covers) blasts roomBlasts with kept | gives
    · exact .inl (ends ▸ last.covers room kept)
    · exact .inr (.inr ⟨stages, gives⟩)
  · rw [opened_details kit _ opened opens, Budget.details, rows, Budget.tagged_details] at missing titled
    rw [opening_covers] at missing
    exact .inr (.inl ⟨missing, titled⟩)

def twoTalentsKit : Kit where
  game := .gs
  name := "X"
  tables := [("e", ["Skill DMG"]), ("q", ["Burst DMG"])]

def misnamedRows : List Detail := [{ title := "Q DMG", talent := some "e", table := some "Skill DMG" }]

theorem misnamed_rows_alone : ∃ enriched, enrich twoTalentsKit misnamedRows = .ok enriched ∧
    enriched.map (fun d => (d.kind, d.talent)) = [(.dmg, some "e")] :=
  evaluated_ok _ _ _ (by decide +kernel)

theorem burst_table_picked : TableName.pickDamage? (twoTalentsKit.tablesOf "q") = some "Burst DMG" := by decide +kernel

theorem misnamed_rows_leave_out_burst : ¬∀ enriched, enrich twoTalentsKit misnamedRows = .ok enriched →
    enriched.length < Plan.maxDetails → ∀ talent ∈ Talent.core twoTalentsKit.game, ∀ table,
      TableName.pickDamage? (twoTalentsKit.tablesOf talent) = some table → Covers talent enriched := by
  intro always
  obtain ⟨enriched, made, rows⟩ := misnamed_rows_alone
  have few : enriched.length = 1 := by simpa using congrArg List.length rows
  obtain ⟨d, member, kind, own⟩ := always enriched made (by rw [few]; decide) "q" (by decide) "Burst DMG" burst_table_picked
  have among : (d.kind, d.talent) ∈ [(DetailKind.dmg, some "e")] := rows ▸ List.mem_map_of_mem member
  simp [own] at among

theorem misnamed_rows_explained : ∃ enriched, enrich twoTalentsKit misnamedRows = .ok enriched ∧
    enriched.length < Plan.maxDetails ∧
    (Covers "q" enriched ∨
      ¬Covers "q" misnamedRows ∧ Titled twoTalentsKit "q" (misnamedRows.map (opening twoTalentsKit)) ∨
      ∃ stages : Stages twoTalentsKit misnamedRows .default Plan.maxDetails enriched,
        GivesWhole twoTalentsKit "q" stages.totalled.rows) := by
  obtain ⟨enriched, made, rows⟩ := misnamed_rows_alone
  have few : enriched.length < Plan.maxDetails := by
    have one : enriched.length = 1 := by simpa using congrArg List.length rows
    rw [one]
    decide
  exact ⟨enriched, made, few, (core_talents_covered twoTalentsKit misnamedRows).2 enriched made few "q" (by decide)
    "Burst DMG" burst_table_picked⟩

end DamagePlan.Enrichment
