import DamagePlan.Proofs.Plan.Admitted
import DamagePlan.Proofs.Planning.Heuristic

/-!
When the heuristic plan is empty. A skill that speaks of shields or healing shows no damage, so that a plan may have no
rows although the skill has tables of damage.
-/
set_option autoImplicit false

namespace DamagePlan.Heuristic

open TableName Text

variable {kit : Kit}

def described (kit : Kit) (talent : String) : String :=
  ((normalizeMarkup ((kit.descriptions.find? talent).getD "")).toOption).getD ""

def supportKind? (kit : Kit) (talent : String) : Option DetailKind :=
  let text := described kit talent
  if shieldMarker.occursIn text || (kit.tablesOf talent).any shieldMarker.occursIn then some .shield
  else if isHealText text || (kit.tablesOf talent).any healMarker.occursIn then some .heal
  else none

def isSupportTable (kind : DetailKind) (table : String) : Bool :=
  (preferredSupport kind).occursIn table || flatSupport.occursIn table

/-- A skill or an ultimate that speaks of a kind of amount and has a table for it. -/
def Supports (kit : Kit) (talent : String) (kind : DetailKind) : Prop :=
  kit.game = .sr ∧ talent ∈ ["e", "q"] ∧ supportKind? kit talent = some kind ∧
    ∃ table ∈ kit.tablesOf talent, isSupportTable kind table = true

/-- A talent that shows damage: all but skills that speak of another amount. The further rows of an ultimate show its
damage in any case. -/
def ShowsDamage (kit : Kit) (talent : String) : Prop :=
  ¬(kit.game = .sr ∧ talent = "e" ∧ (supportKind? kit talent).isSome)

theorem support_kind_other (talent : String) (kind : DetailKind) (speaks : supportKind? kit talent = some kind) :
    kind ≠ .dmg ∧ kind ≠ .reaction := by
  unfold supportKind? at speaks
  dsimp only at speaks
  split at speaks
  · cases speaks
    decide
  · split at speaks
    · cases speaks
      decide
    · cases speaks

theorem ability_row_eq (talent chinese english : String) : abilityRow? kit (described kit talent) talent chinese english =
    match supportKind? kit talent with
    | some .shield => supportRow? talent (kit.tablesOf talent) .shield (chinese ++ "护盾量") (english ++ " Shield")
    | some _ => supportRow? talent (kit.tablesOf talent) .heal (chinese ++ "治疗量") (english ++ " Healing")
    | none => damageRow? kit talent (chinese ++ "伤害") (english ++ " DMG") := by
  unfold abilityRow? supportKind?
  dsimp only
  split
  · rfl
  · split <;> rfl

theorem damage_row_none_iff (talent chinese english : String) :
    damageRow? kit talent chinese english = none ↔ ∀ table ∈ kit.tablesOf talent, isDamage table = false := by
  rw [damageRow?, Option.map_eq_none_iff, pick_damage_none_iff]

theorem support_row_none_iff (talent : String) (tables : List String) (kind : DetailKind) (chinese english : String) :
    supportRow? talent tables kind chinese english = none ↔ ∀ table ∈ tables, isSupportTable kind table = false := by
  simp only [supportRow?, Option.map_eq_none_iff, Option.or_eq_none_iff, List.find?_eq_none, isSupportTable,
    Bool.or_eq_false_iff, Bool.not_eq_true]
  exact ⟨fun ⟨preferred, flat⟩ table among => ⟨preferred table among, flat table among⟩,
    fun neither => ⟨fun table among => (neither table among).1, fun table among => (neither table among).2⟩⟩

theorem ability_row_none_iff (talent chinese english : String) :
    abilityRow? kit (described kit talent) talent chinese english = none ↔
    (supportKind? kit talent = none → ∀ table ∈ kit.tablesOf talent, isDamage table = false) ∧
      ∀ kind, supportKind? kit talent = some kind → ∀ table ∈ kit.tablesOf talent, isSupportTable kind table = false := by
  rw [ability_row_eq]
  cases speaks : supportKind? kit talent with
  | none => simpa using damage_row_none_iff talent _ _
  | some kind =>
    obtain ⟨damage, reaction⟩ := support_kind_other talent kind speaks
    cases kind with
    | shield | heal => simpa using support_row_none_iff talent _ _ _ _
    | dmg => exact absurd rfl damage
    | reaction => exact absurd rfl reaction

theorem ability_row_kind (talent chinese english : String) (d : Detail)
    (made : abilityRow? kit (described kit talent) talent chinese english = some d) :
    d.talent = some talent ∧ d.kind = (supportKind? kit talent).getD .dmg := by
  rw [ability_row_eq] at made
  cases speaks : supportKind? kit talent with
  | none =>
    rw [speaks] at made
    obtain ⟨table, -, rfl⟩ := Option.map_eq_some_iff.mp made
    exact ⟨rfl, rfl⟩
  | some kind =>
    rw [speaks] at made
    obtain ⟨damage, reaction⟩ := support_kind_other talent kind speaks
    cases kind with
    | shield | heal =>
      obtain ⟨table, -, rfl⟩ := Option.map_eq_some_iff.mp made
      exact ⟨rfl, rfl⟩
    | dmg => exact absurd rfl damage
    | reaction => exact absurd rfl reaction

def ultimateRow (table : String) : Detail :=
  { title := table.replace "回合开始伤害" "附加伤害", talent := some "q", table := some table, key := some "q" }

theorem add_ultimate_cons (main : Option String) (rows : List Detail) (table : String) (rest : List String) :
    addUltimateRows main rows (table :: rest) =
      if maxRows ≤ rows.length then rows
      else if some table = main || !isDamage table then addUltimateRows main rows rest
      else addUltimateRows main (rows ++ [ultimateRow table]) rest := by
  simp only [addUltimateRows, ultimateRow]

theorem ultimate_rows_extend (main : Option String) (tables : List String) (rows : List Detail) :
    ∃ more, addUltimateRows main rows tables = rows ++ more ∧ ∀ d ∈ more, d.talent = some "q" ∧ d.kind = .dmg := by
  induction tables generalizing rows with
  | nil => exact ⟨[], (List.append_nil rows).symm, List.forall_mem_nil _⟩
  | cons table rest ih =>
    rw [add_ultimate_cons]
    split
    · exact ⟨[], (List.append_nil rows).symm, List.forall_mem_nil _⟩
    · split
      · exact ih rows
      · obtain ⟨more, extended, each⟩ := ih (rows ++ [ultimateRow table])
        rw [List.append_assoc, List.singleton_append] at extended
        exact ⟨_, extended, List.forall_mem_cons.mpr ⟨⟨rfl, rfl⟩, each⟩⟩

theorem ultimate_rows_few (main : Option String) (tables : List String) (rows : List Detail) (few : rows.length ≤ maxRows) :
    (addUltimateRows main rows tables).length ≤ maxRows := by
  induction tables generalizing rows with
  | nil => exact few
  | cons table rest ih =>
    rw [add_ultimate_cons]
    split
    · exact few
    · split
      · exact ih rows few
      · refine ih _ ?_
        rw [List.length_append, List.length_singleton]
        omega

theorem ultimate_rows_empty_iff (tables : List String) :
    addUltimateRows none [] tables = [] ↔ ∀ table ∈ tables, isDamage table = false := by
  induction tables with
  | nil => simp [addUltimateRows]
  | cons table rest ih =>
    rw [add_ultimate_cons, if_neg (by decide), List.forall_mem_cons]
    cases marked : isDamage table with
    | false => simpa using ih
    | true =>
      obtain ⟨more, extended, -⟩ := ultimate_rows_extend none rest [ultimateRow table]
      simp [extended]

def firstRows (kit : Kit) : List Detail :=
  (damageRow? kit "a" "普攻伤害" "Basic ATK DMG").toList ++ (abilityRow? kit (described kit "e") "e" "战技" "Skill").toList ++
    (abilityRow? kit (described kit "q") "q" "终结技" "Ultimate").toList

def mainTable? (rows : List Detail) : Option String :=
  (rows.find? fun d => d.talent = some "q" && d.kind = .dmg).bind (·.table)

def talentRow? (kit : Kit) : Option Detail :=
  (pickDamage? (kit.tablesOf "t")).map fun table =>
    let title := if (Pattern.exactly "反击").occursIn table then "反击伤害" else titleFor table "天赋伤害" "Talent DMG"
    { title, talent := some "t", table := some table, key := some "t" }

def rows (kit : Kit) : List Detail :=
  match kit.game with
  | .gs => (planGs kit).details
  | .sr => addUltimateRows (mainTable? (firstRows kit)) (firstRows kit) (kit.tablesOf "q") ++ (talentRow? kit).toList

theorem plain_description (descriptions plain : Fields String) (read : descriptions.mapM (fun (talent, text) =>
    (normalizeMarkup text).map (talent, ·)) = .ok plain) (talent : String) :
    normalizeMarkup ((descriptions.find? talent).getD "") = .ok ((plain.find? talent).getD "") := by
  induction descriptions generalizing plain with
  | nil =>
    have empty : normalizeMarkup "" = .ok "" := by decide +kernel
    cases read
    exact empty
  | cons entry rest ih =>
    obtain ⟨own, written⟩ := entry
    rw [List.mapM_cons] at read
    obtain ⟨first, made, read⟩ := bind_ok _ _ _ read
    obtain ⟨more, later, shape⟩ := bind_ok _ _ _ read
    obtain ⟨text, normal, rfl⟩ := map_ok _ _ _ made
    cases shape
    have rest_ := ih more later
    simp only [Fields.find?, List.lookup_cons] at rest_ ⊢
    cases talent == own with
    | true => exact normal
    | false => exact rest_

theorem sr_details (game : kit.game = .sr) (plain : Fields String) (read : plainDescriptions kit = .ok plain) :
    (planSr kit plain).details = rows kit := by
  have spoken (talent : String) : described kit talent = (plain.find? talent).getD "" := by
    rw [described, plain_description kit.descriptions plain read talent]
    rfl
  simp only [planSr, rows, game, firstRows, mainTable?, talentRow?, spoken]

theorem plan_rows (plan : Plan) (planned : Heuristic.plan kit = .ok plan) : plan.details = rows kit := by
  unfold Heuristic.plan at planned
  split at planned
  · rename_i game
    cases planned
    simp only [rows, game]
  · rename_i game
    obtain ⟨plain, read, rfl⟩ := map_ok _ _ _ planned
    exact sr_details game plain read

theorem gs_empty_iff : (planGs kit).details = [] ↔
    ∀ talent ∈ ["a", "e", "q"], ∀ table ∈ kit.tablesOf talent, isDamage table = false := by
  simp only [planGs, List.append_eq_nil_iff, Option.toList_eq_nil_iff, Option.map_eq_none_iff, damage_row_none_iff,
    List.forall_mem_cons]
  tauto

theorem ultimate_empty_iff : addUltimateRows (mainTable? (firstRows kit)) (firstRows kit) (kit.tablesOf "q") = [] ↔
    firstRows kit = [] ∧ ∀ table ∈ kit.tablesOf "q", isDamage table = false := by
  constructor
  · intro none
    obtain ⟨more, extended, -⟩ := ultimate_rows_extend (mainTable? (firstRows kit)) (kit.tablesOf "q") (firstRows kit)
    rw [extended] at none
    have empty := (List.append_eq_nil_iff.mp none).1
    rw [← extended, empty] at none
    exact ⟨empty, (ultimate_rows_empty_iff _).mp none⟩
  · rintro ⟨empty, undamaging⟩
    rw [empty]
    exact (ultimate_rows_empty_iff _).mpr undamaging

theorem talent_row_none_iff : talentRow? kit = none ↔ ∀ table ∈ kit.tablesOf "t", isDamage table = false := by
  rw [talentRow?, Option.map_eq_none_iff, pick_damage_none_iff]

theorem sr_empty_iff (game : kit.game = .sr) : rows kit = [] ↔
    (∀ talent ∈ ["a", "q", "t"], ∀ table ∈ kit.tablesOf talent, isDamage table = false) ∧
      abilityRow? kit (described kit "e") "e" "战技" "Skill" = none ∧
      abilityRow? kit (described kit "q") "q" "终结技" "Ultimate" = none := by
  rw [rows, game, List.append_eq_nil_iff, Option.toList_eq_nil_iff, ultimate_empty_iff, talent_row_none_iff]
  simp only [firstRows, List.append_eq_nil_iff, Option.toList_eq_nil_iff, damage_row_none_iff, List.forall_mem_cons,
    List.not_mem_nil, false_implies, implies_true, and_true]
  constructor
  · rintro ⟨⟨⟨⟨basic, skill⟩, ultimate⟩, further⟩, talent⟩
    exact ⟨⟨basic, further, talent⟩, skill, ultimate⟩
  · rintro ⟨⟨basic, further, talent⟩, skill, ultimate⟩
    exact ⟨⟨⟨⟨basic, skill⟩, ultimate⟩, further⟩, talent⟩

theorem rows_empty_iff : rows kit = [] ↔
    (∀ talent ∈ Talent.core kit.game, ShowsDamage kit talent → ∀ table ∈ kit.tablesOf talent, isDamage table = false) ∧
      ∀ talent kind, ¬Supports kit talent kind := by
  cases game : kit.game with
  | gs => simp [rows, gs_empty_iff, Talent.core, ShowsDamage, Supports, game]
  | sr =>
    simp only [sr_empty_iff game, ability_row_none_iff, Talent.core, List.forall_mem_cons, List.not_mem_nil, false_implies,
      implies_true, and_true]
    constructor
    · rintro ⟨⟨basic, further, talent⟩, ⟨skill, skillSupport⟩, ultimate, support⟩
      refine ⟨⟨fun _ => basic, fun shows => skill ?_, fun _ => further, fun _ => talent⟩, ?_⟩
      · by_contra speaks
        exact shows ⟨game, rfl, Option.ne_none_iff_isSome.mp speaks⟩
      · rintro talent kind ⟨-, known, speaks, table, among, named⟩
        have unnamed : isSupportTable kind table = false := by
          rcases List.mem_pair.mp known with rfl | rfl
          · exact skillSupport kind speaks table among
          · exact support kind speaks table among
        rw [unnamed] at named
        cases named
    · rintro ⟨⟨basic, skill, ultimate, talent⟩, none⟩
      have unsupported (talent : String) (known : talent ∈ ["e", "q"]) (kind : DetailKind)
          (speaks : supportKind? kit talent = some kind) : ∀ table ∈ kit.tablesOf talent, isSupportTable kind table = false := by
        intro table among
        by_contra named
        exact none talent kind ⟨game, known, speaks, table, among, by simpa using named⟩
      have shows (talent : String) (other : talent ≠ "e") : ShowsDamage kit talent := fun hidden => other hidden.2.1
      refine ⟨⟨basic (shows _ (by decide)), ultimate (shows _ (by decide)), talent (shows _ (by decide))⟩, ⟨fun silent => ?_, ?_⟩, ?_, ?_⟩
      · exact skill fun hidden => by simp [silent] at hidden
      · exact unsupported "e" (by decide)
      · exact fun _ => ultimate (shows _ (by decide))
      · exact unsupported "q" (by decide)

theorem ability_row_supports (game : kit.game = .sr) (talent chinese english : String) (known : talent ∈ ["e", "q"])
    (d : Detail) (made : abilityRow? kit (described kit talent) talent chinese english = some d) :
    d.talent = some talent ∧ (d.kind = .dmg ∨ Supports kit talent d.kind) := by
  obtain ⟨named, isKind⟩ := ability_row_kind talent chinese english d made
  refine ⟨named, ?_⟩
  cases speaks : supportKind? kit talent with
  | none =>
    rw [speaks] at isKind
    exact .inl isKind
  | some kind =>
    rw [speaks, Option.getD_some] at isKind
    subst isKind
    refine .inr ⟨game, known, speaks, ?_⟩
    by_contra none
    have unsupported : ∀ kind, supportKind? kit talent = some kind → ∀ table ∈ kit.tablesOf talent,
        isSupportTable kind table = false := by
      intro kind speaks' table among
      cases speaks.symm.trans speaks'
      exact Bool.eq_false_iff.mpr fun named => none ⟨table, among, named⟩
    have unmade := (ability_row_none_iff talent chinese english).mpr
      ⟨fun silent => (nomatch speaks.symm.trans silent), unsupported⟩
    rw [made] at unmade
    cases unmade

theorem sr_row_supports (game : kit.game = .sr) : ∀ d ∈ rows kit,
    d.kind = .dmg ∨ ∃ talent, d.talent = some talent ∧ Supports kit talent d.kind := by
  intro d member
  rw [rows, game] at member
  dsimp only at member
  obtain ⟨more, extended, each⟩ := ultimate_rows_extend (mainTable? (firstRows kit)) (kit.tablesOf "q") (firstRows kit)
  rw [extended] at member
  simp only [firstRows, List.mem_append, Option.mem_toList] at member
  rcases member with (((basic | skill) | ultimate) | further) | talent
  · obtain ⟨table, -, rfl⟩ := Option.map_eq_some_iff.mp basic
    exact .inl rfl
  · obtain ⟨named, shows⟩ := ability_row_supports game "e" _ _ (by decide) d skill
    exact shows.imp_right fun supports => ⟨"e", named, supports⟩
  · obtain ⟨named, shows⟩ := ability_row_supports game "q" _ _ (by decide) d ultimate
    exact shows.imp_right fun supports => ⟨"q", named, supports⟩
  · exact .inl (each d further).2
  · obtain ⟨table, -, rfl⟩ := Option.map_eq_some_iff.mp talent
    exact .inl rfl

theorem gs_row_damage : ∀ d ∈ (planGs kit).details, d.kind = .dmg := by
  intro d member
  simp only [planGs, List.mem_append, Option.mem_toList] at member
  rcases member with (skill | burst) | normal
  · obtain ⟨table, -, rfl⟩ := Option.map_eq_some_iff.mp skill
    rfl
  · obtain ⟨table, -, rfl⟩ := Option.map_eq_some_iff.mp burst
    rfl
  · obtain ⟨plain, made, rfl⟩ := Option.map_eq_some_iff.mp normal
    obtain ⟨table, -, rfl⟩ := Option.map_eq_some_iff.mp made
    rfl

theorem supports_iff_row (talent : String) (kind : DetailKind) :
    Supports kit talent kind ↔ kind ≠ .dmg ∧ ∃ d ∈ rows kit, d.talent = some talent ∧ d.kind = kind := by
  constructor
  · rintro ⟨game, known, speaks, table, among, named⟩
    refine ⟨(support_kind_other talent kind speaks).1, ?_⟩
    have made (chinese english : String) : ∃ d, abilityRow? kit (described kit talent) talent chinese english = some d ∧
        d.talent = some talent ∧ d.kind = kind := by
      cases made : abilityRow? kit (described kit talent) talent chinese english with
      | none =>
        have unnamed := ((ability_row_none_iff talent chinese english).mp made).2 kind speaks table among
        rw [unnamed] at named
        cases named
      | some d =>
        obtain ⟨own, isKind⟩ := ability_row_kind talent chinese english d made
        exact ⟨d, rfl, own, by rw [isKind, speaks, Option.getD_some]⟩
    obtain ⟨more, extended, -⟩ := ultimate_rows_extend (mainTable? (firstRows kit)) (kit.tablesOf "q") (firstRows kit)
    have first : ∀ d ∈ firstRows kit, d ∈ rows kit := by
      intro d member
      simp only [rows, game, extended, List.mem_append]
      exact .inl (.inl member)
    rcases List.mem_pair.mp known with rfl | rfl
    · obtain ⟨d, row, shows⟩ := made "战技" "Skill"
      exact ⟨d, first d (by simp [firstRows, row]), shows⟩
    · obtain ⟨d, row, shows⟩ := made "终结技" "Ultimate"
      exact ⟨d, first d (by simp [firstRows, row]), shows⟩
  · rintro ⟨other, d, member, named, rfl⟩
    cases game : kit.game with
    | gs =>
      rw [rows, game] at member
      exact absurd (gs_row_damage d member) other
    | sr =>
      rcases sr_row_supports game d member with damage | ⟨own, same, supports⟩
      · exact absurd damage other
      · cases named.symm.trans same
        exact supports

theorem row_kind_native : ∀ d ∈ rows kit, d.kind ≠ .reaction := by
  intro d member reaction
  cases game : kit.game with
  | gs =>
    rw [rows, game] at member
    have damage := gs_row_damage d member
    rw [reaction] at damage
    cases damage
  | sr =>
    rcases sr_row_supports game d member with damage | ⟨talent, -, -, -, speaks, -⟩
    · rw [reaction] at damage
      cases damage
    · exact (support_kind_other talent _ speaks).2 reaction

theorem listed_row_admitted (d : Detail) (fresh : Enrichment.Fresh kit d) (listed : kit.hasTable d.talent d.table = true)
    (other : d.kind ≠ .reaction) : d.Admitted where
  titled := fresh.titled
  asked := by
    have given : Detail.isGiven d.talent = true ∧ Detail.isGiven d.table = true := by
      unfold Kit.hasTable at listed
      split at listed
      · rename_i talent table isTalent isTable
        simp only [Bool.and_eq_true] at listed
        simp only [Detail.isGiven, isTalent, isTable, Option.any_some]
        exact listed.1
      · cases listed
    unfold Detail.hasKindFields
    split
    · rename_i reaction
      exact absurd reaction other
    · rw [given.1, given.2]
      rfl
  pick := by simp [fresh.pick]
  cons := by simp [fresh.cons]

theorem rows_few : (rows kit).length ≤ 13 := by
  have single (row? : Option Detail) : row?.toList.length ≤ 1 := by cases row? <;> simp
  unfold rows
  split
  · have skill := single (damageRow? kit "e" "E伤害" "E DMG")
    have burst := single (damageRow? kit "q" "Q伤害" "Q DMG")
    have normal := single ((damageRow? kit "a" "普攻伤害" "Normal Attack DMG").map fun d =>
      { d with element := if isCatalyst kit then none else some "phy" })
    simp only [planGs, List.length_append]
    omega
  · have basic := single (damageRow? kit "a" "普攻伤害" "Basic ATK DMG")
    have skill := single (abilityRow? kit (described kit "e") "e" "战技" "Skill")
    have ability := single (abilityRow? kit (described kit "q") "q" "终结技" "Ultimate")
    have first : (firstRows kit).length ≤ maxRows := by
      simp only [firstRows, List.length_append, maxRows]
      omega
    have ultimate := ultimate_rows_few (mainTable? (firstRows kit)) (kit.tablesOf "q") _ first
    have talent := single (talentRow? kit)
    rw [List.length_append]
    exact Nat.add_le_add ultimate talent

theorem plan_row_listed (plan : Plan) (planned : Heuristic.plan kit = .ok plan) (d : Detail) (member : d ∈ plan.details) :
    kit.hasTable d.talent d.table = true ∧ d.Admitted := by
  have native : d.kind ≠ .reaction := row_kind_native d (plan_rows plan planned ▸ member)
  have fresh := plan_fresh plan planned d member
  exact ⟨fresh.listed native, listed_row_admitted d fresh (fresh.listed native) native⟩

theorem plan_admitted (plan : Plan) (planned : Heuristic.plan kit = .ok plan) : plan.Admitted := by
  obtain ⟨attributes, plain⟩ := plan_frame plan planned
  have few : plan.details.length ≤ 13 := plan_rows plan planned ▸ rows_few
  refine ⟨attributes, fun d member => (plan_row_listed plan planned d member).2, ?_, few.trans (by decide), by simp [plain]⟩
  rw [plain]
  nofun

theorem plan_fails_iff (kit : Kit) : (∃ e, plan kit = .error e) ↔
    kit.game = .sr ∧ ∃ entry ∈ kit.descriptions, ∃ e, normalizeMarkup entry.2 = .error e := by
  constructor
  · rintro ⟨e, failed⟩
    have fails : Fails (fun _ => ∃ entry ∈ kit.descriptions, ∃ e, normalizeMarkup entry.2 = .error e)
        (plainDescriptions kit) :=
      fails_map_m _ _ fun entry member => fails_map _ _ fun e failed => ⟨entry, member, e, failed⟩
    unfold plan at failed
    split at failed
    · cases failed
    · rename_i game
      exact ⟨game, fails_map _ _ fails e failed⟩
  · rintro ⟨game, entry, member, e, failed⟩
    cases planned : plan kit with
    | error e => exact ⟨e, rfl⟩
    | ok p =>
      simp only [plan, game] at planned
      obtain ⟨plain, read, -⟩ := map_ok _ _ _ planned
      obtain ⟨made, -, normal⟩ := map_m_each _ _ _ read entry member
      obtain ⟨text, normal, -⟩ := map_ok _ _ _ normal
      rw [failed] at normal
      cases normal

/-- There is a plan unless a description that it reads holds too long a number. It has no rows if no core talent that
shows damage has a table of damage, and no skill or ultimate a table for the amount that it speaks of, which is when rows
of amounts are made. All rows are on the whitelist, there are few, and each row as well as the plan can be built of its
parts without an error. -/
theorem empty_plan_shows_nothing (kit : Kit) :
    ((∃ e, plan kit = .error e) ↔
      kit.game = .sr ∧ ∃ entry ∈ kit.descriptions, ∃ e, normalizeMarkup entry.2 = .error e) ∧
    ∀ p, plan kit = .ok p →
      (p.details = [] ↔
        (∀ talent ∈ Talent.core kit.game, ShowsDamage kit talent → ∀ table ∈ kit.tablesOf talent, isDamage table = false) ∧
          ∀ talent kind, ¬Supports kit talent kind) ∧
      (∀ talent kind, Supports kit talent kind ↔
        kind ≠ .dmg ∧ ∃ d ∈ p.details, d.talent = some talent ∧ d.kind = kind) ∧
      (∀ d ∈ p.details, kit.hasTable d.talent d.table = true ∧ Detail.ofJson (.obj d.toFields) = .valid d) ∧
      p.details.length ≤ 13 ∧
      Plan.build (.str p.mainAttrs) ((p.defaultDamageKey.map .str).getD .null) p.details p.buffs = .valid p := by
  refine ⟨plan_fails_iff kit, fun p planned => ?_⟩
  have admitted := plan_admitted p planned
  have listed (d : Detail) (member : d ∈ p.details) : kit.hasTable d.talent d.table = true :=
    (plan_row_listed p planned d member).1
  refine ⟨?_, ?_, fun d member => ⟨listed d member, (admitted.details d member).reads_back⟩, ?_, admitted.builds⟩
  · rw [plan_rows p planned]
    exact rows_empty_iff
  · rw [plan_rows p planned]
    exact supports_iff_row
  · rw [plan_rows p planned]
    exact rows_few

def shieldingKit : Kit :=
  { game := .sr, name := "X", tables := [("e", ["Skill DMG"])], descriptions := [("e", "Gains a shield.")] }

theorem shield_text_hides_damage : ¬∀ kit p, plan kit = .ok p → (p.details = [] ↔
    (∀ talent ∈ Talent.core kit.game, ∀ table ∈ kit.tablesOf talent, isDamage table = false) ∧
      (kit.game = .sr → ∀ d ∈ p.details, d.kind ≠ .heal ∧ d.kind ≠ .shield)) := by
  intro exact
  have empty : (plan shieldingKit).toOption.map (·.details.isEmpty) = some true := by decide +kernel
  obtain ⟨p, planned, none⟩ := evaluated_ok _ _ _ empty
  have damages : isDamage "Skill DMG" = true := by decide +kernel
  have undamaging := ((exact shieldingKit p planned).mp (List.isEmpty_iff.mp none)).1 "e" (by decide) "Skill DMG" (by decide)
  rw [damages] at undamaging
  cases undamaging

end DamagePlan.Heuristic
