import DamagePlan.Proofs.Render.TableFormula
import DamagePlan.Proofs.Text.Replacing

/-!
Healing and shield formulas that are split over two tables: when the two halves agree on which tables belong together.
-/
set_option autoImplicit false

namespace DamagePlan.Formula

open Script

variable {kit : Kit} {talent table percent flat : String}

def asAdded (table : String) : String := table.replace "基础" "附加"

def asBase (table : String) : String := table.replace "附加" "基础"

def SaysBase (table : String) : Prop := "基础".toList <:+: table.toList

def SaysAdded (table : String) : Prop := "附加".toList <:+: table.toList

theorem words_apart : (∀ c ∈ "基础".toList, c ∉ "附加".toList) ∧ ∀ c ∈ "附加".toList, c ∉ "基础".toList := by simp

theorem as_added_changes : asAdded table ≠ table ↔ SaysBase table :=
  Text.replace_changes_iff table _ _ (by decide) (by decide) words_apart.1

theorem as_base_changes : asBase table ≠ table ↔ SaysAdded table :=
  Text.replace_changes_iff table _ _ (by decide) (by decide) words_apart.2

theorem as_added_lacks (table : String) : ¬SaysBase (asAdded table) :=
  Text.replace_removes table _ _ (by decide) (by decide) words_apart.1

theorem as_base_lacks (table : String) : ¬SaysAdded (asBase table) :=
  Text.replace_removes table _ _ (by decide) (by decide) words_apart.2

theorem as_base_as_added (only : ¬SaysAdded table) : asBase (asAdded table) = table :=
  Text.replace_undone table _ _ (by decide) '附' '加' rfl (by decide) only

theorem as_added_as_base (only : ¬SaysBase table) : asAdded (asBase table) = table :=
  Text.replace_undone table _ _ (by decide) '基' '础' rfl (by decide) only

theorem as_added_same (only : ¬SaysBase table) : asAdded table = table := not_not.mp (mt as_added_changes.mp only)

def isPercentOnly (table : String) : Bool := percentName.occursIn table && !flatName.occursIn table

theorem gs_pair (game : kit.game = .gs) : supportPair? kit talent table =
    if asAdded table != table && (kit.tablesOf talent).contains (asAdded table) then some (asAdded table, table)
    else if asBase table != table && (kit.tablesOf talent).contains (asBase table) then some (table, asBase table)
    else none := by
  simp only [supportPair?, game]
  rfl

theorem sr_pair (game : kit.game = .sr) : supportPair? kit talent table =
    if flatName.occursIn table then ((kit.tablesOf talent).find? isPercentOnly).map (·, table)
    else if percentName.occursIn table then ((kit.tablesOf talent).find? flatName.occursIn).map (table, ·)
    else none := by
  simp only [supportPair?, game]
  rfl

structure Mutual (kit : Kit) (talent percent flat : String) : Prop where
  ofPercent : supportPair? kit talent percent = some (percent, flat)
  ofFlat : supportPair? kit talent flat = some (percent, flat)

/-- What it takes for the halves of a table's pair to agree. In one game the table's name may not speak of base amounts
as well as of added ones; in the other the pair must be the talent's first percentage table and its first flat table. -/
def Matched (kit : Kit) (talent table percent flat : String) : Prop :=
  match kit.game with
  | .gs => ¬(SaysBase table ∧ SaysAdded table)
  | .sr => (kit.tablesOf talent).find? isPercentOnly = some percent ∧
      (kit.tablesOf talent).find? flatName.occursIn = some flat

section Gs

variable (game : kit.game = .gs)

include game

theorem gs_pair_cases (pair : supportPair? kit talent table = some (percent, flat)) :
    SaysBase table ∧ percent = asAdded table ∧ flat = table ∧ percent ∈ kit.tablesOf talent ∨
      SaysAdded table ∧ percent = table ∧ flat = asBase table ∧ flat ∈ kit.tablesOf talent := by
  rw [gs_pair game] at pair
  split at pair
  · rename_i added
    simp only [Bool.and_eq_true, bne_iff_ne, List.contains_iff_mem] at added
    cases pair
    exact .inl ⟨as_added_changes.mp added.1, rfl, rfl, added.2⟩
  · split at pair
    · rename_i base
      simp only [Bool.and_eq_true, bne_iff_ne, List.contains_iff_mem] at base
      cases pair
      exact .inr ⟨as_base_changes.mp base.1, rfl, rfl, base.2⟩
    · cases pair

theorem base_pair (base : SaysBase table) (other : asAdded table ∈ kit.tablesOf talent) :
    supportPair? kit talent table = some (asAdded table, table) := by
  rw [gs_pair game, if_pos]
  simp [as_added_changes.mpr base, other]

theorem added_pair (only : ¬SaysBase table) (added : SaysAdded table) (other : asBase table ∈ kit.tablesOf talent) :
    supportPair? kit talent table = some (table, asBase table) := by
  rw [gs_pair game, if_neg, if_pos]
  · simp [as_base_changes.mpr added, other]
  · simp [as_added_same only]

theorem gs_mutual_iff (listed : table ∈ kit.tablesOf talent) (pair : supportPair? kit talent table = some (percent, flat)) :
    Mutual kit talent percent flat ↔ ¬(SaysBase table ∧ SaysAdded table) := by
  rcases gs_pair_cases game pair with ⟨base, rfl, rfl, other⟩ | ⟨added, rfl, rfl, other⟩
  · constructor
    · rintro agree ⟨-, added⟩
      rcases gs_pair_cases game agree.ofPercent with ⟨again, -⟩ | ⟨-, -, back, -⟩
      · exact as_added_lacks _ again
      · exact as_base_lacks _ (back ▸ added)
    · intro one
      have only : ¬SaysAdded flat := fun added => one ⟨base, added⟩
      have back := as_base_as_added only
      have changed : SaysAdded (asAdded flat) := as_base_changes.mp (back.symm ▸ (as_added_changes.mpr base).symm)
      refine ⟨?_, pair⟩
      have own := added_pair game (as_added_lacks flat) changed (back.symm ▸ listed)
      rwa [back] at own
  · constructor
    · rintro agree ⟨base, -⟩
      rcases gs_pair_cases game agree.ofFlat with ⟨-, back, -⟩ | ⟨again, -⟩
      · exact as_added_lacks _ (back ▸ base)
      · exact as_base_lacks _ again
    · intro one
      have only : ¬SaysBase percent := fun base => one ⟨base, added⟩
      have back := as_added_as_base only
      have changed : SaysBase (asBase percent) := as_added_changes.mp (back.symm ▸ (as_base_changes.mpr added).symm)
      refine ⟨pair, ?_⟩
      have own := base_pair game changed (back.symm ▸ listed)
      rwa [back] at own

end Gs

section Sr

variable (game : kit.game = .sr)

include game

theorem sr_pair_cases (pair : supportPair? kit talent table = some (percent, flat)) :
    flatName.occursIn table = true ∧ flat = table ∧ (kit.tablesOf talent).find? isPercentOnly = some percent ∨
      isPercentOnly table = true ∧ percent = table ∧ (kit.tablesOf talent).find? flatName.occursIn = some flat := by
  rw [sr_pair game] at pair
  split at pair
  · rename_i isFlat
    obtain ⟨first, found, same⟩ := Option.map_eq_some_iff.mp pair
    cases same
    exact .inl ⟨isFlat, rfl, found⟩
  · rename_i notFlat
    split at pair
    · rename_i isPercent
      obtain ⟨first, found, same⟩ := Option.map_eq_some_iff.mp pair
      cases same
      exact .inr ⟨by simp [isPercentOnly, isPercent, notFlat], rfl, found⟩
    · cases pair

theorem flat_pair (isFlat : flatName.occursIn table = true) :
    supportPair? kit talent table = ((kit.tablesOf talent).find? isPercentOnly).map (·, table) := by
  rw [sr_pair game, if_pos isFlat]

theorem percent_pair (isPercent : isPercentOnly table = true) :
    supportPair? kit talent table = ((kit.tablesOf talent).find? flatName.occursIn).map (table, ·) := by
  simp only [isPercentOnly, Bool.and_eq_true, Bool.not_eq_true'] at isPercent
  rw [sr_pair game, if_neg (by simp [isPercent.2]), if_pos isPercent.1]

theorem sr_mutual_iff (pair : supportPair? kit talent table = some (percent, flat)) :
    Mutual kit talent percent flat ↔ (kit.tablesOf talent).find? isPercentOnly = some percent ∧
      (kit.tablesOf talent).find? flatName.occursIn = some flat := by
  rcases sr_pair_cases game pair with ⟨isFlat, rfl, found⟩ | ⟨isPercent, rfl, found⟩
  · have own : supportPair? kit talent percent = some (percent, flat) ↔
        (kit.tablesOf talent).find? flatName.occursIn = some flat := by
      rw [percent_pair game (List.find?_some found)]
      simp
    exact ⟨fun agree => ⟨found, own.mp agree.ofPercent⟩, fun ⟨_, first⟩ => ⟨own.mpr first, pair⟩⟩
  · have own : supportPair? kit talent flat = some (percent, flat) ↔
        (kit.tablesOf talent).find? isPercentOnly = some percent := by
      rw [flat_pair game (List.find?_some found)]
      simp
    exact ⟨fun agree => ⟨own.mp agree.ofFlat, found⟩, fun ⟨first, _⟩ => ⟨pair, own.mpr first⟩⟩

end Sr

theorem mutual_iff (listed : table ∈ kit.tablesOf talent) (pair : supportPair? kit talent table = some (percent, flat)) :
    Mutual kit talent percent flat ↔ Matched kit talent table percent flat := by
  unfold Matched
  split
  · rename_i game
    exact gs_mutual_iff game listed pair
  · rename_i game
    exact sr_mutual_iff game pair

theorem pair_listed (listed : table ∈ kit.tablesOf talent) (pair : supportPair? kit talent table = some (percent, flat)) :
    percent ∈ kit.tablesOf talent ∧ flat ∈ kit.tablesOf talent ∧ (table = percent ∨ table = flat) := by
  cases game : kit.game with
  | gs =>
    rcases gs_pair_cases game pair with ⟨-, -, rfl, other⟩ | ⟨-, rfl, -, other⟩
    · exact ⟨other, listed, .inr rfl⟩
    · exact ⟨listed, other, .inl rfl⟩
  | sr =>
    rcases sr_pair_cases game pair with ⟨-, rfl, found⟩ | ⟨-, rfl, found⟩
    · exact ⟨List.mem_of_find?_eq_some found, listed, .inr rfl⟩
    · exact ⟨listed, List.mem_of_find?_eq_some found, .inl rfl⟩

theorem map_injective {ε α β : Type} (f : α → β) (apart : ∀ a b, f a = f b → a = b) (x y : Except ε α) :
    x.map f = y.map f ↔ x = y := by
  refine ⟨fun same => ?_, congrArg _⟩
  cases x with
  | error e =>
    cases y with
    | error e' => cases same; rfl
    | ok b => cases same
  | ok a =>
    cases y with
    | error e => cases same
    | ok b => rw [apart a b (Except.ok.inj same)]

theorem mutual_amounts (agree : Mutual kit talent percent flat) (scaleStat : Option String) :
    supportAmount kit talent percent scaleStat = supportAmount kit talent flat scaleStat ↔
      supportStat kit talent percent scaleStat = supportStat kit talent flat scaleStat := by
  have split : ∀ table, supportPair? kit talent table = some (percent, flat) → supportAmountOf kit talent table =
      fun stat => plus (shareOf stat (tablePart talent percent 0)) (tablePart talent flat (if kit.game = .gs then 1 else 0)) := by
    intro table pair
    unfold supportAmountOf
    rw [pair]
  unfold supportAmount
  rw [split percent agree.ofPercent, split flat agree.ofFlat]
  refine map_injective _ (fun stat other same => ?_) _ _
  simpa [plus, shareOf, times, statTotal, Expr.callName, Expr.path] using same

/-- The tables that a split formula is read from are tables of the talent, and the one asked for is one of them. The
halves agree on them exactly if they match; then they make one amount wherever they scale with one stat, and no other
percentage table that matches the flat table goes with it. -/
theorem split_support_tables (kit : Kit) (talent table percent flat : String) (listed : table ∈ kit.tablesOf talent)
    (pair : supportPair? kit talent table = some (percent, flat)) :
    (percent ∈ kit.tablesOf talent ∧ flat ∈ kit.tablesOf talent ∧ (table = percent ∨ table = flat)) ∧
    (Mutual kit talent percent flat ↔ Matched kit talent table percent flat) ∧
    (Matched kit talent table percent flat →
      (∀ scaleStat, supportAmount kit talent percent scaleStat = supportAmount kit talent flat scaleStat ↔
        supportStat kit talent percent scaleStat = supportStat kit talent flat scaleStat) ∧
      ∀ table' ∈ kit.tablesOf talent, ∀ percent', supportPair? kit talent table' = some (percent', flat) →
        Matched kit talent table' percent' flat → percent' = percent) := by
  have agree := mutual_iff listed pair
  refine ⟨pair_listed listed pair, agree, fun matched => ⟨mutual_amounts (agree.mpr matched), ?_⟩⟩
  intro table' listed' percent' pair' matched'
  have own := (agree.mpr matched).ofFlat
  rw [((mutual_iff listed' pair').mpr matched').ofFlat] at own
  exact congrArg Prod.fst (Option.some.inj own)

def healingKit : Kit := { game := .sr, name := "X", tables := [("e", ["Heal Percent", "Heal Flat"])] }

theorem healing_pair : supportPair? healingKit "e" "Heal Flat" = some ("Heal Percent", "Heal Flat") := by decide

theorem healing_tables_agree : "Heal Flat" ∈ healingKit.tablesOf "e" ∧
    supportPair? healingKit "e" "Heal Flat" = some ("Heal Percent", "Heal Flat") ∧
    Mutual healingKit "e" "Heal Percent" "Heal Flat" := by
  have listed : "Heal Flat" ∈ healingKit.tablesOf "e" := by decide
  refine ⟨listed, healing_pair, (split_support_tables healingKit "e" _ _ _ listed healing_pair).2.1.mpr ?_⟩
  exact ⟨by decide, by decide⟩

def guardianKit : Kit :=
  { game := .sr, name := "X", tables := [("e", ["Heal Percent", "Heal Flat", "Shield Percent", "Shield Flat"])] }

theorem shield_paired_with_healing : ¬∀ (kit : Kit) (talent table percent flat : String), table ∈ kit.tablesOf talent →
    supportPair? kit talent table = some (percent, flat) →
      supportPair? kit talent percent = some (percent, flat) ∧ supportPair? kit talent flat = some (percent, flat) := by
  intro always
  have mixed : supportPair? guardianKit "e" "Shield Flat" = some ("Heal Percent", "Shield Flat") := by decide
  have healed : supportPair? guardianKit "e" "Heal Percent" = some ("Heal Percent", "Heal Flat") := by decide
  have agreed := (always guardianKit "e" "Shield Flat" _ _ (by decide) mixed).1
  rw [healed] at agreed
  simp at agreed

end DamagePlan.Formula
