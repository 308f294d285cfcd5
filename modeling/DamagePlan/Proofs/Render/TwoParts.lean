import DamagePlan.Proofs.Planning.Scaling
import DamagePlan.Proofs.Render.TableFormula
import DamagePlan.Proofs.Script.Failing

/-!
Schemas of two parts: which value texts are read as two shares, or as a share and a flat amount, and which parts of the
table their formulas read.
-/
set_option autoImplicit false

namespace DamagePlan

namespace Scaling

def Schema.IsTwoPart : Schema → Prop
  | .statStat _ _ | .statFlat _ => True
  | .statTimes _ | .percentList _ => False

def OneStat (parts : List String) : Prop :=
  (∀ part ∈ parts, hasPercent part = true) ∧ ∃ stat, ∀ part ∈ parts, ∀ spoken ∈ statOfText? part, spoken = stat

inductive Paired (first second : String) : Schema → Prop
  | shares {stat other : String} (percent : hasPercent first = true) (percent' : hasPercent second = true)
      (speaks : statOfText? first = some stat) (speaks' : statOfText? second = some other) :
      Paired first second (.statStat stat other)
  | flat {stat : String} (percent : hasPercent first = true) (plain : hasPercent second = false)
      (speaks : statOfText? first = some stat) (silent : statOfText? second = none)
      (counts : second.toList.any Text.isDecimalDigit = true) : Paired first second (.statFlat stat)

inductive Completed (unit first second : String) : Schema → Prop
  | second {stat : String} (speaks : statOfText? first = some stat) (silent : statOfText? second = none)
      (other : unit ≠ stat) : Completed unit first second (.statStat stat unit)
  | first {stat : String} (silent : statOfText? first = none) (speaks : statOfText? second = some stat)
      (other : unit ≠ stat) : Completed unit first second (.statStat unit stat)

/-- Parts of which the first two make a schema although more follow: neither are all of them percentages of one stat,
nor does anything look at how many they are. -/
def Overlooks (parts : List String) (schema : Schema) : Prop :=
  ∃ first second third more, parts = first :: second :: third :: more ∧ ¬OneStat parts ∧ Paired first second schema

theorem mixed_schema_iff (first second : String) (schema : Schema) :
    mixedSchema first second = some schema ↔ Paired first second schema := by
  constructor
  · intro found
    unfold mixedSchema at found
    split at found
    · rename_i s t speaks speaks'
      split at found
      · rename_i percents
        rw [Bool.and_eq_true] at percents
        cases found
        exact .shares percents.1 percents.2 speaks speaks'
      · cases found
    · rename_i s speaks silent
      split at found
      · rename_i flat
        simp only [Bool.and_eq_true, Bool.not_eq_true'] at flat
        cases found
        exact .flat flat.1.1 flat.2 speaks silent flat.1.2
      · cases found
    · cases found
  · intro paired
    cases paired with
    | shares percent percent' speaks speaks' => simp [mixedSchema, speaks, speaks', percent, percent']
    | flat percent plain speaks silent counts =>
      simp only [mixedSchema, speaks, silent, percent, plain, counts, Bool.true_and, Bool.not_false, if_true]

theorem stats_agree_iff (parts : List String) :
    (parts.filterMap statOfText?).all (· == (parts.filterMap statOfText?).head?.getD "atk") = true ↔
      ∃ stat, ∀ part ∈ parts, ∀ spoken ∈ statOfText? part, spoken = stat := by
  have spoken (stat : String) : (∀ other ∈ parts.filterMap statOfText?, other = stat) ↔
      ∀ part ∈ parts, ∀ spoken ∈ statOfText? part, spoken = stat := by
    simp only [List.mem_filterMap, Option.mem_def, forall_exists_index, and_imp]
    exact ⟨fun agree part among other speaks => agree other part among speaks,
      fun agree other part among speaks => agree part among other speaks⟩
  simp only [List.all_eq_true, beq_iff_eq]
  constructor
  · intro agree
    exact ⟨_, (spoken _).mp agree⟩
  · rintro ⟨stat, agree⟩ other among
    -- the first stat that a part speaks of is the one that all of them speak of
    have all := (spoken stat).mpr agree
    cases found : (parts.filterMap statOfText?).head? with
    | none =>
      rw [List.head?_eq_none_iff.mp found] at among
      cases among
    | some head => rw [Option.getD_some, all other among, all head (List.mem_of_head? found)]

theorem percent_two_part_iff (unitStat : Option String) (parts : List String) (schema : Schema) (two : schema.IsTwoPart)
    (one : ∃ stat, ∀ part ∈ parts, ∀ spoken ∈ statOfText? part, spoken = stat) :
    percentSchema unitStat parts = some schema ↔
      ∃ first second, parts = [first, second] ∧ ∃ unit ∈ unitStat, Completed unit first second schema := by
  have agree := (stats_agree_iff parts).mpr one
  unfold percentSchema
  dsimp only
  rw [agree, Bool.not_true, if_neg Bool.false_ne_true, Option.some.injEq]
  constructor
  · intro found
    split at found
    · rename_i first second unit
      refine ⟨first, second, rfl, unit, rfl, ?_⟩
      split at found
      · rename_i stat speaks silent
        split at found
        · rw [← found] at two
          exact two.elim
        · rename_i other
          rw [← found]
          exact .second speaks silent (by simpa using other)
      · rename_i stat silent speaks
        split at found
        · rw [← found] at two
          exact two.elim
        · rename_i other
          rw [← found]
          exact .first silent speaks (by simpa using other)
      · rw [← found] at two
        exact two.elim
    · rw [← found] at two
      exact two.elim
  · rintro ⟨first, second, rfl, unit, rfl, completed⟩
    cases completed with
    | second speaks silent other => simp [speaks, silent, other]
    | first silent speaks other => simp [speaks, silent, other]

theorem percent_schema_none_iff (unitStat : Option String) (parts : List String) :
    percentSchema unitStat parts = none ↔ ¬∃ stat, ∀ part ∈ parts, ∀ spoken ∈ statOfText? part, spoken = stat := by
  rw [← stats_agree_iff]
  unfold percentSchema
  dsimp only
  split <;> simp_all

section Summed

variable {unitStat : Option String} {parts : List String} {first second : String} {more : List String} {schema : Schema}

theorem summed_one_stat (one : OneStat (first :: second :: more)) :
    summedSchema? unitStat (first :: second :: more) = percentSchema unitStat (first :: second :: more) := by
  simp only [summedSchema?, List.all_eq_true.mpr one.1, if_true]
  cases percents : percentSchema unitStat (first :: second :: more) with
  | none => exact ((percent_schema_none_iff _ _).mp percents one.2).elim
  | some found => rfl

theorem summed_other (other : ¬OneStat (first :: second :: more)) :
    summedSchema? unitStat (first :: second :: more) = mixedSchema first second := by
  simp only [summedSchema?]
  by_cases percents : ∀ part ∈ first :: second :: more, hasPercent part = true
  · rw [(percent_schema_none_iff _ _).mpr fun agree => other ⟨percents, agree⟩, ite_self, Option.none_or]
  · rw [if_neg (mt List.all_eq_true.mp percents), Option.none_or]

theorem summed_parts (found : summedSchema? unitStat parts = some schema) :
    ∃ first second more, parts = first :: second :: more := by
  unfold summedSchema? at found
  split at found
  · exact ⟨_, _, _, rfl⟩
  · cases found

theorem summed_two_part_iff (two : schema.IsTwoPart) : summedSchema? unitStat parts = some schema ↔
    (∃ first second, parts = [first, second] ∧ OneStat [first, second] ∧
      ∃ unit ∈ unitStat, Completed unit first second schema) ∨
    ∃ first second more, parts = first :: second :: more ∧ ¬OneStat (first :: second :: more) ∧
      Paired first second schema := by
  constructor
  · intro found
    obtain ⟨first, second, more, rfl⟩ := summed_parts found
    by_cases one : OneStat (first :: second :: more)
    · rw [summed_one_stat one] at found
      obtain ⟨_, _, same, completed⟩ := (percent_two_part_iff _ _ _ two one.2).mp found
      cases same
      exact .inl ⟨first, second, rfl, one, completed⟩
    · rw [summed_other one, mixed_schema_iff] at found
      exact .inr ⟨first, second, more, rfl, one, found⟩
  · rintro (⟨first, second, rfl, one, completed⟩ | ⟨first, second, more, rfl, other, paired⟩)
    · rw [summed_one_stat one]
      exact (percent_two_part_iff _ _ _ two one.2).mpr ⟨first, second, rfl, completed⟩
    · rw [summed_other other]
      exact (mixed_schema_iff _ _ _).mpr paired

theorem summed_two_part_count (two : schema.IsTwoPart) (found : summedSchema? unitStat parts = some schema) :
    parts.length ≠ 2 ↔ Overlooks parts schema := by
  constructor
  · intro miscounted
    rcases (summed_two_part_iff two).mp found with
      ⟨first, second, split, -⟩ | ⟨first, second, more, split, other, paired⟩
    · exact (miscounted (by rw [split]; rfl)).elim
    · cases more with
      | nil => exact (miscounted (by rw [split]; rfl)).elim
      | cons third more => exact ⟨first, second, third, more, split, split ▸ other, paired⟩
  · rintro ⟨first, second, third, more, split, -, -⟩ counted
    rw [split] at counted
    simp at counted

theorem summed_overlooked (overlooks : Overlooks parts schema) : summedSchema? unitStat parts = some schema := by
  obtain ⟨first, second, third, more, rfl, other, paired⟩ := overlooks
  rw [summed_other other]
  exact (mixed_schema_iff _ _ _).mpr paired

end Summed

theorem two_part_schema_iff (kit : Kit) (talent table : String) (found : Schema) (two : found.IsTwoPart) :
    schema kit talent table = .ok (some found) ↔ ∃ text unit, valueText kit talent table = .ok text ∧
      sampledHits kit talent table text = .ok none ∧ unitOf kit talent table = .ok unit ∧
      summedSchema? (statOfText? unit) (plusParts text) = some found := by
  rw [schema_ok_iff]
  constructor
  · rintro ⟨text, hits, read, counted, schemes⟩
    generalize same : some found = result at schemes
    cases schemes with
    | counted n =>
      cases same
      exact two.elim
    | single => cases same
    | summed _ unit told => exact ⟨text, unit, read, counted, told, rfl⟩
  · rintro ⟨text, unit, read, counted, told, summed⟩
    obtain ⟨first, second, more, split⟩ := summed_parts summed
    have several : 2 ≤ (plusParts text).length := by simp [split]
    have schemes : Schemes kit talent table text none _ := .summed several unit told
    rw [summed] at schemes
    exact ⟨text, none, read, counted, schemes⟩

end Scaling

namespace Formula

open Script

section Within

variable {part : Expr}

theorem within_name {id : String} : part.Within (.name id) ↔ part = .name id :=
  ⟨fun within => by cases within; rfl, fun same => same ▸ .whole⟩

theorem within_string {s : String} : part.Within (.string s) ↔ part = .string s :=
  ⟨fun within => by cases within; rfl, fun same => same ▸ .whole⟩

theorem within_number {x : Float} : part.Within (.number x) ↔ part = .number x :=
  ⟨fun within => by cases within; rfl, fun same => same ▸ .whole⟩

theorem within_member {obj : Expr} {name : String} :
    part.Within (.member obj name) ↔ part = .member obj name ∨ part.Within obj := by
  constructor
  · intro within
    cases within with
    | whole => exact .inl rfl
    | member _ inner => exact .inr inner
  · rintro (rfl | inner)
    · exact .whole
    · exact .member name inner

theorem within_index {obj key : Expr} :
    part.Within (.index obj key) ↔ part = .index obj key ∨ part.Within obj ∨ part.Within key := by
  constructor
  · intro within
    cases within with
    | whole => exact .inl rfl
    | object inner => exact .inr (.inl inner)
    | key inner => exact .inr (.inr inner)
  · rintro (rfl | inner | inner)
    · exact .whole
    · exact .object inner
    · exact .key inner

theorem within_call {func : Expr} {args : List Expr} :
    part.Within (.call func args) ↔ part = .call func args ∨ part.Within func ∨ ∃ arg ∈ args, part.Within arg := by
  constructor
  · intro within
    cases within with
    | whole => exact .inl rfl
    | function inner => exact .inr (.inl inner)
    | argument among inner => exact .inr (.inr ⟨_, among, inner⟩)
  · rintro (rfl | inner | ⟨arg, among, inner⟩)
    · exact .whole
    · exact .function inner
    · exact .argument among inner

theorem within_binary {op : BinaryOp} {left right : Expr} :
    part.Within (.binary op left right) ↔ part = .binary op left right ∨ part.Within left ∨ part.Within right := by
  constructor
  · intro within
    cases within with
    | whole => exact .inl rfl
    | left inner => exact .inr (.inl inner)
    | right inner => exact .inr (.inr inner)
  · rintro (rfl | inner | inner)
    · exact .whole
    · exact .left inner
    · exact .right inner

theorem within_conditional {test consequent alternative : Expr} :
    part.Within (.conditional test consequent alternative) ↔ part = .conditional test consequent alternative ∨
      part.Within test ∨ part.Within consequent ∨ part.Within alternative := by
  constructor
  · intro within
    cases within with
    | whole => exact .inl rfl
    | test inner => exact .inr (.inl inner)
    | consequent inner => exact .inr (.inr (.inl inner))
    | alternative inner => exact .inr (.inr (.inr inner))
  · rintro (rfl | inner | inner | inner)
    · exact .whole
    · exact .test inner
    · exact .consequent inner
    · exact .alternative inner

end Within

def DamageRow.Picks (row : DamageRow) (e : Expr) (position : Float) : Prop :=
  (pickPart row.talent row.table position).Within e

section Picks

variable {row : DamageRow} {e : Expr} {position : Float}

theorem picks_part (x : Float) : row.Picks (pickPart row.talent row.table x) position ↔ position = x := by
  simp [DamageRow.Picks, pickPart, Expr.callName, tableRef, within_call, within_name, within_number, within_index,
    within_member, within_string]

theorem picks_name (id : String) : ¬row.Picks (.name id) position := by
  simp [DamageRow.Picks, pickPart, Expr.callName, within_name]

theorem picks_call {func : Expr} {args : List Expr} (other : func ≠ .name "pick") :
    row.Picks (.call func args) position ↔ row.Picks func position ∨ ∃ arg ∈ args, row.Picks arg position := by
  simp [DamageRow.Picks, pickPart, Expr.callName, within_call, Ne.symm other]

theorem picks_call_name {function : String} {arg : Expr} (other : function ≠ "pick") :
    row.Picks (.callName function [arg]) position ↔ row.Picks arg position := by
  rw [Expr.callName, picks_call (by simpa using other)]
  simp [picks_name]

theorem picks_table : ¬row.Picks (tableRef row.talent row.table) position := by
  simp [DamageRow.Picks, pickPart, Expr.callName, tableRef, within_name, within_index, within_member, within_string]

theorem picks_stat (stat : String) : ¬row.Picks (statTotal stat) position := by
  simp [DamageRow.Picks, pickPart, Expr.callName, statTotal, Expr.path, within_call, within_name, within_member]

theorem picks_binary {op : BinaryOp} {left right : Expr} :
    row.Picks (.binary op left right) position ↔ row.Picks left position ∨ row.Picks right position := by
  simp [DamageRow.Picks, pickPart, Expr.callName, within_binary]

theorem picks_conditional {test consequent alternative : Expr} :
    row.Picks (.conditional test consequent alternative) position ↔
      row.Picks test position ∨ row.Picks consequent position ∨ row.Picks alternative position := by
  simp [DamageRow.Picks, pickPart, Expr.callName, within_conditional]

theorem picks_share (stat : String) : row.Picks (shareOf stat e) position ↔ row.Picks e position := by
  simp [shareOf, times, toRatio, picks_binary, picks_stat, picks_call_name]

theorem picks_damage_call {func : Expr} (amount : Expr) (other : func ≠ .name "pick") (still : ¬row.Picks func position) :
    row.Picks (.call func (amount :: damageArguments row.key row.element)) position ↔ row.Picks amount position := by
  have texts : ∀ arg ∈ damageArguments row.key row.element, ∃ s, arg = .string s := by
    unfold damageArguments
    split
    · split <;> simp
    · simp
  have rest : ¬∃ arg ∈ damageArguments row.key row.element, row.Picks arg position := by
    rintro ⟨arg, among, picks⟩
    obtain ⟨s, rfl⟩ := texts arg among
    simp [DamageRow.Picks, pickPart, Expr.callName, within_string] at picks
  rw [picks_call other, List.exists_mem_cons_iff]
  simp only [still, rest, false_or, or_false]

theorem picks_basic (amount : Expr) : row.Picks (basicDamageCall amount row.key row.element) position ↔ row.Picks amount position :=
  picks_damage_call amount (by simp [Expr.path]) (by
    simp [DamageRow.Picks, pickPart, Expr.callName, Expr.path, within_member, within_name])

theorem picks_scaled (amount : Expr) (stat : String) : row.Picks (row.scaled amount stat) position ↔ row.Picks amount position := by
  unfold DamageRow.scaled scaledDamage
  split
  · exact picks_damage_call amount (by simp) (picks_name "dmg")
  · rw [picks_basic, picks_share]

theorem two_part_picks (row : DamageRow) (stat : String) (schema : Scaling.Schema) (two : schema.IsTwoPart) (position : Float) :
    row.Picks (damageAs row stat (some schema)) position ↔ position = 0 ∨ position = 1 := by
  have single : row.Picks (damageOfPart row stat 0) position ↔ position = 0 := by
    rw [damageOfPart, picks_scaled, DamageRow.part, tablePart, picks_call_name (by decide), picks_part]
  have listed : ¬row.Picks (isList (tableRef row.talent row.table)) position := by
    rw [isList, picks_call_name (by decide)]
    exact picks_table
  cases schema with
  | statStat first second =>
    simp only [damageAs, picks_conditional, listed, single, picks_basic, plus, picks_binary, picks_share, picks_part]
    tauto
  | statFlat flat =>
    simp only [damageAs, picks_conditional, listed, single, picks_basic, plus, picks_binary, picks_share, picks_part,
      DamageRow.part, tablePart, picks_call_name (show "num" ≠ "pick" by decide)]
    tauto
  | statTimes _ | percentList _ => exact two.elim

end Picks

theorem two_part_called (kit : Kit) (row : DamageRow) (schema : Scaling.Schema) (two : schema.IsTwoPart)
    (shaped : row.schema? kit = some schema) (total : String → Float) (v w : TableValue) (list : v.isList) (list' : w.isList)
    (first : v.part 0 = w.part 0) (second : v.part 1 = w.part 1) : row.called kit total v = row.called kit total w := by
  cases schema with
  | statStat _ _ | statFlat _ => simp only [DamageRow.called, shaped, list, list', first, second]
  | statTimes _ | percentList _ => exact two.elim

variable (kit : Kit) (row : DamageRow)

/-- Where a table has a schema of two parts, its value text has two, or the first two were looked at as if no more
followed; and any such text has that schema, unless its sample counts hits. The formula picks two elements of the table,
and of a list no other has a part in what the row calls the engine for. -/
theorem two_part_schemas_overlook (unpicked : row.pick = none) (schema : Scaling.Schema) (two : schema.IsTwoPart) :
    (Scaling.schema kit row.talent row.table = .ok (some schema) →
      ∃ text, Scaling.valueText kit row.talent row.table = .ok text ∧
        ((Scaling.plusParts text).length ≠ 2 ↔ Scaling.Overlooks (Scaling.plusParts text) schema) ∧
        (∀ stat, row.stat kit = .ok stat → ∃ e, tableDamage kit row = .ok e ∧
          ∀ position, row.Picks e position ↔ position = 0 ∨ position = 1) ∧
        ∀ total v w, v.isList → w.isList → v.part 0 = w.part 0 → v.part 1 = w.part 1 →
          row.called kit total v = row.called kit total w) ∧
    ∀ text unit, Scaling.valueText kit row.talent row.table = .ok text →
      Scaling.unitOf kit row.talent row.table = .ok unit → Scaling.Overlooks (Scaling.plusParts text) schema →
      Scaling.sampledHits kit row.talent row.table text = .ok none →
      Scaling.schema kit row.talent row.table = .ok (some schema) := by
  have shaped := Scaling.two_part_schema_iff kit row.talent row.table schema two
  constructor
  · intro found
    obtain ⟨text, unit, read, -, -, summed⟩ := shaped.mp found
    have called := two_part_called kit row schema two (by simp [DamageRow.schema?, unpicked, found, Except.toOption])
    refine ⟨text, read, Scaling.summed_two_part_count two summed, fun stat told => ?_, called⟩
    exact ⟨_, (table_damage_ok_iff kit row _).mpr (.shaped stat _ told unpicked found), two_part_picks row stat schema two⟩
  · intro text unit read told overlooks unhit
    exact shaped.mpr ⟨text, unit, read, unhit, told, Scaling.summed_overlooked overlooks⟩

def threePartKit : Kit :=
  { game := .gs, name := "X", tables := [("q", ["Burst DMG"])],
    textSamples := [("q", [("Burst DMG", "50%ATK + 30%DEF + 100")])] }

def threePartRow : DamageRow := { talent := "q", table := "Burst DMG", key := "q" }

theorem three_part_schema : Scaling.schema threePartKit "q" "Burst DMG" = .ok (some (.statStat "atk" "def")) := by
  obtain ⟨_, found, rfl⟩ := evaluated_ok (Scaling.schema threePartKit "q" "Burst DMG") id (some (.statStat "atk" "def"))
    (by decide +kernel)
  exact found

theorem three_part_text : ∃ text, Scaling.valueText threePartKit "q" "Burst DMG" = .ok text ∧
    Scaling.plusParts text = ["50%ATK", "30%DEF", "100"] := evaluated_ok _ _ _ (by decide +kernel)

theorem three_parts_overlooked : threePartRow.pick = none ∧ (Scaling.Schema.statStat "atk" "def").IsTwoPart ∧
    Scaling.Overlooks ["50%ATK", "30%DEF", "100"] (.statStat "atk" "def") ∧
    ∃ e, tableDamage threePartKit threePartRow = .ok e ∧
      ∀ position, threePartRow.Picks e position ↔ position = 0 ∨ position = 1 := by
  obtain ⟨text, read, parts⟩ := three_part_text
  have overlook := two_part_schemas_overlook threePartKit threePartRow rfl (.statStat "atk" "def") trivial
  obtain ⟨text', same, miscounted, picks, -⟩ := overlook.1 three_part_schema
  obtain rfl : text = text' := Except.ok.inj (read.symm.trans same)
  obtain ⟨stat, told, -⟩ := evaluated_ok (threePartRow.stat threePartKit) id "def" (by decide +kernel)
  rw [parts] at miscounted
  exact ⟨rfl, trivial, miscounted.mp (by decide), picks stat told⟩

theorem three_parts_read_as_two : ¬∀ (kit : Kit) (talent table text : String) (schema : Scaling.Schema),
    Scaling.schema kit talent table = .ok (some schema) → schema.IsTwoPart →
      Scaling.valueText kit talent table = .ok text → (Scaling.plusParts text).length = 2 := by
  intro exact
  obtain ⟨text, read, parts⟩ := three_part_text
  have counted := exact threePartKit "q" "Burst DMG" text (.statStat "atk" "def") three_part_schema trivial read
  rw [parts] at counted
  cases counted

end Formula

end DamagePlan
