import Mathlib.Data.List.Basic
import DamagePlan.Planning.TableName

/-!
The damage table that is picked from a list of names. A variant is longer than the table that it is a variant of, so a list
with a damage table has one that is no variant, in whatever order names and variants come, and the first such one is picked.
-/
set_option autoImplicit false

namespace DamagePlan.TableName

theorem title_for_filled (name chinese english : String) (first : chinese ≠ "") (second : english ≠ "") :
    titleFor name chinese english ≠ "" := by
  unfold titleFor
  split
  · exact first
  · exact second

theorem damage_filled (table : String) (marked : isDamage table = true) : table ≠ "" := by
  rintro rfl
  have unmarked : isDamage "" = false := by decide +kernel
  rw [unmarked] at marked
  cases marked

/-- A damage table that is no other damage table of the list with a 2 behind it. -/
structure IsOriginal (names : List String) (name : String) : Prop where
  damages : isDamage name = true
  unvaried : ∀ other ∈ names, isDamage other = true → name ≠ other ++ "2"

theorem is_variant_iff (names : List String) (name : String) :
    isVariantAmong names name = true ↔ ∃ other ∈ names, name = other ++ "2" := by
  simp only [isVariantAmong, Bool.and_eq_true, decide_eq_true_eq, List.contains_iff_mem, List.getLast?_eq_some_iff]
  constructor
  · rintro ⟨⟨front, shape⟩, among⟩
    rw [shape, List.dropLast_concat] at among
    exact ⟨String.ofList front, among, String.toList_inj.mp (by simp [shape])⟩
  · rintro ⟨other, among, rfl⟩
    have shape : (other ++ "2").toList = other.toList ++ ['2'] := by simp
    rw [shape, List.dropLast_concat, String.ofList_toList]
    exact ⟨⟨other.toList, rfl⟩, among⟩

theorem is_original_iff (names : List String) (name : String) :
    IsOriginal names name ↔ isDamage name = true ∧ isVariantAmong (names.filter isDamage) name = false := by
  rw [← Bool.not_eq_true, is_variant_iff]
  constructor
  · rintro ⟨damages, unvaried⟩
    refine ⟨damages, fun ⟨other, among, varies⟩ => ?_⟩
    obtain ⟨there, marked⟩ := List.mem_filter.mp among
    exact unvaried other there marked varies
  · rintro ⟨damages, unvaried⟩
    exact ⟨damages, fun other there marked varies => unvaried ⟨other, List.mem_filter.mpr ⟨there, marked⟩, varies⟩⟩

-- Names get shorter on the way back from a variant to what it is a variant of, so the way ends.
theorem original_behind (names : List String) (name : String) (there : name ∈ names) (damages : isDamage name = true) :
    ∃ original ∈ names, IsOriginal names original := by
  by_cases varies : ∃ other ∈ names, isDamage other = true ∧ name = other ++ "2"
  · obtain ⟨other, among, marked, shape⟩ := varies
    have shorter : other.length < name.length := by
      rw [shape, String.length_append]
      exact Nat.lt_add_of_pos_right (by decide)
    exact original_behind names other among marked
  · exact ⟨name, there, damages, fun other among marked shape => varies ⟨other, among, marked, shape⟩⟩
termination_by name.length

def firstOriginal? (candidates : List String) : Option String := candidates.find? (!isVariantAmong candidates ·)

theorem first_original_some_iff (names : List String) (table : String) :
    firstOriginal? (names.filter isDamage) = some table ↔
      ∃ before after, names = before ++ table :: after ∧ IsOriginal names table ∧
        ∀ earlier ∈ before, ¬IsOriginal names earlier := by
  simp only [firstOriginal?, List.find?_filter, List.find?_eq_some_iff_append, decide_eq_true_eq, Bool.not_eq_true',
    ← is_original_iff, decide_eq_false_iff_not]
  constructor
  · rintro ⟨original, before, after, shape, none⟩
    exact ⟨before, after, shape, original, none⟩
  · rintro ⟨before, after, shape, original, none⟩
    exact ⟨original, before, after, shape, none⟩

theorem first_original_none_iff (names : List String) :
    firstOriginal? (names.filter isDamage) = none ↔ ∀ name ∈ names, isDamage name = false := by
  simp only [firstOriginal?, List.find?_filter, List.find?_eq_none, decide_eq_true_eq, Bool.not_eq_true', ← is_original_iff]
  constructor
  · intro none name there
    refine Bool.eq_false_iff.mpr fun damages => ?_
    obtain ⟨original, among, stands⟩ := original_behind names name there damages
    exact none original among stands
  · intro none name there original
    exact Bool.eq_false_iff.mp (none name there) original.damages

theorem pick_damage_eq (names : List String) : pickDamage? names = firstOriginal? (names.filter isDamage) := by
  change (firstOriginal? (names.filter isDamage)).or (names.filter isDamage).head? = _
  cases found : firstOriginal? (names.filter isDamage) with
  | some table => rfl
  | none =>
    have empty : names.filter isDamage = [] := by simpa using (first_original_none_iff names).mp found
    rw [empty]
    rfl

theorem pick_damage_none_iff (names : List String) : pickDamage? names = none ↔ ∀ name ∈ names, isDamage name = false := by
  rw [pick_damage_eq, first_original_none_iff]

theorem pick_damage_among (names : List String) (table : String) (picked : pickDamage? names = some table) :
    table ∈ names ∧ isDamage table = true := by
  rw [pick_damage_eq, first_original_some_iff] at picked
  obtain ⟨before, after, rfl, original, -⟩ := picked
  exact ⟨List.mem_append_right _ List.mem_cons_self, original.damages⟩

/-- No table is picked exactly if no name of the list is a damage table, and otherwise the picked one is the first damage
table that is no other one with a 2 behind it. There is such a table wherever there is a damage table, and the search for it
decides alone: it fails only where there is no candidate, so the first candidate never has to stand in. -/
theorem first_original_picked (names : List String) :
    (pickDamage? names = none ↔ ∀ name ∈ names, isDamage name = false) ∧
      (∀ table, pickDamage? names = some table ↔
        ∃ before after, names = before ++ table :: after ∧ IsOriginal names table ∧
          ∀ earlier ∈ before, ¬IsOriginal names earlier) ∧
      ((∃ name ∈ names, isDamage name = true) ↔ ∃ table ∈ names, IsOriginal names table) ∧
      (firstOriginal? (names.filter isDamage) = none ↔ names.filter isDamage = []) ∧
      pickDamage? names = firstOriginal? (names.filter isDamage) := by
  refine ⟨pick_damage_none_iff names, fun table => ?_, ⟨?_, ?_⟩, ?_, pick_damage_eq names⟩
  · rw [pick_damage_eq, first_original_some_iff]
  · rintro ⟨name, there, damages⟩
    exact original_behind names name there damages
  · rintro ⟨table, there, original⟩
    exact ⟨table, there, original.damages⟩
  · simpa using first_original_none_iff names

example : pickDamage? ["CD", "Skill DMG2", "Skill DMG"] = some "Skill DMG" := by decide +kernel

end DamagePlan.TableName
