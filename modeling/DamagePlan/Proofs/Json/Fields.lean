import Mathlib.Data.List.Induction
import Mathlib.Data.List.Nodup
import DamagePlan.Json.Basic

/-!
Fields by name: what is looked up or put in is among the entries.
-/
set_option autoImplicit false

namespace DamagePlan.Fields

variable {α : Type}

theorem found_entry (fields : Fields α) (key : String) (a : α) (found : fields.find? key = some a) :
    (key, a) ∈ fields := by
  obtain ⟨before, after, rfl, -⟩ := List.lookup_eq_some_iff.mp found
  simp

theorem found_only (fields : Fields α) (distinct : (fields.map (·.1)).Nodup) (key : String) (a : α)
    (found : fields.find? key = some a) (a' : α) (member : (key, a') ∈ fields) : a' = a :=
  congrArg (·.2) (List.inj_on_of_nodup_map distinct member (found_entry fields key a found) rfl)

theorem find_member (fields : Fields α) (distinct : (fields.map (·.1)).Nodup) (key : String) (a : α)
    (member : (key, a) ∈ fields) : fields.find? key = some a := by
  cases found : fields.find? key with
  | none => exact absurd rfl (bne_iff_ne.mp (List.lookup_eq_none_iff.mp found _ member))
  | some a' => rw [found_only fields distinct key a' found a member]

theorem inserted_entry (fields : Fields α) (key : String) (a : α) :
    ∀ entry ∈ fields.insert key a, entry = (key, a) ∨ entry ∈ fields := by
  induction fields with
  | nil => simp [insert]
  | cons first rest ih =>
    obtain ⟨k, v⟩ := first
    unfold insert
    split
    · rw [List.forall_mem_cons]
      exact ⟨.inl rfl, fun entry member => .inr (List.mem_cons_of_mem _ member)⟩
    · rw [List.forall_mem_cons]
      refine ⟨.inr List.mem_cons_self, fun entry member => ?_⟩
      exact (ih entry member).imp_right (List.mem_cons_of_mem _)

theorem inserted_distinct (fields : Fields α) (key : String) (a : α) (distinct : (fields.map (·.1)).Nodup) :
    ((fields.insert key a).map (·.1)).Nodup := by
  induction fields with
  | nil => simp [insert]
  | cons first rest ih =>
    obtain ⟨k, v⟩ := first
    obtain ⟨absent, distinctRest⟩ := List.nodup_cons.mp distinct
    unfold insert
    split
    · rename_i same
      obtain rfl := eq_of_beq same
      exact distinct
    · rename_i other
      refine List.nodup_cons.mpr ⟨fun member => ?_, ih distinctRest⟩
      obtain ⟨entry, among, here⟩ := List.mem_map.mp member
      rcases inserted_entry rest key a entry among with rfl | old
      · exact other (beq_iff_eq.mpr here.symm)
      · exact absent (List.mem_map.mpr ⟨entry, old, here⟩)

theorem insert_absent (fields : Fields α) (key : String) (a : α) (absent : key ∉ fields.map (·.1)) :
    fields.insert key a = fields ++ [(key, a)] := by
  induction fields with
  | nil => rfl
  | cons first rest ih =>
    obtain ⟨k, v⟩ := first
    rw [List.map_cons, List.mem_cons, not_or] at absent
    rw [insert, if_neg (by simpa using Ne.symm absent.1), ih absent.2, List.cons_append]

theorem find_insert (fields : Fields α) (key other : String) (value : α) :
    (fields.insert key value).find? other = if other = key then some value else fields.find? other := by
  induction fields with
  | nil =>
    by_cases same : other = key
    · simp [Fields.insert, Fields.find?, same]
    · have apart : (other == key) = false := beq_eq_false_iff_ne.mpr same
      simp [Fields.insert, Fields.find?, List.lookup_cons, apart, same]
  | cons field rest ih =>
    obtain ⟨k, v⟩ := field
    simp only [Fields.find?] at ih ⊢
    by_cases here : k = key
    · subst here
      by_cases same : other = k
      · simp [Fields.insert, same]
      · have apart : (other == k) = false := beq_eq_false_iff_ne.mpr same
        simp [Fields.insert, List.lookup_cons, apart, same]
    · have apart : (k == key) = false := beq_eq_false_iff_ne.mpr here
      by_cases first : other = k
      · have different : other ≠ key := fun same => here (first ▸ same)
        simp [Fields.insert, apart, first, here]
      · have skip : (other == k) = false := beq_eq_false_iff_ne.mpr first
        simp [Fields.insert, apart, List.lookup_cons, skip, ih]

theorem find_erase (fields : Fields α) (key other : String) :
    (fields.erase key).find? other = if other = key then none else fields.find? other := by
  induction fields with
  | nil => simp [erase, find?]
  | cons field rest ih =>
    obtain ⟨k, v⟩ := field
    simp only [find?, erase] at ih ⊢
    by_cases here : k = key
    · subst here
      rw [List.filter_cons_of_neg (by simp), ih, List.lookup_cons]
      by_cases same : other = k
      · simp [same]
      · have skip : (other == k) = false := beq_eq_false_iff_ne.mpr same
        simp [same, skip]
    · rw [List.filter_cons_of_pos (by simpa using here), List.lookup_cons, List.lookup_cons, ih]
      by_cases first : other = k
      · simp [first, here]
      · have skip : (other == k) = false := beq_eq_false_iff_ne.mpr first
        simp [skip]

theorem of_list_distinct (entries : List (String × α)) (distinct : (entries.map (·.1)).Nodup) : ofList entries = entries := by
  induction entries using List.reverseRecOn with
  | nil => rfl
  | append_singleton entries entry ih =>
    obtain ⟨k, v⟩ := entry
    rw [List.map_append, List.nodup_append] at distinct
    obtain ⟨before, -, apart⟩ := distinct
    have absent : k ∉ entries.map (·.1) := fun member => apart k member k List.mem_cons_self rfl
    have earlier := ih before
    unfold ofList at earlier ⊢
    rw [List.foldl_append, earlier]
    exact insert_absent entries k v absent

end DamagePlan.Fields
