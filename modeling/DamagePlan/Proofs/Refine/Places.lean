import Mathlib.Data.List.Nodup
import DamagePlan.Refine.Budget

/-!
Places of a budget: no change moves a row, rows are told apart by their tags, and the default policy lets only plain
rows of normal attacks make room.
-/
set_option autoImplicit false

namespace DamagePlan

namespace EvictionPolicy

theorem last_of_class (inClass : Detail → Bool) (rows : List Detail) (i : Nat) (found : lastOf inClass rows = some i) :
    ∃ d, rows[i]? = some d ∧ inClass d = true := by
  obtain ⟨back, first, rfl⟩ := Option.map_eq_some_iff.mp found
  obtain ⟨inside, fits, -⟩ := List.findIdx?_eq_some_iff_getElem.mp first
  rw [List.length_reverse] at inside
  rw [List.getElem_reverse] at fits
  exact ⟨_, List.getElem?_eq_getElem (by omega), fits⟩

theorem default_chooses_attack (rows : List Detail) (incoming : Detail) (i : Nat)
    (chosen : EvictionPolicy.default rows incoming = some i) : ∃ d, rows[i]? = some d ∧ RowClass.isAttack d = true := by
  obtain ⟨inClass, among, found⟩ := List.exists_of_findSome?_eq_some chosen
  obtain ⟨d, there, fits⟩ := last_of_class inClass rows i found
  refine ⟨d, there, ?_⟩
  -- all three classes are classes of attacks
  simp only [classes, List.mem_cons, List.not_mem_nil, or_false] at among
  rcases among with rfl | rfl | rfl
  · simp only [RowClass.isSegment, RowClass.isNormal, Bool.and_eq_true] at fits
    exact fits.1.1.1
  · simp only [RowClass.isNormal, Bool.and_eq_true] at fits
    exact fits.1.1
  · simp only [RowClass.isCharged, Bool.and_eq_true] at fits
    exact fits.1

end EvictionPolicy

namespace Budget

def Succeeds (R : Row → Row → Prop) (b b' : Budget) : Prop :=
  ∀ (i : Nat) (row : Row), b.rows[i]? = some row → ∃ row', b'.rows[i]? = some row' ∧ R row row'

section Succeeds

variable {R S T : Row → Row → Prop} {b b' b'' : Budget}

theorem succeeds_refl (own : ∀ row, R row row) : Succeeds R b b := fun _ row there => ⟨row, there, own row⟩

theorem Succeeds.trans (first : Succeeds R b b') (second : Succeeds S b' b'')
    (joined : ∀ row row' row'', R row row' → S row' row'' → T row row'') : Succeeds T b b'' := by
  intro i row there
  obtain ⟨row', there', step⟩ := first i row there
  obtain ⟨row'', there'', step'⟩ := second i row' there'
  exact ⟨row'', there'', joined _ _ _ step step'⟩

theorem Succeeds.longer (follows : Succeeds R b b') : b.rows.length ≤ b'.rows.length := by
  rcases Nat.eq_zero_or_pos b.rows.length with empty | filled
  · omega
  · obtain ⟨row', there, -⟩ := follows (b.rows.length - 1) _ (List.getElem?_eq_getElem (by omega))
    have inside := (List.getElem?_eq_some_iff.mp there).1
    omega

theorem Succeeds.append (follows : Succeeds R b b') (rows : List Row) :
    Succeeds R b { b' with rows := b'.rows ++ rows } := by
  intro i row there
  obtain ⟨row', there', step⟩ := follows i row there
  exact ⟨row', by rw [List.getElem?_append_left (List.getElem?_eq_some_iff.mp there').1, there'], step⟩

theorem Succeeds.set (follows : Succeeds R b b') (i : Nat) (fresh : Row) (evicted : List Row)
    (fits : ∀ row, b.rows[i]? = some row → R row fresh) :
    Succeeds R b { b' with rows := b'.rows.set i fresh, evicted } := by
  intro j row there
  obtain ⟨row', there', step⟩ := follows j row there
  by_cases same : i = j
  · subst same
    exact ⟨fresh, List.getElem?_set_self (List.getElem?_eq_some_iff.mp there').1, fits row there⟩
  · exact ⟨row', by rw [List.getElem?_set_ne same, there'], step⟩

end Succeeds

structure Distinct (b : Budget) : Prop where
  apart : (b.rows.map (·.tag)).Nodup
  below : ∀ row ∈ b.rows, row.tag < b.nextTag

theorem tagged_details (details : List Detail) : (tagged details).map (·.detail) = details := by
  simp [tagged, Function.comp_def]

theorem tagged_distinct (cap : Int) (policy : EvictionPolicy) (details : List Detail) :
    Distinct ⟨cap, policy, tagged details, []⟩ where
  apart := by simp [tagged, Function.comp_def, List.nodup_range']
  below := by
    intro row member
    obtain ⟨⟨d, i⟩, indexed, rfl⟩ := List.mem_map.mp member
    simpa [nextTag, tagged] using List.snd_lt_of_mem_zipIdx indexed

theorem Distinct.fresh {b : Budget} (distinct : Distinct b) : b.nextTag ∉ b.rows.map (·.tag) := by
  intro taken
  obtain ⟨row, member, same⟩ := List.mem_map.mp taken
  have below := distinct.below row member
  omega

theorem append_distinct {b : Budget} (distinct : Distinct b) (d : Detail) :
    Distinct { b with rows := b.rows ++ [⟨b.nextTag, d⟩] } where
  apart := by
    rw [List.map_append, List.map_singleton]
    exact distinct.apart.append (List.nodup_singleton _) (by simpa using distinct.fresh)
  below := by
    intro row member
    simp only [nextTag, List.length_append, List.length_singleton]
    rcases List.mem_append.mp member with old | added
    · have below := distinct.below row old
      simp only [nextTag] at below
      omega
    · rw [List.mem_singleton.mp added]
      simp only [nextTag]
      omega

theorem evict_distinct {b : Budget} (distinct : Distinct b) (i : Nat) (old : Row) (d : Detail) :
    Distinct { b with rows := b.rows.set i ⟨b.nextTag, d⟩, evicted := b.evicted ++ [old] } where
  apart := by
    rw [List.map_set]
    exact distinct.apart.set distinct.fresh
  below := by
    intro row member
    simp only [nextTag, List.length_set, List.length_append, List.length_singleton]
    rcases List.mem_or_eq_of_mem_set member with there | rfl
    · have below := distinct.below row there
      simp only [nextTag] at below
      omega
    · simp only [nextTag]
      omega

theorem tag_place {rows : List Row} (apart : (rows.map (·.tag)).Nodup) {i j : Nat} {row row' : Row}
    (there : rows[i]? = some row) (there' : rows[j]? = some row') (same : row.tag = row'.tag) : i = j := by
  have inside := (List.getElem?_eq_some_iff.mp there).1
  refine (List.getElem?_inj (by simpa using inside) apart).mp ?_
  rw [List.getElem?_map, List.getElem?_map, there, there', Option.map_some, Option.map_some, same]

theorem update_shape {b : Budget} (distinct : Distinct b) (i : Nat) (row : Row) (there : b.rows[i]? = some row) (d : Detail) :
    b.update row.tag d = { b with rows := b.rows.set i ⟨row.tag, d⟩ } := by
  obtain ⟨inside, same⟩ := List.getElem?_eq_some_iff.mp there
  have found : b.rows.findIdx? (·.tag == row.tag) = some i := by
    rw [List.findIdx?_eq_some_iff_getElem]
    refine ⟨inside, by simp [same], fun j before => ?_⟩
    -- a row before it with that tag would stand in the same place
    intro taken
    have place := tag_place distinct.apart (List.getElem?_eq_getElem (Nat.lt_trans before inside)) there (by simpa using taken)
    omega
  rw [update, replace?, found]
  rfl

theorem update_succeeds {R : Row → Row → Prop} {b b' : Budget} (distinct : Distinct b') (follows : Succeeds R b b')
    (tagged : ∀ row row', R row row' → row'.tag = row.tag) (old : Row) (member : old ∈ b.rows) (d : Detail)
    (fits : R old ⟨old.tag, d⟩) : Succeeds R b (b'.update old.tag d) := by
  obtain ⟨i, there⟩ := List.mem_iff_getElem?.mp member
  obtain ⟨row, there', step⟩ := follows i old there
  rw [← tagged _ _ step, update_shape distinct i row there' d, tagged _ _ step]
  refine follows.set i _ _ fun first among => ?_
  obtain rfl : old = first := Option.some.inj (there.symm.trans among)
  exact fits

theorem update_distinct {b : Budget} (distinct : Distinct b) (i : Nat) (row : Row) (there : b.rows[i]? = some row) (d : Detail) :
    Distinct (b.update row.tag d) := by
  have kept : (b.rows.set i ⟨row.tag, d⟩).map (·.tag) = b.rows.map (·.tag) := by
    have own : (b.rows.map (·.tag))[i]? = some row.tag := by rw [List.getElem?_map, there, Option.map_some]
    obtain ⟨inside, same⟩ := List.getElem?_eq_some_iff.mp own
    rw [List.map_set]
    dsimp only
    rw [← same, List.set_getElem_self]
  rw [update_shape distinct i row there]
  refine ⟨by rw [kept]; exact distinct.apart, fun other member => ?_⟩
  simp only [nextTag, List.length_set]
  have tagged : other.tag ∈ b.rows.map (·.tag) := kept ▸ List.mem_map_of_mem member
  obtain ⟨old, among, tag⟩ := List.mem_map.mp tagged
  have below := distinct.below old among
  simp only [nextTag] at below
  omega

end Budget

end DamagePlan
