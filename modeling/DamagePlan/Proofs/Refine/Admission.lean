import DamagePlan.Proofs.Refine.Whitelist
import DamagePlan.Proofs.Render.Room

/-!
Validated plans as a script holds them: the parameters of their rows are scalars, and their buffs are admitted.
-/
set_option autoImplicit false

namespace DamagePlan

open RawRecord RawPlan
open Decimal (IntegerTooLarge)
open Render (AdmittedBuff IsAccepted Whitelisted given isPlainParameter)
open Script.Legible (IsSafeKey)

def ScalarParameters (d : Detail) : Prop := ∀ params ∈ d.params, ∀ field ∈ params, isPlainParameter field.2 = true

namespace RawPlan

theorem kept_is_plain (j : Json) (kept : keepsParameter j = .ok true) : isPlainParameter j = true := by
  cases j with
  | bool _ | int _ | float _ | str _ => rfl
  | null | arr _ | obj _ => cases kept

theorem parameters_scalar (record : Fields Json) (params? : Option (Fields Json)) (made : parametersOf record = .ok params?) :
    ∀ params ∈ params?, ∀ field ∈ params, isPlainParameter field.2 = true := by
  unfold parametersOf at made
  split at made
  · cases made
    nofun
  · obtain ⟨kept, filtered, shape⟩ := bind_ok _ _ _ made
    cases shape
    intro params own field member
    split at own
    · cases own
    · cases own
      exact kept_is_plain _ (filter_m_ok _ _ kept filtered field member)

theorem read_row_scalar (kit : Kit) (d : Detail) (read : IsReadRow kit d) : ScalarParameters d := by
  obtain ⟨fields, read⟩ := read
  cases read with
  | table kind reaction talent table other known listed made =>
    obtain ⟨params, given, shape⟩ := bind_ok _ _ _ made
    obtain rfl := Except.ok.inj shape
    exact parameters_scalar _ params given
  | reaction id known other made =>
    obtain ⟨params, given, shape⟩ := bind_ok _ _ _ made
    obtain rfl := Except.ok.inj shape
    exact parameters_scalar _ params given

end RawPlan

theorem Enrichment.scalars_sustained (kit : Kit) :
    Sustains kit fun d => Whitelisted kit d ∧ ScalarParameters d where
  titled d own := own.1.titled
  named d own := (whitelist_sustained kit).named d own.1
  low d own := own.1.pick
  fresh d fresh := by
    refine ⟨(whitelist_sustained kit).fresh d fresh, fun params own => ?_⟩
    rw [fresh.params] at own
    cases own
  variant d title element own titled known_ := ⟨(whitelist_sustained kit).variant d title element own.1 titled known_, own.2⟩
  derived d derived own damage made := by
    refine ⟨(whitelist_sustained kit).derived d derived own.1 damage made, ?_⟩
    obtain ⟨title, e, -, -, rfl⟩ := made
    exact own.2
  state d key title own titled := by
    refine ⟨(whitelist_sustained kit).state d key title own.1 titled, ?_⟩
    -- the parameter that turns a burst on is a scalar, too
    have plain : ∀ field ∈ d.params.getD [], isPlainParameter field.2 = true := by
      cases given : d.params with
      | none => exact List.forall_mem_nil _
      | some params => exact own.2 params given
    rintro params ⟨⟩
    unfold burstParameters
    split
    · exact plain
    · exact List.forall_mem_append.mpr ⟨plain, List.forall_mem_singleton.mpr rfl⟩

theorem trimmed_safe (s : String) : IsSafeKey (Text.trim s) := by
  intro ends
  rw [Text.trim, String.toList_ofList] at ends
  obtain ⟨filled, last⟩ := List.mem_getLast?_eq_getLast ends
  have other : ¬Text.isBlank ((Text.trimList s.toList).getLast filled) = true := List.rdropWhile_last_not _ _ filled
  rw [← last] at other
  exact other (by decide)

structure AdmittedData (data : Fields BuffValue) : Prop where
  distinct : (data.map (·.1)).Nodup
  keys : ∀ entry ∈ data, IsSafeKey entry.1
  texts : ∀ entry ∈ data, ∀ text, entry.2 = .expression text → IsAccepted text

namespace RawPlan

theorem read_text_accepted (j : Json) (text : String) (made : readBuffValue j = .ok (some (.expression text))) :
    IsAccepted text := by
  unfold readBuffValue at made
  split at made
  · rename_i s
    obtain ⟨taken, accepted, same⟩ := Option.map_eq_some_iff.mp (Except.ok.inj made)
    cases same
    exact taken_is_accepted s text accepted
  · obtain ⟨x, -, shape⟩ := map_ok _ _ _ made
    cases shape
  · split at made
    · cases made
    · cases made
  · cases made

theorem read_data_admitted (game : Game) (fields : Fields Json) (data : Fields BuffValue)
    (made : readData game [] fields = .ok data) : AdmittedData data := by
  refine read_data_keeps game ?_ fields [] data ⟨List.nodup_nil, nofun, nofun⟩ made
  intro data key j value own _ read
  refine ⟨Fields.inserted_distinct data _ value own.distinct, fun entry member => ?_, fun entry member text same => ?_⟩
  · rcases Fields.inserted_entry _ _ _ entry member with rfl | old
    · exact trimmed_safe key
    · exact own.keys entry old
  · rcases Fields.inserted_entry _ _ _ entry member with rfl | old
    · obtain rfl : value = .expression text := same
      exact read_text_accepted j text read
    · exact own.texts entry old text same

theorem read_buff_admitted (game : Game) (fields : Fields Json) (b : Buff)
    (read : IsReadBuff game (strip buffSchema fields) b) : AdmittedBuff b where
  titled := given_text_filled _ "title" b.title read.title
  cons c own := by
    have found : naturalOf? (strip buffSchema fields) "cons" = some c := read.constellation.symm.trans own
    obtain ⟨n, least, most, rfl⟩ := stripped_natural buffSchema fields "cons" 1 6 c rfl found
    omega
  trace t own := by
    have found : naturalOf? (strip buffSchema fields) "tree" = some t := read.trace.symm.trans own
    obtain ⟨n, least, most, rfl⟩ := stripped_natural buffSchema fields "tree" 1 10 t rfl found
    omega
  check text there := taken_is_accepted _ text (read.check ▸ given_among _ text there)
  distinct := (read_data_admitted game _ b.data read.data).distinct
  keys := (read_data_admitted game _ b.data read.data).keys
  data := (read_data_admitted game _ b.data read.data).texts

end RawPlan

theorem BuffFilter.filtered_admitted (game : Game) (hints : List (Nat × String)) (b filtered : Buff)
    (admitted : AdmittedBuff b) (made : filterBuff game hints b = .ok (some filtered)) : AdmittedBuff filtered := by
  obtain ⟨data, part, rfl, -⟩ := filtered_part game hints b filtered made
  exact { admitted with
    distinct := (part.map _).nodup admitted.distinct
    keys := fun entry member => admitted.keys entry (part.subset member)
    data := fun entry member => admitted.data entry (part.subset member) }

namespace Refinement

theorem validated_scalars (kit : Kit) (raw : Json) (policy : EvictionPolicy) (plan : Plan)
    (made : validate kit raw policy = .ok plan) : ∀ d ∈ plan.details, ScalarParameters d := by
  obtain ⟨first, read, refines, -⟩ := validated_steps kit raw policy plan made
  have rows := read_plan_rows kit raw first read
  obtain ⟨each, -⟩ := refined_rows kit (Enrichment.scalars_sustained kit) policy first plan
    (fun d member => ⟨read_row_whitelisted kit d (rows d member), read_row_scalar kit d (rows d member)⟩) refines
  exact fun d member => (each d member).2

theorem validated_buffs_admitted (kit : Kit) (raw : Json) (policy : EvictionPolicy) (plan : Plan)
    (made : validate kit raw policy = .ok plan) : ∀ b ∈ plan.buffs, AdmittedBuff b := by
  obtain ⟨first, read, refines, -⟩ := validated_steps kit raw policy plan made
  refine refined_buffs kit policy first plan (BuffFilter.filtered_admitted kit.game) (fun b member => ?_) refines
  obtain ⟨fields, own⟩ := read_plan_buffs kit raw first read b member
  exact read_buff_admitted kit.game fields b own

end Refinement

end DamagePlan
