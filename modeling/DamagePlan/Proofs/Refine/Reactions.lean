import DamagePlan.Proofs.Refine.History
import DamagePlan.Proofs.Refine.Protected

/-!
Reactions of an enriched plan: all that its rows show, rows of the plan showed before, or the texts of the kit give
evidence of. Variants with the reaction of the kit's element are few.
-/
set_option autoImplicit false

namespace DamagePlan

namespace Budget

theorem pushes_conserve (details : List Detail) (b b' : Budget) (done : details.foldlM push b = .ok b') :
    ∃ added : List Row, (added.map (·.detail)).Sublist details ∧
      (b'.rows ++ b'.evicted).Perm (b.rows ++ b.evicted ++ added) := by
  induction details generalizing b with
  | nil =>
    cases done
    exact ⟨[], .slnil, by simp⟩
  | cons d rest ih =>
    rw [List.foldlM_cons] at done
    obtain ⟨next, pushed, done⟩ := bind_ok _ _ _ done
    obtain ⟨later, part, kept⟩ := ih next done
    obtain ⟨taken, adds⟩ := push_cases b d next pushed
    refine ⟨(if taken then [⟨b.nextTag, d⟩] else []) ++ later, ?_, ?_⟩
    · split
      · exact part.cons_cons d
      · exact part.cons d
    · rw [← List.append_assoc]
      exact kept.trans (adds.conserves.append_right later)

end Budget

namespace Enrichment

def Shows (id : String) (d : Detail) : Prop := d.element = some id ∨ d.reaction = some id

section Evidence

variable {kit : Kit} {id : String}

theorem physical_no_reaction (game : Game) : "phy" ∉ Reaction.ids game := by
  cases game <;> decide

theorem amplifier_supported (reaction : String) (found : amplifier? kit = some reaction) :
    Evidence.supports kit reaction = true := (Option.filter_eq_some_iff.mp found).2

theorem of_kit_shows (d : Detail) (made : OfKit kit d) (own : Shows id d) : id = "phy" ∨ Evidence.supports kit id = true := by
  have physical : ∀ isPhysical : Bool, (if isPhysical then some "phy" else none) = some id → id = "phy" := by
    intro isPhysical same
    split at same
    · exact (Option.some.inj same).symm
    · cases same
  cases made with
  | core talent known made =>
    obtain ⟨table, -, rfl⟩ := Option.map_eq_some_iff.mp made
    rcases own with element | reaction
    · exact .inl (physical _ element)
    · cases reaction
  | support kind talent other known made =>
    obtain ⟨table, -, made⟩ := option_map_m_ok _ _ _ made
    obtain ⟨stat, -, rfl⟩ := map_ok _ _ _ made
    rcases own with element | reaction
    · cases element
    · cases reaction
  | attack game entry known made =>
    obtain ⟨table, -, rfl⟩ := Option.map_eq_some_iff.mp made
    rcases own with element | reaction
    · refine .inl (physical (!(Heuristic.isCatalyst kit || entry.key == "a2" && isBow kit)) ?_)
      rw [← element]
      cases Heuristic.isCatalyst kit || entry.key == "a2" && isBow kit <;> rfl
    · cases reaction
  | transformative game made =>
    unfold transformativeRow? at made
    split at made
    · cases made
    · obtain ⟨named, found, rfl⟩ := Option.map_eq_some_iff.mp made
      rcases own with element | reaction
      · cases element
      · cases reaction
        exact .inr (Option.filter_eq_some_iff.mp found).2

theorem total_row_element (base d : Detail) (made : totalRow kit base = .ok (some d)) :
    d.element = base.element ∧ d.reaction = base.reaction := by
  obtain ⟨-, total⟩ := total_row_cases kit base d made
  cases total with
  | counted => exact ⟨rfl, rfl⟩
  | stated => exact ⟨rfl, rfl⟩

theorem unshown_closed (other : id ≠ "phy") (unsupported : Evidence.supports kit id = false) :
    Closed kit fun d => ¬Shows id d where
  ofKit d made own := by
    rcases of_kit_shows d made own with physical | supported
    · exact other physical
    · simp [unsupported] at supported
  variant _ reaction base d found none made := by
    obtain ⟨title, -, rfl⟩ := Option.map_eq_some_iff.mp made
    rintro (element | shown)
    · cases element
      simp [amplifier_supported id found] at unsupported
    · exact none (.inr shown)
  total base d none made := by
    obtain ⟨element, reaction⟩ := total_row_element base d made
    rwa [Shows, element, reaction]
  complete _ _ d _ none _ made := by
    obtain ⟨e, -, rfl⟩ := map_ok _ _ _ made
    simpa only [Shows] using none
  state d none := by
    rcases burst_state_row_shape d with same | ⟨-, -, ⟨key, title, params, shape⟩, -⟩
    · rwa [same]
    · rw [shape]
      exact none

end Evidence

theorem talents_few (talent : String) (n : Nat) (details : List Detail) (each : ∀ d ∈ details, d.talent = some talent)
    (few : details.length ≤ n) : (details.map (·.talent)).Sublist (List.replicate n (some talent)) := by
  rw [List.sublist_replicate_iff]
  exact ⟨details.length, few, List.eq_replicate_iff.mpr ⟨by simp, by simpa using each⟩⟩

theorem variant_bases_few (reaction : String) (details : List Detail) :
    ((variantBases reaction details).map (·.talent)).Sublist [some "a", some "e", some "e", some "q"] := by
  have taken : ∀ (talent : String) (n : Nat) (bases : List Detail),
      (((bases.filter (·.talent = some talent)).take n).map (·.talent)).Sublist (List.replicate n (some talent)) := by
    intro talent n bases
    refine talents_few talent n _ (fun d member => ?_) (List.length_take_le ..)
    simpa using (List.mem_filter.mp (List.mem_of_mem_take member)).2
  unfold variantBases
  dsimp only
  rw [List.map_append, List.map_append]
  show List.Sublist _ ([some "a"] ++ List.replicate 2 (some "e") ++ List.replicate 1 (some "q"))
  refine (List.Sublist.append ?_ (taken "e" 2 _)).append (taken "q" 1 _)
  refine talents_few "a" 1 _ (fun d member => ?_) ?_
  · split at member
    · have charged := List.find?_some (Option.mem_toList.mp member)
      simp only [Bool.and_eq_true, decide_eq_true_eq] at charged
      exact charged.1
    · cases member
  · split
    · exact Option.length_toList_le
    · exact Nat.zero_le 1

theorem variants_talents (reaction : String) (bases : List Detail) :
    ((bases.filterMap (variantOf? reaction)).map (·.talent)).Sublist (bases.map (·.talent)) := by
  induction bases with
  | nil => exact .slnil
  | cons d rest ih =>
    rw [List.filterMap_cons]
    split
    · exact ih.cons _
    · rename_i variant made
      obtain ⟨title, -, rfl⟩ := Option.map_eq_some_iff.mp made
      exact ih.cons_cons _

theorem variants_few (kit : Kit) (b b' : Budget) (done : addReactionVariants kit b = .ok b') : ∃ added : List Row,
    (b'.rows ++ b'.evicted).Perm (b.rows ++ b.evicted ++ added) ∧
      (added.map (·.detail.talent)).Sublist [some "a", some "e", some "e", some "q"] := by
  unfold addReactionVariants at done
  split at done
  · cases done
    exact ⟨[], by simp, List.nil_sublist _⟩
  · rename_i reaction _
    obtain ⟨added, part, kept⟩ := Budget.pushes_conserve _ b b' done
    refine ⟨added, kept, ?_⟩
    have talents := part.map (·.talent)
    rw [List.map_map] at talents
    exact (talents.trans (variants_talents reaction _)).trans (variant_bases_few reaction _)

/-- No row of an enriched plan shows a reaction that no row showed before and that no text of the kit gives evidence
of, and there are few variants with reactions. -/
theorem reactions_need_evidence (kit : Kit) :
    (∀ id, (∃ game, id ∈ Reaction.ids game) → Evidence.supports kit id = false →
      ∀ (details : List Detail) (policy : EvictionPolicy) (cap : Int), (∀ d ∈ details, ¬Shows id d) →
        (Legible kit → (∀ d ∈ details, Readable d) → ∃ enriched, enrich kit details policy cap = .ok enriched) ∧
          ∀ enriched, enrich kit details policy cap = .ok enriched → ∀ d ∈ enriched, ¬Shows id d) ∧
    ∀ b b' : Budget, addReactionVariants kit b = .ok b' → ∃ added : List Row,
      (b'.rows ++ b'.evicted).Perm (b.rows ++ b.evicted ++ added) ∧
        (added.map (·.detail.talent)).Sublist [some "a", some "e", some "e", some "q"] := by
  refine ⟨fun id ⟨game, known⟩ unsupported details policy cap none => ⟨fun legible each => ?_, fun enriched made => ?_⟩,
    variants_few kit⟩
  · obtain ⟨enriched, made, -⟩ := enrichment_total legible details each policy cap
    exact ⟨enriched, made⟩
  · have other : id ≠ "phy" := by
      rintro rfl
      exact physical_no_reaction game known
    obtain ⟨b, keeps, rfl⟩ := enriched_keep (unshown_closed other unsupported) details enriched policy cap
      (Budget.of_details_within cap policy details none) made
    exact keeps.details

def silentKit : Kit where
  game := .gs
  name := "X"
  element := "Pyro"
  tables := [("e", ["Skill DMG"]), ("q", ["Burst DMG"])]

def plainRows : List Detail := [{ title := "Skill", talent := some "e", table := some "Skill DMG" }]

theorem silent_kit_shows_no_vaporize : Evidence.supports silentKit "vaporize" = false ∧
    (enrich silentKit plainRows).toOption.map (fun enriched => enriched.map (·.title)) = some ["Skill", "Q DMG"] ∧
    ∀ enriched, enrich silentKit plainRows = .ok enriched → ∀ d ∈ enriched, ¬Shows "vaporize" d := by
  have unsupported : Evidence.supports silentKit "vaporize" = false := by decide +kernel
  have none : ∀ d ∈ plainRows, ¬Shows "vaporize" d := by
    intro d member
    rw [List.mem_singleton.mp member]
    exact fun own => own.elim nofun nofun
  exact ⟨unsupported, by decide +kernel,
    ((reactions_need_evidence silentKit).1 "vaporize" ⟨.gs, by decide⟩ unsupported plainRows _ _ none).2⟩

end Enrichment

end DamagePlan
