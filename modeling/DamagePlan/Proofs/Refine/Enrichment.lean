import DamagePlan.Proofs.Refine.Budget
import DamagePlan.Proofs.Refine.Derived
import DamagePlan.Proofs.Refine.Rules

/-!
Enrichment: what goes over from rows to those that single steps make of them holds after all rules, and the cap
does, too.
-/
set_option autoImplicit false

namespace DamagePlan.Enrichment

open TableName
open Formula (Composite isTalent)
open Budget (Keeps)

def burstParameters (params : Option (Fields Json)) : Fields Json :=
  if (params.getD []).contains "q" then params.getD [] else params.getD [] ++ [("q", .bool true)]

/-- What holds of fresh rows, and goes over from a row to those that rules make of it. -/
structure Sustains (kit : Kit) (P : Detail → Prop) : Prop where
  titled : ∀ d, P d → d.title ≠ ""
  named : ∀ d, P d → d.kind = .dmg → isTalent (d.talent.getD "") = true
  low : ∀ d, P d → ∀ p ∈ d.pick, p ≤ 10
  fresh : ∀ d, Fresh kit d → P d
  variant : ∀ d title element, P d → title ≠ "" → element ∈ Reaction.elementOverrides kit.game →
    P { d with title, element := some element }
  derived : ∀ d derived, P d → d.kind = .dmg → IsDerived d derived → P derived
  state : ∀ d key title, P d → title ≠ "" → P { d with key, title, params := some (burstParameters d.params) }

theorem variant_title_filled (title reaction variant : String) (filled : title ≠ "")
    (made : variantTitle? title reaction = some variant) : variant ≠ "" := by
  obtain ⟨⟨chinese, english⟩, found, rfl⟩ := Option.map_eq_some_iff.mp made
  have named : ∀ entry ∈ variantNames, entry.2.1 ≠ "" := by decide
  dsimp only
  split
  · exact Text.append_filled _ _ (Text.append_filled _ _ (Text.append_filled _ _ filled))
  · split
    · exact filled
    · exact Text.filled_append _ _ (named _ (Fields.found_entry _ _ _ found))

theorem amplifier_known (kit : Kit) (game : kit.game = .gs) (reaction : String) (found : amplifier? kit = some reaction) :
    reaction ∈ Reaction.elementOverrides kit.game := by
  obtain ⟨triggered, -⟩ := Option.filter_eq_some_iff.mp found
  have known : ∀ entry ∈ Reaction.amplifiedBy, entry.2 ∈ Reaction.elementOverrides .gs := by decide
  rw [game]
  exact known _ (Fields.found_entry _ _ _ triggered)

theorem burst_title_filled (table key title : String) (found : burstAttack? table = some (key, title)) : title ≠ "" := by
  have plunge : ∀ name ∈ plungeNames, "Q状态·" ++ name ≠ "" := fun name _ => Text.append_filled _ _ (by decide)
  unfold burstAttack? at found
  split at found
  · cases found
    exact Text.append_filled _ _ (by decide)
  · split at found
    · cases found
      exact Text.append_filled _ _ (Text.append_filled _ _ (by decide))
    · split at found
      · cases found
        decide
      · split at found
        · cases found
          decide
        · split at found
          · rename_i name among
            cases found
            exact plunge name (List.mem_of_find?_eq_some among)
          · split at found
            · cases found
              decide
            · cases found

/-- What holds of the rows that rules make of the kit, and goes over from rows to those that rules make of them. -/
structure Closed (kit : Kit) (P : Detail → Prop) : Prop where
  ofKit : ∀ d, OfKit kit d → P d
  variant : kit.game = .gs → ∀ reaction base d, amplifier? kit = some reaction → P base →
    variantOf? reaction base = some d → P d
  total : ∀ base d, P base → totalRow kit base = .ok (some d) → P d
  complete : ∀ adjacent main d, P adjacent → P main → main.kind = .dmg → completeRow kit adjacent main = .ok d → P d
  state : ∀ d, P d → P (burstStateRow d)

theorem of_kit_fresh (kit : Kit) (d : Detail) (made : OfKit kit d) : Fresh kit d := by
  cases made with
  | core talent known made => exact core_row_fresh kit talent known d made
  | support kind talent other known made => exact support_row_fresh kit kind talent other known d made
  | attack game entry known made => exact alias_row_fresh kit game entry known d made
  | transformative game made => exact transformative_row_fresh kit game d made

theorem Sustains.closed {kit : Kit} {P : Detail → Prop} (sustains : Sustains kit P) : Closed kit P where
  ofKit d made := sustains.fresh d (of_kit_fresh kit d made)
  variant game reaction base d found own made := by
    obtain ⟨title, named, rfl⟩ := Option.map_eq_some_iff.mp made
    exact sustains.variant base title reaction own (variant_title_filled _ _ _ (sustains.titled base own) named)
      (amplifier_known kit game reaction found)
  total base d own made := by
    obtain ⟨damage, derived⟩ := total_row_derived kit base d (sustains.named base own) made
    exact sustains.derived base d own damage derived
  complete adjacent main d own' own damage made :=
    sustains.derived main d own damage
      (complete_row_derived kit adjacent main (sustains.named _ own damage) (sustains.low _ own') (sustains.low _ own) d made)
  state d own := by
    unfold burstStateRow
    split
    · exact own
    -- rows of other talents stay, and so do those whose table is no attack of the state
    · split
      · exact own
      · rename_i key title found
        exact sustains.state d (some key) title own (burst_title_filled _ key title found)

section Rules

variable {kit : Kit} {P : Detail → Prop} {most : Nat} {b b' : Budget}

theorem Pushes.keep {M : Detail → Prop} (pushes : Pushes M b b') (own : ∀ d, M d → P d) (keeps : Keeps P most b) :
    Keeps P most b' :=
  pushes.keeps keeps fun _ d b' made pushed kept => Budget.push_keeps kept d (own d made) b' pushed

variable (closed : Closed kit P)

include closed

theorem reaction_variants_keep (game : kit.game = .gs) (keeps : Keeps P most b) (done : addReactionVariants kit b = .ok b') :
    Keeps P most b' := by
  refine (reaction_variants_push kit done).keep ?_ keeps
  rintro d ⟨reaction, found, base, among, made⟩
  exact closed.variant game reaction base d found (keeps.details base among) made

theorem multi_hit_totals_keep (keeps : Keeps P most b) (done : addMultiHitTotals kit b = .ok b') : Keeps P most b' := by
  refine (multi_hit_totals_push kit done).keep ?_ keeps
  rintro d ⟨base, among, total⟩
  exact closed.total base d (keeps.details base among) total

theorem burst_state_keeps (keeps : Keeps P most b) (done : mapBurstState kit b = .ok b') : Keeps P most b' := by
  obtain ⟨converts, -, rfl⟩ := map_ok _ _ _ done
  split
  · refine ⟨fun row member => ?_, by simpa using keeps.few, keeps.capped⟩
    obtain ⟨old, among, rfl⟩ := List.mem_map.mp member
    exact closed.state old.detail (keeps.each old among)
  · exact keeps

theorem blast_totals_keep (keeps : Keeps P most b) (done : addBlastTotals kit b = .ok b') : Keeps P most b' := by
  have complete : ∀ group d, Completes kit b.rows group d → P d := by
    rintro group d ⟨⟨groups, grouped, member⟩, adjacent, main, pair, made⟩
    obtain ⟨near, far, -⟩ := blast_pair_among group adjacent main pair
    obtain ⟨inside, -⟩ := blast_group_among b.rows groups grouped group member adjacent near
    obtain ⟨inside', damage⟩ := blast_group_among b.rows groups grouped group member main far
    exact closed.complete _ _ d (keeps.each adjacent inside) (keeps.each main inside') damage made
  exact blasts_keep kit b b' done keeps
    (fun _ old d ⟨group, completes, _⟩ kept => Budget.update_keeps kept old.tag d (complete group d completes))
    fun _ group d b'' completes _ pushed kept => Budget.push_keeps kept d (complete group d completes) b'' pushed

theorem first_rules_keep (keeps : Keeps P most b) (done : applyRules kit (firstRules kit.game) b = .ok b') :
    Keeps P most b' := by
  cases game : kit.game with
  | gs =>
    rw [game] at done
    obtain ⟨opened, mapped, done⟩ := rules_cons kit _ _ _ _ done
    obtain ⟨core, cored, done⟩ := rules_cons kit _ _ _ _ done
    obtain ⟨supported, support, done⟩ := rules_cons kit _ _ _ _ done
    obtain ⟨aliased, aliasing, done⟩ := rules_cons kit _ _ _ _ done
    obtain ⟨varied, variants, done⟩ := rules_cons kit _ _ _ _ done
    cases done
    have coreKept := (core_rows_push kit cored).keep closed.ofKit (burst_state_keeps closed keeps mapped)
    have supportKept := (support_rows_push kit support).keep closed.ofKit coreKept
    exact reaction_variants_keep closed game ((alias_rows_push kit game aliasing).keep closed.ofKit supportKept) variants
  | sr =>
    rw [game] at done
    obtain ⟨core, cored, done⟩ := rules_cons kit _ _ _ _ done
    obtain ⟨supported, support, done⟩ := rules_cons kit _ _ _ _ done
    cases done
    exact (support_rows_push kit support).keep closed.ofKit ((core_rows_push kit cored).keep closed.ofKit keeps)

theorem last_rules_keep (keeps : Keeps P most b) (done : applyRules kit (lastRules kit.game) b = .ok b') :
    Keeps P most b' := by
  obtain ⟨blasted, blasts, pushes⟩ := last_rules_push kit b b' done
  exact pushes.keep closed.ofKit (blast_totals_keep closed keeps blasts)

theorem enriched_keep (details enriched : List Detail) (policy : EvictionPolicy) (cap : Int)
    (keeps : Keeps P most (Budget.ofDetails cap policy details)) (made : enrich kit details policy cap = .ok enriched) :
    ∃ b, Keeps P most b ∧ enriched = b.details := by
  obtain ⟨stages⟩ := enriched_stages kit details enriched policy cap made
  have filled := first_rules_keep closed keeps stages.fills
  exact ⟨stages.finished, last_rules_keep closed (multi_hit_totals_keep closed filled stages.totals) stages.finishes, stages.ends⟩

end Rules

theorem enriched_rows {kit : Kit} {P : Detail → Prop} {most : Nat} (sustains : Sustains kit P)
    (details enriched : List Detail) (policy : EvictionPolicy) (each : ∀ d ∈ details, P d)
    (made : enrich kit details policy most = .ok enriched) : (∀ d ∈ enriched, P d) ∧ enriched.length ≤ most := by
  obtain ⟨b, keeps, rfl⟩ := enriched_keep sustains.closed details enriched policy most
    (Budget.of_details_keeps policy details each) made
  exact ⟨keeps.details, by simpa [Budget.details] using keeps.few⟩

end DamagePlan.Enrichment
