import DamagePlan.Proofs.Refine.Budget
import DamagePlan.Proofs.Steps
import DamagePlan.Refine.Enrichment

/-!
The rules of enrichment by what they do to a budget. All but two only add rows, made of the kit or of rows that are
there; a total of all targets is added or overwrites a row of its group; and a burst that converts attacks changes rows
in their places.
-/
set_option autoImplicit false

namespace DamagePlan.Enrichment

open Decimal (IntegerTooLong)

inductive Pushes (M : Detail → Prop) (b : Budget) : Budget → Prop
  | refl : Pushes M b b
  | push {b' c : Budget} (d : Detail) (before : Pushes M b b') (made : M d) (pushed : b'.push d = .ok c) : Pushes M b c

section Pushes

variable {M : Detail → Prop} {b b' : Budget}

theorem Pushes.keeps {I : Budget → Prop} (pushes : Pushes M b b') (start : I b)
    (step : ∀ b d b', M d → b.push d = .ok b' → I b → I b') : I b' := by
  induction pushes with
  | refl => exact start
  | push d _ made pushed kept => exact step _ d _ made pushed kept

theorem Pushes.mono {M' : Detail → Prop} (pushes : Pushes M b b') (each : ∀ d, M d → M' d) : Pushes M' b b' := by
  induction pushes with
  | refl => exact .refl
  | push d _ made pushed ih => exact .push d ih (each d made) pushed

theorem Pushes.trans {c : Budget} (first : Pushes M b b') (second : Pushes M b' c) : Pushes M b c := by
  induction second with
  | refl => exact first
  | push d _ made pushed ih => exact .push d ih made pushed

theorem Pushes.one (d : Detail) (made : M d) (pushed : b.push d = .ok b') : Pushes M b b' := .push d .refl made pushed

theorem Pushes.grows (pushes : Pushes M b b') : Budget.Grows b b' :=
  pushes.keeps (I := Budget.Grows b) (Budget.grows_refl b) fun b' d c _ pushed grown =>
    grown.trans (Budget.push_grows b' d c pushed)

theorem Pushes.appends (pushes : Pushes M b b') (room : b'.isFull = false) :
    ∃ added, b'.rows = b.rows ++ added ∧ ∀ row ∈ added, M row.detail := by
  induction pushes with
  | refl => exact ⟨[], by simp, by simp⟩
  | @push b' c d _ made pushed ih =>
    have before := (Budget.push_grows b' d c pushed).room room
    obtain ⟨added, shape, each⟩ := ih before
    obtain ⟨taken, adds⟩ := Budget.push_cases b' d c pushed
    cases adds with
    | known => exact ⟨added, shape, each⟩
    | appended =>
      exact ⟨added ++ [⟨b'.nextTag, d⟩], by rw [shape, List.append_assoc],
        List.forall_mem_append.mpr ⟨each, List.forall_mem_singleton.mpr made⟩⟩
    | refused _ full => simp [before] at full
    | evicting _ full => simp [before] at full

theorem pushes_fold {ε α : Type} (xs : List α) (f : Budget → α → Except ε Budget)
    (each : ∀ b x b', x ∈ xs → f b x = .ok b' → Pushes M b b') (done : xs.foldlM f b = .ok b') : Pushes M b b' :=
  fold_m_keeps (I := Pushes M b) xs f (fun b x b' member step before => before.trans (each b x b' member step)) b b' done
    .refl

end Pushes

inductive OfKit (kit : Kit) (d : Detail) : Prop
  | core (talent : String) (known : talent ∈ Talent.core kit.game) (made : coreRow? kit talent = some d)
  | support (kind : DetailKind) (talent : String) (other : kind ≠ .reaction) (known : talent = "e" ∨ talent = "q")
      (made : supportRow? kit kind talent = .ok (some d))
  | attack (game : kit.game = .gs) (entry : Alias) (known : entry ∈ aliases) (made : aliasRow? kit entry = some d)
  | transformative (game : kit.game = .gs) (made : transformativeRow? kit = some d)

def IsVariantOf (kit : Kit) (details : List Detail) (d : Detail) : Prop :=
  ∃ reaction, amplifier? kit = some reaction ∧ ∃ base ∈ details, variantOf? reaction base = some d

def IsTotalOf (kit : Kit) (details : List Detail) (d : Detail) : Prop := ∃ base ∈ details, totalRow kit base = .ok (some d)

section Pushing

variable (kit : Kit) {b b' : Budget}

def IsCoreRow (d : Detail) : Prop := ∃ talent ∈ Talent.core kit.game, coreRow? kit talent = some d

theorem core_row_pushes (talent : String) (known : talent ∈ Talent.core kit.game)
    (done : addCoreRow kit b talent = .ok b') : Pushes (IsCoreRow kit) b b' := by
  unfold addCoreRow at done
  split at done
  · cases done
    exact .refl
  · split at done
    · rename_i d made
      exact .one d ⟨talent, known, made⟩ done
    · cases done
      exact .refl

theorem core_fold_push (talents : List String) (part : talents ⊆ Talent.core kit.game)
    (done : talents.foldlM (addCoreRow kit) b = .ok b') : Pushes (IsCoreRow kit) b b' :=
  pushes_fold _ _ (fun _ talent _ known step => core_row_pushes kit talent (part known) step) done

theorem core_rows_push (done : addCoreRows kit b = .ok b') : Pushes (OfKit kit) b b' :=
  (core_fold_push kit _ (List.Subset.refl _) done).mono fun _ ⟨talent, known, made⟩ => .core talent known made

theorem support_rows_push (done : addSupportRows kit b = .ok b') : Pushes (OfKit kit) b b' := by
  refine pushes_fold _ _ (fun b what b' among step => ?_) done
  obtain ⟨kind, talent⟩ := what
  have known : kind ≠ .reaction ∧ (talent = "e" ∨ talent = "q") := by
    simp only [List.mem_cons, Prod.mk.injEq, List.not_mem_nil, or_false] at among
    rcases among with ⟨rfl, rfl⟩ | ⟨rfl, rfl⟩ | ⟨rfl, rfl⟩ | ⟨rfl, rfl⟩ <;> decide
  unfold addSupportRow at step
  split at step
  · cases step
    exact .refl
  · obtain ⟨found, made, step⟩ := bind_ok _ _ _ step
    split at step
    · exact .one _ (.support kind talent known.1 known.2 made) step
    · cases step
      exact .refl

theorem alias_rows_push (game : kit.game = .gs) (done : addAliasRows kit b = .ok b') : Pushes (OfKit kit) b b' := by
  refine pushes_fold _ _ (fun b entry b' known step => ?_) done
  unfold addAliasRow at step
  split at step
  · cases step
    exact .refl
  · rename_i d made
    split at step
    · cases step
      exact .refl
    · exact .one d (.attack game entry known made) step

theorem transformative_row_push (game : kit.game = .gs) (done : addTransformativeRow kit b = .ok b') :
    Pushes (OfKit kit) b b' := by
  unfold addTransformativeRow at done
  split at done
  · cases done
    exact .refl
  · split at done
    · rename_i d made
      exact .one d (.transformative game made) done
    · cases done
      exact .refl

theorem variant_base_among (reaction : String) (details : List Detail) (d : Detail)
    (member : d ∈ variantBases reaction details) : d ∈ details := by
  have part : ∀ d ∈ details.filter fun d => isPlainDamage d && !Detail.isGiven d.element, d ∈ details := fun d among =>
    (List.mem_filter.mp among).1
  unfold variantBases at member
  dsimp only at member
  rcases List.mem_append.mp member with others | burst
  · rcases List.mem_append.mp others with charged | skill
    · split at charged
      · exact part d (List.mem_of_find?_eq_some (Option.mem_toList.mp charged))
      · cases charged
    · exact part d (List.mem_filter.mp (List.mem_of_mem_take skill)).1
  · exact part d (List.mem_filter.mp (List.mem_of_mem_take burst)).1

theorem reaction_variants_push (done : addReactionVariants kit b = .ok b') :
    Pushes (IsVariantOf kit b.details) b b' := by
  unfold addReactionVariants at done
  split at done
  · cases done
    exact .refl
  · rename_i reaction found
    refine pushes_fold _ _ (fun _ d _ member pushed => .one d ?_ pushed) done
    obtain ⟨base, among, made⟩ := List.mem_filterMap.mp member
    exact ⟨reaction, found, base, variant_base_among reaction _ base among, made⟩

theorem multi_hit_totals_push (done : addMultiHitTotals kit b = .ok b') : Pushes (IsTotalOf kit b.details) b b' := by
  refine pushes_fold _ _ (fun _ base _ there step => ?_) done
  obtain ⟨total, made, step⟩ := bind_ok _ _ _ step
  split at step
  · exact .one _ ⟨base, there, made⟩ (map_error_ok _ _ _ step)
  · cases step
    exact .refl

end Pushing

theorem groups_grow (Q : Row → Prop) (groups : List (String × List Row)) (key : String) (row : Row)
    (each : ∀ group ∈ groups, ∀ r ∈ group.2, Q r) (own : Q row) :
    ∀ group ∈ addToGroups groups key row, ∀ r ∈ group.2, Q r := by
  unfold addToGroups
  split
  · intro group member r among
    obtain ⟨⟨k, rows⟩, there, rfl⟩ := List.mem_map.mp member
    dsimp only at among
    split at among
    · rcases List.mem_append.mp among with old | added
      · exact each (k, rows) there r old
      · rw [List.mem_singleton.mp added]
        exact own
    · exact each (k, rows) there r among
  · intro group member r among
    rcases List.mem_append.mp member with there | opened
    · exact each group there r among
    · rw [List.mem_singleton.mp opened] at among
      rw [List.mem_singleton.mp among]
      exact own

theorem blast_group_among (rows : List Row) (groups : List (List Row)) (grouped : blastGroups rows = .ok groups)
    (group : List Row) (member : group ∈ groups) (r : Row) (among : r ∈ group) : r ∈ rows ∧ r.detail.kind = .dmg := by
  obtain ⟨keyed, made, shape⟩ := bind_ok _ _ _ grouped
  cases shape
  obtain ⟨⟨key, rows'⟩, there, rfl⟩ := List.mem_map.mp member
  refine List.foldlRecOn
    (motive := fun groups : List (String × List Row) => ∀ group ∈ groups, ∀ r ∈ group.2, r ∈ rows ∧ r.detail.kind = .dmg)
    _ _ (fun group none => absurd none List.not_mem_nil) (fun groups kept row grouped => ?_) (key, rows') there r among
  obtain ⟨own, inside, entry⟩ := map_m_ok _ _ _ made row grouped
  obtain ⟨title, -, rfl⟩ := map_ok _ _ _ entry
  obtain ⟨inside, damage⟩ := List.mem_filter.mp inside
  simp only [Bool.and_eq_true, decide_eq_true_eq] at damage
  exact groups_grow _ groups _ own kept ⟨inside, damage.1⟩

theorem blast_pair_among (group : List Row) (adjacent main : Row) (found : blastPair? group = some (adjacent, main)) :
    adjacent ∈ group ∧ main ∈ group ∧ isAdjacent adjacent.detail = true := by
  unfold blastPair? at found
  simp only [Option.bind_eq_bind, Option.bind_eq_some_iff] at found
  obtain ⟨first, near, second, far, same⟩ := found
  split at same
  · cases same
    have beside := List.find?_some near
    simp only [Bool.and_eq_true] at beside
    refine ⟨List.mem_of_find?_eq_some near, ?_, beside.1⟩
    rcases Option.or_eq_some_iff.mp far with marked | ⟨-, other⟩
    · exact List.mem_of_find?_eq_some marked
    · exact List.mem_of_find?_eq_some other
  · cases same

/-- What a group of rows comes to: nothing, or a complete row that is added, or one in the place of a row of the group
that is complete already or, for want of room, about adjacent targets only. -/
inductive Blasts (kit : Kit) (b : Budget) (group : List Row) : Budget → Prop
  | none : Blasts kit b group b
  | overwritten (adjacent main old : Row) (d : Detail) (pair : blastPair? group = some (adjacent, main))
      (made : completeRow kit adjacent.detail main.detail = .ok d) (member : old ∈ group)
      (gives : completeMarker.occursIn old.detail.title = true ∨ isAdjacent old.detail = true ∧ b.isFull = true) :
      Blasts kit b group (b.update old.tag d)
  | added {b' : Budget} (adjacent main : Row) (d : Detail) (pair : blastPair? group = some (adjacent, main))
      (made : completeRow kit adjacent.detail main.detail = .ok d) (room : b.isFull = false) (pushed : b.push d = .ok b') :
      Blasts kit b group b'

theorem blast_cases (kit : Kit) (b : Budget) (group : List Row) (b' : Budget) (done : addBlastTotal kit b group = .ok b') :
    Blasts kit b group b' := by
  unfold addBlastTotal at done
  split at done
  · cases done
    exact .none
  · rename_i adjacent main pair
    obtain ⟨near, -, beside⟩ := blast_pair_among group adjacent main pair
    obtain ⟨d, made, done⟩ := bind_ok _ _ _ done
    split at done
    · rename_i old found
      have marked := List.find?_some found
      cases done
      exact .overwritten adjacent main old d pair made (List.mem_of_find?_eq_some found) (.inl marked)
    · split at done
      · rename_i full
        cases done
        exact .overwritten adjacent main adjacent d pair made near (.inr ⟨beside, full⟩)
      · rename_i room
        exact .added adjacent main d pair made (by simpa using room) done

theorem blast_grows (kit : Kit) (b : Budget) (group : List Row) (b' : Budget) (done : addBlastTotal kit b group = .ok b') :
    Budget.Grows b b' := by
  cases blast_cases kit b group b' done with
  | none => exact Budget.grows_refl b
  | overwritten => exact Budget.update_grows b _ _
  | added _ _ d _ _ _ pushed => exact Budget.push_grows b d b' pushed

def Completes (kit : Kit) (rows group : List Row) (d : Detail) : Prop :=
  (∃ groups, blastGroups rows = .ok groups ∧ group ∈ groups) ∧
    ∃ adjacent main, blastPair? group = some (adjacent, main) ∧ completeRow kit adjacent.detail main.detail = .ok d

/-- The complete row of a group goes over a row of it: one that is complete already, or, when there is no room left, one
of adjacent targets. -/
def Overlays (kit : Kit) (rows : List Row) (full : Bool) (old : Row) (d : Detail) : Prop :=
  ∃ group, Completes kit rows group d ∧ old ∈ group ∧
    (completeMarker.occursIn old.detail.title = true ∨ isAdjacent old.detail = true ∧ full = true)

theorem Overlays.among {kit : Kit} {rows : List Row} {full : Bool} {old : Row} {d : Detail}
    (overlays : Overlays kit rows full old d) : old ∈ rows ∧ old.detail.kind = .dmg := by
  obtain ⟨group, ⟨⟨groups, grouped, member⟩, -⟩, inside, -⟩ := overlays
  exact blast_group_among rows groups grouped group member old inside

theorem blast_groups_grow (kit : Kit) (groups : List (List Row)) (b b' : Budget)
    (done : groups.foldlM (addBlastTotal kit) b = .ok b') : Budget.Grows b b' :=
  fold_m_keeps (I := Budget.Grows b) groups _ (fun b group b' _ step grown => grown.trans (blast_grows kit b group b' step))
    b b' done (Budget.grows_refl b)

-- Induction on the groups that are left, with the budget generalised: each budget on the way grows to the last one, so
-- that there is room in it if there is in the end.
theorem blast_groups_keep {kit : Kit} {rows : List Row} {all : List (List Row)} (grouped : blastGroups rows = .ok all)
    {last : Budget} {I : Budget → Prop} (groups : List (List Row)) (part : groups ⊆ all) (b : Budget)
    (done : groups.foldlM (addBlastTotal kit) b = .ok last) (start : I b)
    (overlay : ∀ b old d, Overlays kit rows last.isFull old d → I b → I (b.update old.tag d))
    (push : ∀ b group d b', Completes kit rows group d → b.isFull = false → b.push d = .ok b' → I b → I b') : I last := by
  induction groups generalizing b with
  | nil =>
    cases done
    exact start
  | cons group rest ih =>
    have member := part List.mem_cons_self
    have grows : Budget.Grows b last := blast_groups_grow kit (group :: rest) b last done
    rw [List.foldlM_cons] at done
    obtain ⟨b', first, done⟩ := bind_ok _ _ _ done
    refine ih (fun other among => part (List.mem_cons_of_mem _ among)) b' done ?_
    cases blast_cases kit b group b' first with
    | none => exact start
    | overwritten adjacent main old d pair made among gives =>
      refine overlay b old d ⟨group, ⟨⟨all, grouped, member⟩, adjacent, main, pair, made⟩, among, ?_⟩ start
      exact gives.imp_right fun ⟨beside, full⟩ => ⟨beside, grows.full full⟩
    | added adjacent main d pair made room pushed =>
      exact push b group d b' ⟨⟨all, grouped, member⟩, adjacent, main, pair, made⟩ room pushed start

theorem Overlays.mono {kit : Kit} {rows : List Row} {full full' : Bool} {old : Row} {d : Detail}
    (overlays : Overlays kit rows full old d) (more : full = true → full' = true) : Overlays kit rows full' old d := by
  obtain ⟨group, completes, among, gives⟩ := overlays
  exact ⟨group, completes, among, gives.imp_right fun ⟨beside, want⟩ => ⟨beside, more want⟩⟩

theorem blasts_keep (kit : Kit) (b last : Budget) (done : addBlastTotals kit b = .ok last) {I : Budget → Prop} (start : I b)
    (overlay : ∀ b' old d, Overlays kit b.rows last.isFull old d → I b' → I (b'.update old.tag d))
    (push : ∀ b' group d c, Completes kit b.rows group d → b'.isFull = false → b'.push d = .ok c → I b' → I c) :
    I last := by
  obtain ⟨groups, grouped, done⟩ := bind_ok _ _ _ done
  exact blast_groups_keep grouped groups (List.Subset.refl _) b done start overlay push

def openedBudget (kit : Kit) (b : Budget) : Except IntegerTooLong Budget :=
  match kit.game with
  | .gs => mapBurstState kit b
  | .sr => .ok b

def opening (kit : Kit) (d : Detail) : Detail :=
  if kit.game = .gs ∧ convertsAttacks kit = .ok true then burstStateRow d else d

theorem opened_rows (kit : Kit) (b b' : Budget) (opened : openedBudget kit b = .ok b') :
    b' = { b with rows := b.rows.map fun row => { row with detail := opening kit row.detail } } := by
  unfold openedBudget at opened
  split at opened
  · rename_i game
    obtain ⟨converts, told, rfl⟩ := map_ok _ _ _ opened
    cases converts <;> simp [opening, game, told]
  · rename_i game
    cases opened
    simp [opening, game]

theorem opened_grows (kit : Kit) (b b' : Budget) (opened : openedBudget kit b = .ok b') : Budget.Grows b b' := by
  rw [opened_rows kit b b' opened]
  exact ⟨rfl, by simp⟩

theorem opened_details (kit : Kit) (b b' : Budget) (opened : openedBudget kit b = .ok b') :
    b'.details = b.details.map (opening kit) := by
  rw [opened_rows kit b b' opened]
  simp [Budget.details]

theorem rules_cons (kit : Kit) (rule : Rule) (rules : List Rule) (b b' : Budget)
    (done : applyRules kit (rule :: rules) b = .ok b') :
    ∃ next, rule kit b = .ok next ∧ applyRules kit rules next = .ok b' := by
  rw [applyRules, List.foldlM_cons] at done
  exact bind_ok _ _ _ done

theorem first_rules_push (kit : Kit) (b b' : Budget) (done : applyRules kit (firstRules kit.game) b = .ok b') :
    ∃ opened core, openedBudget kit b = .ok opened ∧ addCoreRows kit opened = .ok core ∧
      Pushes (fun _ => True) core b' := by
  unfold openedBudget
  cases game : kit.game with
  | gs =>
    rw [game] at done
    obtain ⟨opened, mapped, done⟩ := rules_cons kit _ _ _ _ done
    obtain ⟨core, cored, done⟩ := rules_cons kit _ _ _ _ done
    obtain ⟨supported, support, done⟩ := rules_cons kit _ _ _ _ done
    obtain ⟨aliased, aliasing, done⟩ := rules_cons kit _ _ _ _ done
    obtain ⟨varied, variants, done⟩ := rules_cons kit _ _ _ _ done
    cases done
    exact ⟨opened, core, mapped, cored, (((support_rows_push kit support).mono fun _ _ => trivial).trans
      ((alias_rows_push kit game aliasing).mono fun _ _ => trivial)).trans
      ((reaction_variants_push kit variants).mono fun _ _ => trivial)⟩
  | sr =>
    rw [game] at done
    obtain ⟨core, cored, done⟩ := rules_cons kit _ _ _ _ done
    obtain ⟨supported, support, done⟩ := rules_cons kit _ _ _ _ done
    cases done
    exact ⟨b, core, rfl, cored, (support_rows_push kit support).mono fun _ _ => trivial⟩

theorem last_rules_push (kit : Kit) (b b' : Budget) (done : applyRules kit (lastRules kit.game) b = .ok b') :
    ∃ blasted, addBlastTotals kit b = .ok blasted ∧ Pushes (OfKit kit) blasted b' := by
  cases game : kit.game with
  | gs =>
    rw [game] at done
    obtain ⟨blasted, blasts, done⟩ := rules_cons kit _ _ _ _ done
    obtain ⟨transformed, transforms, done⟩ := rules_cons kit _ _ _ _ done
    cases done
    exact ⟨blasted, blasts, transformative_row_push kit game transforms⟩
  | sr =>
    rw [game] at done
    obtain ⟨blasted, blasts, done⟩ := rules_cons kit _ _ _ _ done
    cases done
    exact ⟨_, blasts, .refl⟩

/-- The budgets that enrichment goes through: as the rules that add rows leave it, with the totals of several hits, and
as it is in the end. -/
structure Stages (kit : Kit) (details : List Detail) (policy : EvictionPolicy) (cap : Int) (enriched : List Detail) where
  filled : Budget
  totalled : Budget
  finished : Budget
  fills : applyRules kit (firstRules kit.game) (Budget.ofDetails cap policy details) = .ok filled
  totals : addMultiHitTotals kit filled = .ok totalled
  finishes : applyRules kit (lastRules kit.game) totalled = .ok finished
  ends : enriched = finished.details

theorem enriched_stages (kit : Kit) (details enriched : List Detail) (policy : EvictionPolicy) (cap : Int)
    (made : enrich kit details policy cap = .ok enriched) : Nonempty (Stages kit details policy cap enriched) := by
  obtain ⟨filled, fills, made⟩ := lifted_ok _ _ _ _ made
  obtain ⟨totalled, totals, made⟩ := bind_ok _ _ _ made
  obtain ⟨finished, finishes, shape⟩ := lifted_ok _ _ _ _ made
  cases shape
  exact ⟨⟨filled, totalled, finished, fills, totals, finishes, rfl⟩⟩

end DamagePlan.Enrichment
