import DamagePlan.Proofs.Refine.Places
import DamagePlan.Proofs.Refine.Titles

/-!
Protected rows: of the rows a plan comes with, enrichment gives up those of normal attacks for want of room and those
that are about some of the targets only, and turns rows of a burst into rows of its state. All others stay as they are,
in their places.
-/
set_option autoImplicit false

namespace DamagePlan.Enrichment

open Text (Place Pattern)
open Decimal (IntegerTooLarge)
open Budget (Succeeds Distinct)

def isUnmarked (d : Detail) : Bool := !completeMarker.occursIn d.title && !isAdjacent d

def GivesWay (count : Nat) (d : Detail) : Prop :=
  d.kind = .dmg ∧ (isUnmarked d = false ∨ d.talent = some "a" ∧ Plan.maxDetails ≤ count)

theorem GivesWay.mono {count count' : Nat} {d : Detail} (gives : GivesWay count d) (more : count ≤ count') :
    GivesWay count' d := ⟨gives.1, gives.2.imp_right fun attack => ⟨attack.1, Nat.le_trans attack.2 more⟩⟩

theorem complete_gives_way (d : Detail) (damage : d.kind = .dmg) (marked : completeMarker.occursIn d.title = true)
    (count : Nat) : GivesWay count d := ⟨damage, .inl (by simp [isUnmarked, marked])⟩

theorem adjacent_gives_way (d : Detail) (damage : d.kind = .dmg) (marked : isAdjacent d = true) (count : Nat) :
    GivesWay count d := ⟨damage, .inl (by simp [isUnmarked, marked])⟩

def Stays (count : Nat) (row row' : Row) : Prop := row'.detail = row.detail ∨ GivesWay count row.detail

theorem Stays.mono {count count' : Nat} {row row' : Row} (stays : Stays count row row') (more : count ≤ count') :
    Stays count' row row' := stays.imp_right fun gives => gives.mono more

theorem Stays.trans {count : Nat} {row row' row'' : Row} (first : Stays count row row') (second : Stays count row' row'') :
    Stays count row row'' := by
  rcases first with same | gives
  · rwa [Stays, same] at second
  · exact .inr gives

structure Orderly (b : Budget) : Prop extends Distinct b where
  capped : b.cap = Plan.maxDetails
  standard : b.policy = .default
  few : b.rows.length ≤ Plan.maxDetails

theorem full_count {b : Budget} (orderly : Orderly b) (full : b.isFull = true) : Plan.maxDetails ≤ b.rows.length := by
  simp only [Budget.isFull, orderly.capped, decide_eq_true_eq] at full
  omega

structure Shelters (start b : Budget) : Prop extends Orderly b where
  stays : Succeeds (Stays b.rows.length) start b

theorem Orderly.shelters {b : Budget} (orderly : Orderly b) : Shelters b b :=
  ⟨orderly, Budget.succeeds_refl fun _ => .inl rfl⟩

variable {start b : Budget}

theorem Shelters.step {b' : Budget} (shelters : Shelters start b) (orderly : Orderly b')
    (follows : Succeeds (Stays b'.rows.length) b b') : Shelters start b' :=
  ⟨orderly, shelters.stays.trans follows fun _ _ _ first second => (first.mono follows.longer).trans second⟩

theorem push_step (orderly : Orderly b) (d : Detail) (b' : Budget) (pushed : b.push d = .ok b') :
    Orderly b' ∧ Succeeds (Stays b'.rows.length) b b' := by
  obtain ⟨taken, adds⟩ := Budget.push_cases b d b' pushed
  cases adds with
  | known | refused => exact ⟨orderly, orderly.shelters.stays⟩
  | appended _ room =>
    refine ⟨⟨Budget.append_distinct orderly.toDistinct d, orderly.capped, orderly.standard, ?_⟩,
      (Budget.succeeds_refl fun _ => .inl rfl).append _⟩
    simp only [Budget.isFull, orderly.capped, decide_eq_false_iff_not] at room
    simp only [List.length_append, List.length_singleton]
    omega
  | evicting _ full i old chosen =>
    rw [orderly.standard] at chosen
    refine ⟨⟨Budget.evict_distinct orderly.toDistinct i old d, orderly.capped, orderly.standard, ?_⟩,
      (Budget.succeeds_refl fun _ => .inl rfl).set i _ _ fun row among => .inr ?_⟩
    · simpa using orderly.few
    · obtain ⟨e, found, attack⟩ := EvictionPolicy.default_chooses_attack _ _ i chosen
      rw [Budget.details, List.getElem?_map, among, Option.map_some, Option.some.injEq] at found
      simp only [RowClass.isAttack, Bool.and_eq_true, decide_eq_true_eq, ← found] at attack
      exact ⟨attack.1.1, .inr ⟨attack.1.2, by simpa using full_count orderly full⟩⟩

theorem Pushes.shelter {M : Detail → Prop} {b' : Budget} (pushes : Pushes M b b') (shelters : Shelters start b) :
    Shelters start b' :=
  pushes.keeps shelters fun _ d b' _ pushed kept =>
    let ⟨orderly, follows⟩ := push_step kept.toOrderly d b' pushed
    kept.step orderly follows

theorem update_orderly {R : Row → Row → Prop} {b' : Budget} (orderly : Orderly b') (follows : Succeeds R b b')
    (tagged : ∀ row row', R row row' → row'.tag = row.tag) (old : Row) (member : old ∈ b.rows) (d : Detail) :
    Orderly (b'.update old.tag d) := by
  obtain ⟨i, there⟩ := List.mem_iff_getElem?.mp member
  obtain ⟨row, there', step⟩ := follows i old there
  rw [← tagged _ _ step]
  refine ⟨Budget.update_distinct orderly.toDistinct i row there' d, ?_, ?_, ?_⟩
  all_goals rw [Budget.update_shape orderly.toDistinct i row there' d]
  · exact orderly.capped
  · exact orderly.standard
  · simpa using orderly.few

theorem append_succeeds {R : Row → Row → Prop} {b' c : Budget} (follows : Succeeds R b b') (room : b'.isFull = false)
    (d : Detail) (pushed : b'.push d = .ok c) : Succeeds R b c := by
  obtain ⟨taken, adds⟩ := Budget.push_cases b' d c pushed
  cases adds with
  | known | refused => exact follows
  | appended => exact follows.append _
  | evicting _ full => simp [room] at full

-- Groups hold rows as they were when the rule began. A row that is overwritten since then has kept its tag, by which its
-- place is found again.
theorem blasts_succeed (kit : Kit) {R : Row → Row → Prop} (own : ∀ row, R row row)
    (tagged : ∀ row row', R row row' → row'.tag = row.tag) (orderly : Orderly b) {last : Budget}
    (done : addBlastTotals kit b = .ok last) (fits : ∀ old d, Overlays kit b.rows last.isFull old d → R old ⟨old.tag, d⟩) :
    Orderly last ∧ Succeeds R b last := by
  refine blasts_keep kit b last done (I := fun b' => Orderly b' ∧ Succeeds R b b') ⟨orderly, Budget.succeeds_refl own⟩
    (fun b' old d overlays kept => ?_) fun b' _ d c _ room pushed kept => ?_
  · obtain ⟨orderly', follows⟩ := kept
    obtain ⟨inside, -⟩ := overlays.among
    exact ⟨update_orderly orderly' follows tagged old inside d,
      Budget.update_succeeds orderly'.toDistinct follows tagged old inside d (fits old d overlays)⟩
  · exact ⟨(push_step kept.1 d c pushed).1, append_succeeds kept.2 room d pushed⟩

def Tagged (row row' : Row) : Prop := row'.tag = row.tag ∧ ∀ count, Stays count row row'

theorem blast_totals_shelter (kit : Kit) (shelters : Shelters start b) {last : Budget}
    (done : addBlastTotals kit b = .ok last) : Shelters start last := by
  obtain ⟨orderly, follows⟩ := blasts_succeed kit (R := Tagged) (fun _ => ⟨rfl, fun _ => .inl rfl⟩) (fun _ _ step => step.1)
    shelters.toOrderly done fun old d overlays => by
      obtain ⟨-, damage⟩ := overlays.among
      obtain ⟨group, -, -, gives⟩ := overlays
      refine ⟨rfl, fun count => .inr ?_⟩
      rcases gives with complete | ⟨beside, -⟩
      · exact complete_gives_way _ damage complete count
      · exact adjacent_gives_way _ damage beside count
  refine shelters.step orderly fun i row there => ?_
  obtain ⟨row', there', -, stays⟩ := follows i row there
  exact ⟨row', there', stays _⟩

def hintsTargets (c : Char) : Bool := ['完', 'p', '相', 'j'].any fun letter => Text.foldsTo letter c

theorem targets_hinted (title : String) (plain : title.toList.all (!hintsTargets ·) = true) :
    completeMarker.occursIn title = false ∧ adjacentMarker.occursIn title = false := by
  have hints : ∀ letter ∈ ['完', 'p', '相', 'j'], ∀ c, Text.foldsTo letter c = true → hintsTargets c = true := fun letter one c folds =>
    List.any_eq_true.mpr ⟨letter, one, folds⟩
  have none : ∀ c ∈ title.toList, hintsTargets c = false := by simpa using plain
  constructor
  · refine Pattern.occurs_needs (Pattern.needs_either ?_ ?_) title none
    · exact Pattern.text_needs "完整" '完' (by decide) _ (hints _ (by decide))
    · exact Pattern.text_needs "complete" 'p' (by decide) _ (hints _ (by decide))
  · refine Pattern.occurs_needs (Pattern.needs_either ?_ ?_) title none
    · exact Pattern.text_needs "相邻目标" '相' (by decide) _ (hints _ (by decide))
    · exact Pattern.text_needs "adjacent" 'j' (by decide) _ (hints _ (by decide))

theorem decimal_digit_plain (c : Char) (digit : Text.isDecimalDigit c = true) : hintsTargets c = false := by
  have letters : (['完', 'p', '相', 'j'].all fun letter =>
      (Text.caseClass letter).all fun n => !Text.isDecimalDigit (Char.ofNat n)) = true := by decide +kernel
  rw [hintsTargets, List.any_eq_false]
  intro letter one folds
  have none := List.all_eq_true.mp (List.all_eq_true.mp letters letter one) _ (Text.digit_folds letter c digit folds)
  rw [Char.ofNat_toNat, digit] at none
  cases none

theorem han_numerals_plain : hanNumerals.all (!hintsTargets ·) = true := by decide +kernel

theorem middle_dot_plain : hintsTargets '·' = false := by
  have outside : Text.lowerRuns.findSome? (·.target? 183) = none := by
    rw [← Array.findSome?_toList]
    decide +kernel
  have same : Text.lowerChar '·' = '·' := by
    unfold Text.lowerChar
    dsimp only
    rw [show ('·' : Char).toNat = 183 from rfl, outside]
    rfl
  simp only [hintsTargets, Text.foldsTo, same]
  decide +kernel

theorem state_words_plain : stateWords.all (fun word => word.toList.all (!hintsTargets ·)) = true := by
  have others : (stateWords.all fun word => word.toList.all fun c => c == '·' || !hintsTargets c) = true := by decide +kernel
  refine List.all_eq_true.mpr fun word among => List.all_eq_true.mpr fun c member => ?_
  have known := List.all_eq_true.mp (List.all_eq_true.mp others word among) c member
  simp only [Bool.or_eq_true, beq_iff_eq] at known
  rcases known with rfl | plain
  · simp [middle_dot_plain]
  · exact plain

theorem burst_attack_unmarked (table key title : String) (found : burstAttack? table = some (key, title)) :
    completeMarker.occursIn title = false ∧ adjacentMarker.occursIn title = false := by
  have words : ∀ word ∈ stateWords, ∀ c ∈ word.toList, (!hintsTargets c) = true := fun word among =>
    List.all_eq_true.mp (List.all_eq_true.mp state_words_plain word among)
  have digits : ∀ c, Text.isDecimalDigit c = true → (!hintsTargets c) = true := by
    intro c digit
    rw [decimal_digit_plain c digit]
    rfl
  rcases burst_title_letters _ words (List.all_eq_true.mp han_numerals_plain) digits table key title found with fixed | letters
  · have unmarked : (fixedStateTitles.all fun title =>
        !completeMarker.occursIn title && !adjacentMarker.occursIn title) = true := by decide +kernel
    simpa using List.all_eq_true.mp unmarked title fixed
  · exact targets_hinted title (List.all_eq_true.mpr letters)

def InState (d d' : Detail) : Prop := ∃ key title params, d' = { d with key, title, params }

theorem burst_state_row_shape (d : Detail) :
    burstStateRow d = d ∨ d.kind = .dmg ∧ d.talent = some "q" ∧ InState d (burstStateRow d) ∧
      (isUnmarked d = true → isUnmarked (burstStateRow d) = true) := by
  unfold burstStateRow
  split
  · exact .inl rfl
  · rename_i burst
    simp only [Bool.or_eq_true, bne_iff_ne, not_or, not_not, Bool.not_eq_true', Bool.not_eq_false] at burst
    split
    · exact .inl rfl
    · rename_i key title found
      have plain := burst_attack_unmarked _ key title found
      refine .inr ⟨burst.1.1.1, burst.1.1.2, ⟨_, _, _, rfl⟩, fun unmarked => ?_⟩
      -- the table is the same, and the new title has no marker
      simp only [isUnmarked, isAdjacent, Bool.and_eq_true, Bool.not_eq_true', Bool.or_eq_false_iff] at unmarked ⊢
      exact ⟨plain.1, plain.2, unmarked.2.2⟩

/-- What becomes of a row in a plan that enrichment brings to so many rows. -/
structure Protects (game : Game) (count : Nat) (d d' : Detail) : Prop where
  other : d.kind ≠ .dmg → d' = d
  apart : d.kind = .dmg → isUnmarked d = true → d.talent ≠ some "a" → d.talent ≠ some "q" → d' = d
  attack : d.kind = .dmg → isUnmarked d = true → d.talent = some "a" → d' = d ∨ count = Plan.maxDetails
  burst : d.kind = .dmg → isUnmarked d = true → d.talent = some "q" → d' = d ∨ game = .gs ∧ InState d d'

theorem unmarked_stays {count : Nat} {first last : Detail} (stays : last = first ∨ GivesWay count first)
    (unmarked : isUnmarked first = true) : last = first ∨ first.talent = some "a" ∧ Plan.maxDetails ≤ count := by
  refine stays.imp_right fun gives => ?_
  rcases gives.2 with marked | attack
  · rw [unmarked] at marked
    cases marked
  · exact attack

theorem kept_row_protects (game : Game) {count : Nat} (few : count ≤ Plan.maxDetails) {d last : Detail}
    (stays : last = d ∨ GivesWay count d) : Protects game count d last where
  other := fun other => stays.resolve_right fun gives => other gives.1
  apart := fun _ unmarked noAttack _ => (unmarked_stays stays unmarked).resolve_right fun attack => noAttack attack.1
  attack := fun _ unmarked _ => (unmarked_stays stays unmarked).imp_right fun full => Nat.le_antisymm few full.2
  burst := fun _ unmarked burst => .inl ((unmarked_stays stays unmarked).resolve_right fun attack => by simp [burst] at attack)

theorem state_row_protects {game : Game} (converts : game = .gs) {count : Nat} {d last : Detail} (damage : d.kind = .dmg) (burst : d.talent = some "q")
    (state : InState d (burstStateRow d)) (keeps : isUnmarked d = true → isUnmarked (burstStateRow d) = true)
    (stays : last = burstStateRow d ∨ GivesWay count (burstStateRow d)) : Protects game count d last where
  other := fun other => absurd damage other
  apart := fun _ _ _ noBurst => absurd burst noBurst
  attack := fun _ _ attack => by simp [burst] at attack
  burst := fun _ unmarked _ => by
    obtain ⟨key, title, params, shape⟩ := state
    rcases unmarked_stays stays (keeps unmarked) with same | ⟨attack, -⟩
    · exact .inr ⟨converts, key, title, params, same.trans shape⟩
    · rw [shape] at attack
      simp [burst] at attack

def Opens (game : Game) (row row' : Row) : Prop :=
  row'.detail = row.detail ∨ game = .gs ∧ row'.detail = burstStateRow row.detail

theorem burst_state_opens (kit : Kit) (game : kit.game = .gs) (orderly : Orderly b) {b' : Budget}
    (done : mapBurstState kit b = .ok b') : Orderly b' ∧ Succeeds (Opens kit.game) b b' := by
  obtain ⟨converts, -, rfl⟩ := map_ok _ _ _ done
  split
  · have tags : (b.rows.map fun row => { row with detail := burstStateRow row.detail }).map (·.tag) = b.rows.map (·.tag) := by
      simp [Function.comp_def]
    refine ⟨⟨⟨by rw [tags]; exact orderly.apart, fun row member => ?_⟩, orderly.capped, orderly.standard,
      by simpa using orderly.few⟩, fun i row there => ?_⟩
    · obtain ⟨old, among, rfl⟩ := List.mem_map.mp member
      simpa [Budget.nextTag] using orderly.below old among
    · exact ⟨_, by rw [List.getElem?_map, there, Option.map_some], .inr ⟨game, rfl⟩⟩
  · exact ⟨orderly, Budget.succeeds_refl fun _ => .inl rfl⟩

theorem opened_budget_opens (kit : Kit) (orderly : Orderly b) {b' : Budget} (opened : openedBudget kit b = .ok b') :
    Orderly b' ∧ Succeeds (Opens kit.game) b b' := by
  unfold openedBudget at opened
  split at opened
  · rename_i game
    exact burst_state_opens kit game orderly opened
  · cases opened
    exact ⟨orderly, Budget.succeeds_refl fun _ => .inl rfl⟩

theorem last_rules_shelter (kit : Kit) (shelters : Shelters start b) {b' : Budget}
    (done : applyRules kit (lastRules kit.game) b = .ok b') : Shelters start b' := by
  obtain ⟨blasted, blasts, pushes⟩ := last_rules_push kit b b' done
  exact pushes.shelter (blast_totals_shelter kit shelters blasts)

theorem of_details_orderly (details : List Detail) (few : details.length ≤ Plan.maxDetails) :
    Orderly (Budget.ofDetails Plan.maxDetails .default details) ∧
      (Budget.ofDetails Plan.maxDetails .default details).rows = Budget.tagged details := by
  have counted : (Budget.tagged details).length = details.length := by simp [Budget.tagged]
  have whole : Budget.ofDetails Plan.maxDetails .default details = ⟨Plan.maxDetails, .default, Budget.tagged details, []⟩ := by
    have positive : ¬(Plan.maxDetails : Int) < 0 := by omega
    rw [Budget.ofDetails, Budget.ofRows, if_neg positive, Int.toNat_natCast, List.take_of_length_le (by omega)]
  rw [whole]
  exact ⟨⟨Budget.tagged_distinct _ _ details, rfl, rfl, by simpa [counted] using few⟩, rfl⟩

/-- Enrichment gives up no protected row: the plan does not shrink, it does not outgrow the cap, and every row is in its
place, unchanged but for attacks that make room, rows of some targets and rows of a burst's state. It fails only where
the kit does not tell a schema or a stat or where a title or the name of a table cannot be read. -/
theorem enrichment_protects (kit : Kit) (details : List Detail) (few : details.length ≤ Plan.maxDetails) :
    (∀ enriched, enrich kit details = .ok enriched →
      details.length ≤ enriched.length ∧ enriched.length ≤ Plan.maxDetails ∧
        ∀ (i : Nat) (d : Detail), details[i]? = some d →
          ∃ d', enriched[i]? = some d' ∧ Protects kit.game enriched.length d d') ∧
    (Legible kit → (∀ d ∈ details, Readable d) → ∃ enriched, enrich kit details = .ok enriched) := by
  constructor
  · intro enriched made
    obtain ⟨filled, totalled, finished, fills, totals, finishes, rfl⟩ := enriched_stages kit details enriched _ _ made
    obtain ⟨orderly, rows⟩ := of_details_orderly details few
    obtain ⟨opened, core, opening, cored, pushes⟩ := first_rules_push kit _ filled fills
    obtain ⟨begin_, opens⟩ := opened_budget_opens kit orderly opening
    have first := pushes.shelter ((core_rows_push kit cored).shelter begin_.shelters)
    have last := last_rules_shelter kit ((multi_hit_totals_push kit totals).shelter first) finishes
    have counted : details.length = (Budget.ofDetails Plan.maxDetails .default details).rows.length := by
      simp [rows, Budget.tagged]
    simp only [Budget.details, List.length_map, counted]
    refine ⟨Nat.le_trans opens.longer last.stays.longer, last.few, fun i d there => ?_⟩
    -- the row from the plan, the one the rules begin with, and the one they end with
    obtain ⟨row, placed, rfl⟩ : ∃ row, (Budget.tagged details)[i]? = some row ∧ row.detail = d := by
      rw [← Budget.tagged_details details, List.getElem?_map] at there
      exact Option.map_eq_some_iff.mp there
    obtain ⟨begun, at_, opening⟩ := opens i row (by rw [rows, placed])
    obtain ⟨kept, end_, stays⟩ := last.stays i begun at_
    refine ⟨kept.detail, by rw [List.getElem?_map, end_, Option.map_some], ?_⟩
    rcases opening with same | ⟨game, state⟩
    · rw [Stays, same] at stays
      exact kept_row_protects kit.game last.few stays
    · rw [Stays, state] at stays
      rcases burst_state_row_shape row.detail with same | ⟨damage, burst, shape, keeps⟩
      · rw [same] at stays
        exact kept_row_protects kit.game last.few stays
      · exact state_row_protects game damage burst shape keeps stays
  · intro legible each
    obtain ⟨enriched, made, -⟩ := enrichment_total legible details each .default Plan.maxDetails
    exact ⟨enriched, made⟩

def convertingKit : Kit where
  game := .gs
  name := "X"
  tables := [("q", ["1-Hit DMG", "Healing"])]
  descriptions := [("q", "Normal Attacks are converted to blows of the blade.")]

def burstRows : List Detail := [
  { title := "Blade", talent := some "q", table := some "1-Hit DMG" },
  { title := "Heal", kind := .heal, talent := some "q", table := some "Healing" }]

theorem burst_rows_protected : burstRows.length ≤ Plan.maxDetails ∧
    ∃ enriched, enrich convertingKit burstRows = .ok enriched ∧
      enriched.map (fun d => (d.title, d.damageKey)) = [("Burst State: Normal Attack 1-Hit", "a"), ("Heal", "q")] ∧
      ∀ (i : Nat) (d : Detail), burstRows[i]? = some d →
        ∃ d', enriched[i]? = some d' ∧ Protects convertingKit.game enriched.length d d' := by
  have few : burstRows.length ≤ Plan.maxDetails := by decide
  have shown : (enrich convertingKit burstRows).toOption.map (fun enriched => enriched.map fun d => (d.title, d.damageKey)) =
      some [("Burst State: Normal Attack 1-Hit", "a"), ("Heal", "q")] := by decide +kernel
  obtain ⟨enriched, made, rows⟩ := evaluated_ok _ _ _ shown
  have protects := (enrichment_protects convertingKit burstRows few).1 enriched made
  exact ⟨few, enriched, made, rows, protects.2.2⟩

end DamagePlan.Enrichment
