import DamagePlan.Proofs.Refine.Rules

/-!
Totals of all targets are of two rows, but for a row that is about the main target and about adjacent ones at once: that
row is combined with itself.
-/
set_option autoImplicit false

namespace DamagePlan.Enrichment

open Decimal (IntegerTooLong)

def blastKey (d : Detail) : Except IntegerTooLong String := Budget.titleKey (blastBaseTitle d.title)

def SameBase (d e : Detail) : Prop := ∃ key, blastKey d = .ok key ∧ blastKey e = .ok key

def KeyedBy (groups : List (String × List Row)) : Prop := ∀ group ∈ groups, ∀ r ∈ group.2, blastKey r.detail = .ok group.1

theorem add_to_groups_keyed (groups : List (String × List Row)) (key : String) (row : Row) (own : blastKey row.detail = .ok key)
    (keyed : KeyedBy groups) : KeyedBy (addToGroups groups key row) := by
  unfold addToGroups
  split
  · intro group member r among
    obtain ⟨⟨k, rows⟩, there, rfl⟩ := List.mem_map.mp member
    dsimp only at among ⊢
    split at among
    · rename_i same
      rw [if_pos same]
      rcases List.mem_append.mp among with old | added
      · exact keyed (k, rows) there r old
      · rw [List.mem_singleton.mp added, own, beq_iff_eq.mp same]
    · rename_i other
      rw [if_neg other]
      exact keyed (k, rows) there r among
  · intro group member r among
    rcases List.mem_append.mp member with there | opened
    · exact keyed group there r among
    · rw [List.mem_singleton.mp opened] at among ⊢
      rw [List.mem_singleton.mp among]
      exact own

def keyedRows (rows : List Row) : Except IntegerTooLong (List (String × Row)) :=
  (rows.filter fun r => r.detail.kind = .dmg && Detail.isGiven r.detail.talent).mapM fun r => (blastKey r.detail).map (·, r)

theorem keyed_rows_own (rows : List Row) (keyed : List (String × Row)) (made : keyedRows rows = .ok keyed) :
    ∀ entry ∈ keyed, blastKey entry.2.detail = .ok entry.1 := by
  intro entry member
  obtain ⟨r, -, key⟩ := map_m_ok _ _ _ made entry member
  obtain ⟨title, own, rfl⟩ := map_ok _ _ _ key
  exact own

theorem blast_group_keyed (rows : List Row) (groups : List (List Row)) (grouped : blastGroups rows = .ok groups)
    (group : List Row) (member : group ∈ groups) (r r' : Row) (among : r ∈ group) (among' : r' ∈ group) :
    SameBase r.detail r'.detail := by
  obtain ⟨keyed, made, shape⟩ := bind_ok _ _ _ grouped
  cases shape
  obtain ⟨⟨key, rows'⟩, there, rfl⟩ := List.mem_map.mp member
  have by_ := List.foldlRecOn (motive := KeyedBy) keyed (fun groups entry => addToGroups groups entry.1 entry.2)
    (fun group none => absurd none List.not_mem_nil)
    fun groups kept entry inside => add_to_groups_keyed groups entry.1 entry.2 (keyed_rows_own rows keyed made entry inside) kept
  exact ⟨key, by_ _ there r among, by_ _ there r' among'⟩

theorem two_rows_grouped (r r' : Row) (damage : ∀ d ∈ [r.detail, r'.detail], d.kind = .dmg ∧ Detail.isGiven d.talent = true)
    (same : SameBase r.detail r'.detail) : blastGroups [r, r'] = .ok [[r, r']] := by
  obtain ⟨key, one, two⟩ := same
  simp only [List.forall_mem_cons] at damage
  obtain ⟨⟨kind, talent⟩, ⟨kind', talent'⟩, -⟩ := damage
  have filtered : [r, r'].filter (fun r => r.detail.kind = .dmg && Detail.isGiven r.detail.talent) = [r, r'] := by
    simp [kind, talent, kind', talent']
  have keyed : keyedRows [r, r'] = .ok [(key, r), (key, r')] := by
    rw [keyedRows, filtered, List.mapM_cons, List.mapM_cons, List.mapM_nil, one, two]
    rfl
  exact bind_made keyed (by simp [addToGroups, pure, Except.pure])

structure Straddles (d : Detail) : Prop where
  main : mainMarker.occursIn d.title = true
  adjacent : isAdjacent d = true
  unwritten : Detail.isGiven d.raw = false

/-- No two different damage rows of one talent share a base title. -/
def Lone (rows : List Row) : Prop :=
  ∀ r ∈ rows, ∀ r' ∈ rows, r.detail.kind = .dmg → r'.detail.kind = .dmg → r.detail.talent = r'.detail.talent →
    SameBase r.detail r'.detail → r.detail = r'.detail

theorem blast_pair_main (group : List Row) (adjacent main : Row) (found : blastPair? group = some (adjacent, main)) :
    main.detail.talent = adjacent.detail.talent ∧ Detail.isGiven main.detail.raw = false ∧
      (mainMarker.occursIn main.detail.title = true ∨ isAdjacent main.detail = false) := by
  unfold blastPair? at found
  simp only [Option.bind_eq_bind, Option.bind_eq_some_iff] at found
  obtain ⟨first, -, second, far, same⟩ := found
  split at same
  · rename_i talent
    cases same
    refine ⟨talent, ?_⟩
    rcases Option.or_eq_some_iff.mp far with marked | ⟨-, other⟩
    · have shown := List.find?_some marked
      simp only [Bool.and_eq_true, Bool.not_eq_true'] at shown
      exact ⟨shown.2, .inl shown.1⟩
    · have shown := List.find?_some other
      simp only [Bool.and_eq_true, Bool.not_eq_true'] at shown
      exact ⟨shown.2, .inr shown.1.1.2⟩
  · cases same

theorem lone_pair_straddles (rows : List Row) (lone : Lone rows) (groups : List (List Row))
    (grouped : blastGroups rows = .ok groups) (group : List Row) (member : group ∈ groups) (adjacent main : Row) (found : blastPair? group = some (adjacent, main)) :
    main.detail = adjacent.detail ∧ Straddles main.detail := by
  obtain ⟨near, far, beside⟩ := blast_pair_among group adjacent main found
  obtain ⟨talent, unwritten, marked⟩ := blast_pair_main group adjacent main found
  obtain ⟨mainThere, mainDamage⟩ := blast_group_among rows groups grouped group member main far
  obtain ⟨adjacentThere, adjacentDamage⟩ := blast_group_among rows groups grouped group member adjacent near
  have same : main.detail = adjacent.detail := lone main mainThere adjacent adjacentThere mainDamage adjacentDamage talent
    (blast_group_keyed rows groups grouped group member main adjacent far near)
  have own : isAdjacent main.detail = true := same ▸ beside
  refine ⟨same, ?_, own, unwritten⟩
  rcases marked with shown | apart
  · exact shown
  · rw [own] at apart
    cases apart

theorem blast_groups_fail (rows : List Row) (e : IntegerTooLong) (failed : blastGroups rows = .error e) :
    ∃ r ∈ rows, blastKey r.detail = .error e := by
  have keyed : Fails (fun e => ∃ r ∈ rows, blastKey r.detail = .error e) (keyedRows rows) := by
    refine fails_map_m _ _ fun r among => fails_map _ _ fun e failed => ?_
    exact ⟨r, (List.mem_filter.mp among).1, failed⟩
  exact fails_bind _ _ keyed (fun _ _ => fails_ok _) e failed

theorem unpaired_groups_stay (kit : Kit) (b : Budget) (groups : List (List Row)) (none_ : ∀ group ∈ groups, blastPair? group = none) :
    groups.foldlM (addBlastTotal kit) b = .ok b := by
  induction groups with
  | nil => rfl
  | cons group groups ih =>
    have stays : addBlastTotal kit b group = .ok b := by rw [addBlastTotal, none_ group List.mem_cons_self]
    exact bind_made stays (ih fun other member => none_ other (List.mem_cons_of_mem _ member))

/-- Where no two damage rows of a talent share a base title, only rows that are about the main target and about adjacent
ones at once have a total of all targets, each one with itself; without such rows the budget stays as it is, or a base title
cannot be read. -/
theorem blast_total_of_single_row (kit : Kit) (b : Budget) (lone : Lone b.rows) :
    (∀ groups, blastGroups b.rows = .ok groups → ∀ group ∈ groups, ∀ adjacent main,
      blastPair? group = some (adjacent, main) → main.detail = adjacent.detail ∧ Straddles main.detail) ∧
    ((∀ r ∈ b.rows, ¬Straddles r.detail) → (∀ b', addBlastTotals kit b = .ok b' → b' = b) ∧
      ∀ e, addBlastTotals kit b = .error e → ∃ r ∈ b.rows, blastKey r.detail = .error e) := by
  refine ⟨fun groups grouped group member adjacent main =>
    lone_pair_straddles b.rows lone groups grouped group member adjacent main, fun apart => ?_⟩
  cases grouped : blastGroups b.rows with
  | error e =>
    have failed : addBlastTotals kit b = .error e := by
      rw [addBlastTotals, grouped]
      rfl
    rw [failed]
    refine ⟨nofun, fun e' same => ?_⟩
    cases same
    exact blast_groups_fail b.rows e grouped
  | ok groups =>
    have alone : ∀ group ∈ groups, blastPair? group = none := by
      intro group member
      rw [Option.eq_none_iff_forall_ne_some]
      rintro ⟨adjacent, main⟩ found
      obtain ⟨-, far, -⟩ := blast_pair_among group adjacent main found
      exact apart main (blast_group_among _ groups grouped group member main far).1
        (lone_pair_straddles _ lone groups grouped group member _ _ found).2
    have stays : addBlastTotals kit b = .ok b := bind_made grouped (unpaired_groups_stay kit b groups alone)
    rw [stays]
    refine ⟨fun b' same => (Except.ok.inj same).symm, nofun⟩

def neighboursKit : Kit := { game := .sr, name := "X", tables := [("e", ["Skill DMG", "Adjacent DMG"])] }

def strangers : List Detail := [
  { title := "Hit (Main Target)", talent := some "e", table := some "Skill DMG" },
  { title := "Hit (Adjacent Targets)", talent := some "q", table := some "Adjacent DMG" }]

theorem strangers_lone : Lone (Budget.ofDetails 20 .default strangers).rows := by
  have rows : (Budget.ofDetails 20 .default strangers).rows = [⟨0, strangers[0]⟩, ⟨1, strangers[1]⟩] := rfl
  have apart : strangers[0].talent ≠ strangers[1].talent := by decide
  intro r member r' member' _ _ talent _
  rw [rows] at member member'
  simp only [List.mem_cons, List.not_mem_nil, or_false] at member member'
  rcases member with rfl | rfl <;> rcases member' with rfl | rfl
  · rfl
  · exact absurd talent apart
  · exact absurd talent.symm apart
  · rfl

theorem strangers_apart : ∀ r ∈ (Budget.ofDetails 20 .default strangers).rows, ¬Straddles r.detail := by
  intro r member straddles
  have plain : ∀ d ∈ strangers, (mainMarker.occursIn d.title && isAdjacent d) = false := by decide
  have each := plain r.detail (by
    have details : (Budget.ofDetails 20 .default strangers).rows.map (·.detail) = strangers := rfl
    exact details ▸ List.mem_map_of_mem member)
  rw [straddles.main, straddles.adjacent] at each
  cases each

theorem strangers_stay_apart : Lone (Budget.ofDetails 20 .default strangers).rows ∧
    addBlastTotals neighboursKit (Budget.ofDetails 20 .default strangers) = .ok (Budget.ofDetails 20 .default strangers) := by
  have ends : (addBlastTotals neighboursKit (Budget.ofDetails 20 .default strangers)).toOption.map (·.cap) = some 20 := by
    decide +kernel
  obtain ⟨b', done, -⟩ := evaluated_ok _ _ _ ends
  have stays := ((blast_total_of_single_row neighboursKit _ strangers_lone).2 strangers_apart).1 b' done
  exact ⟨strangers_lone, done.trans (congrArg Except.ok stays)⟩

def straddlingRows : List Detail := [{ title := "Hit (Main Target)", talent := some "e", table := some "Adjacent DMG" }]

theorem straddling_row_completes_itself :
    ¬∀ (kit : Kit) (b b' : Budget), Lone b.rows → addBlastTotals kit b = .ok b' → b' = b := by
  intro always
  -- there is no room for the total, so it goes over the row itself
  have replaced : (addBlastTotals neighboursKit (Budget.ofDetails 1 .default straddlingRows)).toOption.map
      (fun b => b.details.map (·.title)) = some ["Hit (Complete)"] := by decide
  obtain ⟨b', done, titles⟩ := evaluated_ok _ _ _ replaced
  have stays := always neighboursKit (Budget.ofDetails 1 .default straddlingRows) b' (fun r member r' member' _ _ _ _ => by
    rw [List.mem_singleton.mp member, List.mem_singleton.mp member']) done
  rw [stays] at titles
  exact absurd titles (by decide)

end DamagePlan.Enrichment
