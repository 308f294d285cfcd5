import DamagePlan.Proofs.Planning.Scaling
import DamagePlan.Proofs.Refine.Enrichment
import DamagePlan.Proofs.Text.Matching

/-!
Titles of rows: what the rules put in them besides words of the source comes from tables and titles that are there, so
that titles that can be read make titles that can be read, and enrichment comes to an end.
-/
set_option autoImplicit false

namespace DamagePlan.Text

theorem Rewrites.milder {pattern by_ cs ds : List Char} (rewrites : Rewrites pattern by_ cs ds) (milder : Milder by_ pattern) :
    Milder ds cs := by
  induction rewrites with
  | nil => exact .refl _
  | exchange _ ih => exact milder.append ih
  | keep c _ _ ih => exact (Milder.refl [c]).append ih

end DamagePlan.Text

namespace DamagePlan.Enrichment

open Text (Brief Pattern brief_plain isAsciiDigit)
open TableName
open Budget (Keeps)
open Decimal (IntegerTooLong IntegerFault)

theorem title_for_brief {more : Nat} (name chinese english : String) (one : Brief more chinese.toList)
    (other : Brief more english.toList) : Brief more (titleFor name chinese english).toList := by
  unfold titleFor
  split
  · exact one
  · exact other

theorem title_for_plain (name chinese english : String) (plain : '&' ∉ chinese.toList ∧ '&' ∉ english.toList) :
    '&' ∉ (titleFor name chinese english).toList := by
  unfold titleFor
  split
  · exact plain.1
  · exact plain.2

theorem behind_brief {more k : Nat} {title word : String} (brief : Brief (more + k) title.toList) (plain : '&' ∉ word.toList)
    (few : word.toList.countP isAsciiDigit ≤ k) : Brief more (title ++ word).toList := by
  rw [String.toList_append]
  exact brief.append plain few

theorem before_brief {more : Nat} {title word : String} (brief : Brief more title.toList) (plain : '&' ∉ word.toList)
    (few : word.toList.countP isAsciiDigit ≤ 0) : Brief more (word ++ title).toList := by
  rw [String.toList_append]
  exact (Brief.append (k := 0) brief plain few).perm List.perm_append_comm

def stateWords : List String :=
  ["Q状态·普攻", "首段", "段", "Burst State: Normal Attack ", "-Hit", "Q状态·重击伤害", "Q状态·"] ++ plungeNames

def fixedStateTitles : List String := ["Burst State: Charged Attack DMG", "Burst State: Plunge DMG"]

theorem burst_title_letters (P : Char → Prop) (words : ∀ word ∈ stateWords, ∀ c ∈ word.toList, P c)
    (numerals : ∀ c ∈ hanNumerals, P c) (digits : ∀ c, Text.isDecimalDigit c = true → P c) (table key title : String)
    (found : burstAttack? table = some (key, title)) : title ∈ fixedStateTitles ∨ ∀ c ∈ title.toList, P c := by
  have joined : ∀ s t : String, (∀ c ∈ s.toList, P c) → (∀ c ∈ t.toList, P c) → ∀ c ∈ (s ++ t).toList, P c := by
    intro s t first second
    rw [String.toList_append]
    exact List.forall_mem_append.mpr ⟨first, second⟩
  have one : ∀ c, P c → ∀ d ∈ (String.ofList [c]).toList, P d := by
    intro c own
    rw [String.toList_ofList]
    exact List.forall_mem_singleton.mpr own
  unfold burstAttack? at found
  split at found
  · rename_i numeral marked
    cases found
    obtain ⟨e, ended, rfl⟩ := Pattern.marked_first 1 _ _ (by decide) table numeral marked
    obtain ⟨c, among, taken⟩ := Pattern.one_takes _ _ e ended
    dsimp only at taken
    rw [taken]
    refine .inr (joined _ _ (words _ (by decide)) ?_)
    split
    · exact words _ (by decide)
    · exact joined _ _ (one c (numerals c (List.contains_iff_mem.mp among))) (words _ (by decide))
  · split at found
    · rename_i digit marked
      cases found
      obtain ⟨e, ended, rfl⟩ := Pattern.marked_first 1 _ _ (by decide) table digit marked
      rw [Pattern.digits, Pattern.run_once] at ended
      obtain ⟨c, among, taken⟩ := Pattern.one_takes _ _ e ended
      dsimp only at taken
      rw [taken]
      exact .inr (joined _ _ (joined _ _ (words _ (by decide)) (one c (digits c among))) (words _ (by decide)))
    · split at found
      · cases found
        exact .inr (words _ (by decide))
      · split at found
        · cases found
          exact .inl (by decide)
        · split at found
          · rename_i name among
            cases found
            exact .inr (joined _ _ (words _ (by decide)) (words _ (List.mem_append_right _ (List.mem_of_find?_eq_some among))))
          · split at found
            · cases found
              exact .inl (by decide)
            · cases found

theorem burst_title_plain (table key title : String) (found : burstAttack? table = some (key, title)) : '&' ∉ title.toList := by
  have others : (stateWords.all fun word => word.toList.all (· != '&')) = true := by decide +kernel
  have words : ∀ word ∈ stateWords, ∀ c ∈ word.toList, c ≠ '&' := by simpa using others
  have han : (hanNumerals.all (· != '&')) = true := by decide +kernel
  have numerals : ∀ c ∈ hanNumerals, c ≠ '&' := by simpa using han
  have digits : ∀ c, Text.isDecimalDigit c = true → c ≠ '&' := by
    rintro c digit rfl
    exact absurd digit (by decide)
  intro mark
  rcases burst_title_letters (· ≠ '&') words numerals digits table key title found with fixed | letters
  · have plain : (fixedStateTitles.all fun title => !title.toList.contains '&') = true := by decide +kernel
    simpa [mark] using List.all_eq_true.mp plain title fixed
  · exact letters '&' mark rfl

theorem without_ending_part (ending title : String) : ((withoutEnding? ending title).getD title).toList.Sublist title.toList := by
  unfold withoutEnding?
  split
  · rw [Option.getD_some, String.toList_ofList]
    exact List.take_sublist _ _
  · exact List.Sublist.refl _

theorem variant_title_brief {more : Nat} (title reaction variant : String) (brief : Brief more title.toList)
    (made : variantTitle? title reaction = some variant) : Brief more variant.toList := by
  have names : ∀ entry ∈ variantNames, ∀ name ∈ [entry.2.1, entry.2.2],
      '&' ∉ name.toList ∧ name.toList.countP isAsciiDigit ≤ 0 := by decide +kernel
  obtain ⟨⟨chinese, english⟩, found, rfl⟩ := Option.map_eq_some_iff.mp made
  have own := names _ (Fields.found_entry _ _ _ found)
  obtain ⟨plain, few⟩ := own chinese (by simp)
  obtain ⟨plain', few'⟩ := own english (by simp)
  dsimp only
  split
  · exact behind_brief (k := 0) (behind_brief (k := 0) (behind_brief (k := 0) brief (by decide) (by decide)) plain' few')
      (by decide) (by decide)
  · split
    · exact brief
    · exact behind_brief (k := 0) (brief.sublist (without_ending_part _ _)) plain few

theorem total_title_brief (title : String) (times : Option Nat) (few : ∀ n ∈ times, n ≤ 60) (brief : Brief 2 title.toList) :
    Brief 0 (totalTitle title (times.map Int.ofNat)).toList := by
  have numbers : ∀ n ∈ List.range 61, '&' ∉ (Decimal.integerText (Int.ofNat n)).toList ∧
      (Decimal.integerText (Int.ofNat n)).toList.countP isAsciiDigit ≤ 2 := by decide +kernel
  have stem := brief.sublist (without_ending_part "伤害" title)
  unfold totalTitle
  cases times with
  | none =>
    dsimp only [Option.map_none]
    split
    · exact behind_brief (k := 0) (stem.mono (by decide)) (by decide) (by decide)
    · exact behind_brief (k := 0) (brief.mono (by decide)) (by decide) (by decide)
  | some n =>
    obtain ⟨plain, two⟩ := numbers n (List.mem_range.mpr (Nat.lt_succ_of_le (few n rfl)))
    dsimp only [Option.map_some]
    split
    · exact behind_brief (k := 0) (behind_brief (k := 2) (behind_brief (k := 0) stem (by decide) (by decide)) plain two)
        (by decide) (by decide)
    · exact behind_brief (k := 0) (behind_brief (k := 2) (behind_brief (k := 0) brief (by decide) (by decide)) plain two)
        (by decide) (by decide)

theorem base_title_part (title : String) : (blastBaseTitle title).toList.Sublist title.toList := by
  have dropped : (blastGroup.replaceAll "" title).toList.Sublist title.toList := by
    rw [Pattern.replaceAll, String.toList_ofList]
    exact Pattern.replace_from_part blastGroup 0 none title.toList
  rw [blastBaseTitle, Text.trim, String.toList_ofList]
  obtain ⟨front, back, split, -⟩ := Text.trim_parts (blastGroup.replaceAll "" title).toList
  have trimmed : (Text.trimList (blastGroup.replaceAll "" title).toList).Sublist (blastGroup.replaceAll "" title).toList := by
    conv_rhs => rw [split]
    exact (List.sublist_append_left _ back).trans (List.sublist_append_right front _)
  exact trimmed.trans dropped

theorem complete_title_brief {more : Nat} (title : String) (brief : Brief more title.toList) :
    Brief more (completeTitle title).toList := by
  have base := brief.sublist (base_title_part title)
  exact title_for_brief _ _ _ (behind_brief (k := 0) base (by decide) (by decide))
    (behind_brief (k := 0) base (by decide) (by decide))

def Readable (d : Detail) : Prop := Brief (if Detail.isGiven d.raw then 0 else 2) d.title.toList

theorem Readable.brief {d : Detail} (readable : Readable d) : Brief 0 d.title.toList := Brief.mono readable (Nat.zero_le _)

theorem brief_readable {d : Detail} (brief : Brief 2 d.title.toList) : Readable d := by
  unfold Readable
  split
  · exact brief.mono (by decide)
  · exact brief

theorem given_readable {d : Detail} (given : Detail.isGiven d.raw = true) (brief : Brief 0 d.title.toList) : Readable d := by
  rw [Readable, given]
  exact brief

/-- A kit that tells all schemas and stats, whose tables have names that can be read. -/
structure Legible (kit : Kit) : Prop where
  told : Scaling.Told kit
  named : ∀ talent, ∀ table ∈ kit.tablesOf talent, Brief 2 table.toList

theorem in_range_legible (kit : Kit) (brief : Scaling.BriefTexts kit) (inRange : Scaling.SamplesInRange kit) : Legible kit where
  told := Scaling.in_range_told kit brief inRange
  named talent table member := by
    refine brief table ?_
    unfold Kit.tablesOf at member
    cases found : kit.tables.find? talent with
    | none =>
      rw [found] at member
      cases member
    | some names =>
      rw [found] at member
      have among : table ∈ kit.tables.flatMap (·.2) := List.mem_flatMap.mpr ⟨_, Fields.found_entry _ _ _ found, member⟩
      simp only [Scaling.texts, List.mem_append]
      exact .inl (.inl (.inl (.inl among)))

theorem support_title_brief (kit : Kit) (named : ∀ talent, ∀ table ∈ kit.tablesOf talent, Brief 2 table.toList)
    (kind : DetailKind) (talent : String) (known : talent = "e" ∨ talent = "q") (d : Detail)
    (made : supportRow? kit kind talent = .ok (some d)) : Brief 2 d.title.toList := by
  obtain ⟨table, found, made⟩ := option_map_m_ok _ _ _ made
  obtain ⟨stat, -, rfl⟩ := map_ok _ _ _ made
  have stripped : (Text.stripTableSuffix table).toList.Sublist table.toList := by
    unfold Text.stripTableSuffix
    split
    · rw [String.toList_ofList]
      exact List.dropLast_sublist _
    · exact List.Sublist.refl _
  have shorter : ∀ s pattern by_ : String, pattern ≠ "" → by_.toList.Sublist pattern.toList →
      (s.replace pattern by_).toList.Sublist s.toList := fun s pattern by_ marked part =>
    (Text.replace_rewrites s pattern by_ marked).part part
  have heal := shorter (Text.stripTableSuffix table) "治疗量" "治疗" (by decide) (by decide)
  have shield := shorter ((Text.stripTableSuffix table).replace "治疗量" "治疗") "护盾吸收量" "护盾量" (by decide) (by decide)
  have name := (named talent table (support_table_among kit kind talent table found).1).sublist
    (shield.trans (heal.trans stripped))
  have letter : '&' ∉ (talentLetter talent).toList ∧ (talentLetter talent).toList.countP isAsciiDigit ≤ 0 ∧
      '&' ∉ (talentLetter talent ++ " ").toList ∧ (talentLetter talent ++ " ").toList.countP isAsciiDigit ≤ 0 := by
    rcases known with rfl | rfl <;> decide
  exact title_for_brief _ _ _ (before_brief name letter.1 letter.2.1) (before_brief name letter.2.2.1 letter.2.2.2)

theorem of_kit_readable (kit : Kit) (named : ∀ talent, ∀ table ∈ kit.tablesOf talent, Brief 2 table.toList) (d : Detail)
    (made : OfKit kit d) : Readable d := by
  refine brief_readable ?_
  cases made with
  | core talent known made =>
    obtain ⟨table, -, rfl⟩ := Option.map_eq_some_iff.mp made
    have titles : ∀ game, ∀ talent ∈ Talent.core game, '&' ∉ (talentLetter talent ++ "伤害").toList ∧
        '&' ∉ (talentLetter talent ++ " DMG").toList := by
      intro game
      cases game <;> decide
    exact title_for_brief _ _ _ (brief_plain (titles _ talent known).1 2) (brief_plain (titles _ talent known).2 2)
  | support kind talent other known made => exact support_title_brief kit named kind talent known d made
  | attack game entry known made =>
    obtain ⟨table, -, rfl⟩ := Option.map_eq_some_iff.mp made
    have titles : entry.chinese.toList.contains '&' = false ∧ entry.english.toList.contains '&' = false := by
      simp only [aliases, List.mem_cons, List.not_mem_nil, or_false] at known
      rcases known with rfl | rfl <;> decide
    exact title_for_brief _ _ _ (brief_plain (by simpa using titles.1) 2) (brief_plain (by simpa using titles.2) 2)
  | transformative game made =>
    unfold transformativeRow? at made
    split at made
    · cases made
    · obtain ⟨reaction, -, rfl⟩ := Option.map_eq_some_iff.mp made
      have worded : ((reactionTitlesChinese ++ Reaction.titles).all fun entry => !entry.2.toList.contains '&') = true := by
        decide +kernel
      have titled : ∀ (titles : List (String × String)) (fallback : String), titles ⊆ reactionTitlesChinese ++ Reaction.titles →
          fallback.toList.contains '&' = false → '&' ∉ ((titles.lookup reaction).getD fallback).toList := by
        intro titles fallback part none
        have plain : '&' ∉ fallback.toList := by simpa using none
        cases entry : titles.lookup reaction with
        | none => exact plain
        | some title => simpa using List.all_eq_true.mp worded _ (part (Fields.found_entry _ _ _ entry))
      refine brief_plain ?_ 2
      dsimp only
      split
      · exact titled _ _ (List.subset_append_left _ _) (by decide +kernel)
      · exact titled _ _ (List.subset_append_right _ _) (by decide +kernel)

theorem total_readable (kit : Kit) (base d : Detail) (readable : Readable base) (made : totalRow kit base = .ok (some d)) :
    Readable d := by
  obtain ⟨may, total⟩ := total_row_cases kit base d made
  have plain : Detail.isGiven base.raw = false := by
    simp only [mayHaveTotal, isPlainDamage, Bool.and_eq_true, Bool.not_eq_true'] at may
    exact may.1.1.1.1.2
  have brief : Brief 2 base.title.toList := by
    rw [Readable, plain] at readable
    exact readable
  have given : ∀ e : Script.Expr, Script.Crisp (e.print 0) → Detail.isGiven (some e.plainText) = true := by
    intro e crisp
    simpa [Detail.isGiven] using crisp.filled
  cases total with
  | counted stat e shaped found =>
    refine given_readable (given e ?_) (total_title_brief base.title none (fun m none => absurd none (Option.not_mem_none m)) brief)
    cases (Formula.table_damage_ok_iff kit _ e).mp found with
    | picked _ _ _ _ own => cases own
    | shaped stat schema => exact Formula.damage_as_crisp _ stat schema
  | stated n e said found =>
    refine given_readable (given _ (Script.record_crisp _)) (total_title_brief base.title (some n) ?_ brief)
    rintro m ⟨⟩
    exact (stated_hits_few kit base n said).2

theorem complete_readable (kit : Kit) (adjacent main d : Detail) (readable : Readable main)
    (made : completeRow kit adjacent main = .ok d) : Readable d := by
  obtain ⟨e, found, rfl⟩ := map_ok _ _ _ made
  obtain ⟨stat, text, -, -, shape⟩ := blast_expr_ok kit adjacent main e found
  have filled : e.plainText ≠ "" := by
    rw [shape]
    split
    · exact Script.Crisp.filled (Script.record_crisp _)
    · exact Script.Crisp.filled (Formula.scaled_damage_crisp ..).1
  refine given_readable ?_ ?_
  · simpa [Detail.isGiven] using filled
  · dsimp only
    exact complete_title_brief main.title readable.brief

theorem variant_readable (reaction : String) (base d : Detail) (readable : Readable base)
    (made : variantOf? reaction base = some d) : Readable d := by
  obtain ⟨title, titled, rfl⟩ := Option.map_eq_some_iff.mp made
  exact variant_title_brief base.title reaction title readable titled

theorem readable_closed (kit : Kit) (named : ∀ talent, ∀ table ∈ kit.tablesOf talent, Brief 2 table.toList) :
    Closed kit Readable where
  ofKit := of_kit_readable kit named
  variant _ reaction base d _ readable made := variant_readable reaction base d readable made
  total := total_readable kit
  complete adjacent main d _ readable _ made := complete_readable kit adjacent main d readable made
  state d readable := by
    unfold burstStateRow
    split
    · exact readable
    · split
      · exact readable
      · rename_i key title found
        exact brief_readable (brief_plain (burst_title_plain _ key title found) 2)

section Total

variable {kit : Kit} {most : Nat} {b : Budget}

theorem title_key_total (title : String) (brief : Brief 0 title.toList) : ∃ key, Budget.titleKey title = .ok key :=
  map_total _ _ (map_total _ _ (Text.normalize_total title brief))

theorem push_total (keeps : Keeps Readable most b) (d : Detail) (own : Readable d) :
    ∃ b', b.push d = .ok b' ∧ Keeps Readable most b' := by
  have known := Budget.knows_total b d (title_key_total _ own.brief) fun other among =>
    title_key_total _ (keeps.details other among).brief
  obtain ⟨b', pushed⟩ : ∃ b', b.push d = .ok b' := map_total _ _ (map_total _ _ known)
  exact ⟨b', pushed, Budget.push_keeps keeps d own b' pushed⟩

theorem push_option_total (keeps : Keeps Readable most b) (d? : Option Detail) (own : ∀ d ∈ d?, Readable d) :
    ∃ b', (match d? with
      | some d => b.push d
      | none => .ok b) = .ok b' ∧ Keeps Readable most b' := by
  cases d? with
  | none => exact ⟨b, rfl, keeps⟩
  | some d => exact push_total keeps d (own d rfl)

theorem core_rows_total (legible : Legible kit) (keeps : Keeps Readable most b) :
    ∃ b', addCoreRows kit b = .ok b' ∧ Keeps Readable most b' := by
  refine fold_m_total _ _ (fun b talent known keeps => ?_) b keeps
  unfold addCoreRow
  split
  · exact ⟨b, rfl, keeps⟩
  · exact push_option_total keeps _ fun d made => of_kit_readable kit legible.named d (.core talent known made)

theorem support_row_total (told : Scaling.Told kit) (kind : DetailKind) (talent : String) :
    ∃ found, supportRow? kit kind talent = .ok found := by
  unfold supportRow?
  cases supportTable? kit kind talent with
  | none => exact ⟨none, rfl⟩
  | some table => exact map_total _ _ (map_total _ _ (told.support talent table))

theorem support_rows_total (legible : Legible kit) (keeps : Keeps Readable most b) :
    ∃ b', addSupportRows kit b = .ok b' ∧ Keeps Readable most b' := by
  refine fold_m_total _ _ (fun b what among keeps => ?_) b keeps
  obtain ⟨kind, talent⟩ := what
  have known : kind ≠ .reaction ∧ (talent = "e" ∨ talent = "q") := by
    simp only [List.mem_cons, Prod.mk.injEq, List.not_mem_nil, or_false] at among
    rcases among with ⟨rfl, rfl⟩ | ⟨rfl, rfl⟩ | ⟨rfl, rfl⟩ | ⟨rfl, rfl⟩ <;> decide
  obtain ⟨found, made⟩ := support_row_total legible.told kind talent
  unfold addSupportRow
  split
  · exact ⟨b, rfl, keeps⟩
  · obtain ⟨b', pushed, kept⟩ := push_option_total keeps found fun d own =>
      of_kit_readable kit legible.named d (.support kind talent known.1 known.2 (made.trans (congrArg Except.ok own)))
    exact ⟨b', bind_made made pushed, kept⟩

theorem alias_rows_total (legible : Legible kit) (game : kit.game = .gs) (keeps : Keeps Readable most b) :
    ∃ b', addAliasRows kit b = .ok b' ∧ Keeps Readable most b' := by
  refine fold_m_total _ _ (fun b entry known keeps => ?_) b keeps
  unfold addAliasRow
  split
  · exact ⟨b, rfl, keeps⟩
  · rename_i d made
    split
    · exact ⟨b, rfl, keeps⟩
    · exact push_total keeps d (of_kit_readable kit legible.named d (.attack game entry known made))

theorem reaction_variants_total (keeps : Keeps Readable most b) :
    ∃ b', addReactionVariants kit b = .ok b' ∧ Keeps Readable most b' := by
  unfold addReactionVariants
  split
  · exact ⟨b, rfl, keeps⟩
  · rename_i reaction found
    have each : ∀ d ∈ (variantBases reaction b.details).filterMap (variantOf? reaction), Readable d := by
      intro d member
      obtain ⟨base, among, made⟩ := List.mem_filterMap.mp member
      exact variant_readable reaction base d (keeps.details base (variant_base_among reaction _ base among)) made
    exact fold_m_total _ _ (fun b d member keeps => push_total keeps d (each d member)) b keeps

theorem total_row_total (told : Scaling.Told kit) (d : Detail) : ∃ total, totalRow kit d = .ok total := by
  have damage (title : String) : ∃ e, tableDamageOf kit d title = .ok e := Formula.table_damage_total told _ nofun
  have said : ∃ hits, statedHits? kit d = .ok hits := by
    unfold statedHits?
    dsimp only
    split
    · exact ⟨none, rfl⟩
    · exact map_total _ _ (told.described _)
  unfold totalRow
  split
  · exact ⟨none, rfl⟩
  · refine bind_total _ _ (told.schema _ _) fun schema => ?_
    split
    · exact bind_total _ _ (bind_total _ _ (damage _) fun _ => ⟨_, rfl⟩) fun _ => ⟨_, rfl⟩
    · obtain ⟨hits, counted⟩ := said
      rw [counted]
      cases hits with
      | none => exact ⟨none, rfl⟩
      | some n => exact map_total _ _ (bind_total _ _ (damage _) fun _ => ⟨_, rfl⟩)

theorem multi_hit_totals_total (told : Scaling.Told kit) (keeps : Keeps Readable most b) :
    ∃ b', addMultiHitTotals kit b = .ok b' ∧ Keeps Readable most b' := by
  have each := keeps.details
  refine fold_m_total _ _ (fun b' base there keeps => ?_) b keeps
  obtain ⟨total, made⟩ := total_row_total told base
  unfold addTotal
  rw [made]
  cases total with
  | none => exact ⟨b', rfl, keeps⟩
  | some d =>
    obtain ⟨next, pushed, kept⟩ := push_total keeps d (total_readable kit base d (each base there) made)
    have lifted : (liftM (b'.push d) : Except IntegerFault Budget) = .ok next := by
      rw [pushed]
      rfl
    exact ⟨next, lifted, kept⟩

theorem burst_state_total (legible : Legible kit) (keeps : Keeps Readable most b) :
    ∃ b', mapBurstState kit b = .ok b' ∧ Keeps Readable most b' := by
  obtain ⟨b', done⟩ : ∃ b', mapBurstState kit b = .ok b' := map_total _ _ (map_total _ _ (legible.told.described "q"))
  exact ⟨b', done, burst_state_keeps (readable_closed kit legible.named) keeps done⟩

theorem complete_row_total (told : Scaling.Told kit) (adjacent main : Detail) :
    ∃ d, completeRow kit adjacent main = .ok d :=
  map_total _ _ (bind_total _ _ (Formula.damage_stat_total told _ _ _) fun _ =>
    bind_total _ _ (map_total _ _ (told.described _)) fun _ => ⟨_, rfl⟩)

theorem blast_groups_total (rows : List Row) (each : ∀ row ∈ rows, Readable row.detail) :
    ∃ groups, blastGroups rows = .ok groups := by
  refine bind_total _ _ (map_m_total _ _ fun row member => map_total _ _ (title_key_total _ ?_)) fun _ => ⟨_, rfl⟩
  exact (each row (List.mem_filter.mp member).1).brief.sublist (base_title_part _)

theorem blast_totals_total (told : Scaling.Told kit) (keeps : Keeps Readable most b) :
    ∃ b', addBlastTotals kit b = .ok b' ∧ Keeps Readable most b' := by
  obtain ⟨groups, grouped⟩ := blast_groups_total b.rows keeps.each
  have inside : ∀ group ∈ groups, ∀ row ∈ group, Readable row.detail := fun group member row among =>
    keeps.each row (blast_group_among b.rows groups grouped group member row among).1
  obtain ⟨b', done, kept⟩ : ∃ b', groups.foldlM (addBlastTotal kit) b = .ok b' ∧ Keeps Readable most b' := by
    refine fold_m_total _ _ (fun b' group member keeps => ?_) b keeps
    unfold addBlastTotal
    split
    · exact ⟨b', rfl, keeps⟩
    · rename_i adjacent main pair
      obtain ⟨-, far, -⟩ := blast_pair_among group adjacent main pair
      obtain ⟨d, made⟩ := complete_row_total told adjacent.detail main.detail
      have own := complete_readable kit _ _ d (inside group member main far) made
      rw [made]
      dsimp only [bind, Except.bind]
      split
      · exact ⟨_, rfl, Budget.update_keeps keeps _ d own⟩
      · split
        · exact ⟨_, rfl, Budget.update_keeps keeps _ d own⟩
        · exact push_total keeps d own
  exact ⟨b', bind_made grouped done, kept⟩

theorem transformative_row_total (legible : Legible kit) (game : kit.game = .gs) (keeps : Keeps Readable most b) :
    ∃ b', addTransformativeRow kit b = .ok b' ∧ Keeps Readable most b' := by
  unfold addTransformativeRow
  split
  · exact ⟨b, rfl, keeps⟩
  · exact push_option_total keeps _ fun d made => of_kit_readable kit legible.named d (.transformative game made)

theorem rules_total (rules : List Rule)
    (each : ∀ rule ∈ rules, ∀ b, Keeps Readable most b → ∃ b', rule kit b = .ok b' ∧ Keeps Readable most b')
    (keeps : Keeps Readable most b) : ∃ b', applyRules kit rules b = .ok b' ∧ Keeps Readable most b' :=
  fold_m_total rules _ (fun b rule member keeps => each rule member b keeps) b keeps

theorem first_rules_total (legible : Legible kit) (keeps : Keeps Readable most b) :
    ∃ b', applyRules kit (firstRules kit.game) b = .ok b' ∧ Keeps Readable most b' := by
  refine rules_total _ (fun rule member b keeps => ?_) keeps
  cases game : kit.game with
  | gs =>
    simp only [game, firstRules, List.mem_cons, List.not_mem_nil, or_false] at member
    rcases member with rfl | rfl | rfl | rfl | rfl
    · exact burst_state_total legible keeps
    · exact core_rows_total legible keeps
    · exact support_rows_total legible keeps
    · exact alias_rows_total legible game keeps
    · exact reaction_variants_total keeps
  | sr =>
    simp only [game, firstRules, List.mem_cons, List.not_mem_nil, or_false] at member
    rcases member with rfl | rfl
    · exact core_rows_total legible keeps
    · exact support_rows_total legible keeps

theorem last_rules_total (legible : Legible kit) (keeps : Keeps Readable most b) :
    ∃ b', applyRules kit (lastRules kit.game) b = .ok b' ∧ Keeps Readable most b' := by
  refine rules_total _ (fun rule member b keeps => ?_) keeps
  cases game : kit.game with
  | gs =>
    simp only [game, lastRules, List.mem_cons, List.not_mem_nil, or_false] at member
    rcases member with rfl | rfl
    · exact blast_totals_total legible.told keeps
    · exact transformative_row_total legible game keeps
  | sr =>
    simp only [game, lastRules, List.mem_singleton] at member
    subst member
    exact blast_totals_total legible.told keeps

theorem enrich_too_long (kit : Kit) (inRange : Scaling.SamplesInRange kit) (details : List Detail) (policy : EvictionPolicy)
    (cap : Int) : Fails Scaling.IsTooLong (enrich kit details policy cap) := by
  have schema := Scaling.schema_too_long kit inRange
  have damage (d : Detail) (title : String) : Fails Scaling.IsTooLong (tableDamageOf kit d title) :=
    fails_bind _ _ (Scaling.lifted_too_long _) fun _ _ => fails_bind _ _ (schema _ _) fun _ _ => fails_ok _
  have total (d : Detail) : Fails Scaling.IsTooLong (totalRow kit d) := by
    unfold totalRow
    split
    · exact fails_ok _
    refine fails_bind _ _ (schema _ _) fun found _ => ?_
    split
    · exact fails_bind _ _ (fails_bind _ _ (damage _ _) fun _ _ => fails_ok _) fun _ _ => fails_ok _
    · refine fails_bind _ _ (Scaling.lifted_too_long _) fun hits _ => ?_
      cases hits with
      | none => exact fails_ok _
      | some n => exact fails_map _ _ (fails_bind _ _ (damage _ _) fun _ _ => fails_ok _)
  refine fails_bind _ _ (Scaling.lifted_too_long _) fun filled _ => fails_bind _ _ ?_ fun totalled _ =>
    fails_bind _ _ (Scaling.lifted_too_long _) fun _ _ => fails_ok _
  refine fails_fold_m _ _ (fun b d _ => fails_bind _ _ (total d) fun made _ => ?_) filled
  split
  · exact Scaling.lifted_too_long _
  · exact fails_ok _

theorem enrichment_total (legible : Legible kit) (details : List Detail) (each : ∀ d ∈ details, Readable d)
    (policy : EvictionPolicy) (cap : Int) :
    ∃ enriched, enrich kit details policy cap = .ok enriched ∧ ∀ d ∈ enriched, Readable d := by
  obtain ⟨filled, fills, kept⟩ := first_rules_total legible (Budget.of_details_within cap policy details each)
  obtain ⟨totalled, totals, kept⟩ := multi_hit_totals_total legible.told kept
  obtain ⟨finished, finishes, kept⟩ := last_rules_total legible kept
  exact ⟨finished.details, lift_made fills (bind_made totals (lift_made finishes rfl)), kept.details⟩

end Total

end DamagePlan.Enrichment
