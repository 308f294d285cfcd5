import Mathlib.Data.List.Forall2
import DamagePlan.Proofs.Text.Markup
import DamagePlan.Refine.BuffFilter

/-!
Filtered buffs: which keys go and why, which buffs go with them, that a second filtering finds nothing more, and what
becomes of the values for display.
-/
set_option autoImplicit false

namespace DamagePlan.BuffFilter

open Text (normalizeMarkup compact)
open Decimal (IntegerTooLong)

theorem ends_with_iff (key ending : String) : key.endsWith ending = true ↔ ending.toList <:+ key.toList := by
  rw [← String.endsWith_toSlice, String.Slice.endsWith_string_iff, String.copy_toSlice]

theorem ends_with_last (key ending : String) (some_ : ending.toList ≠ []) (ends : key.endsWith ending = true) :
    key.toList.getLast? = ending.toList.getLast? := by
  obtain ⟨before, split⟩ := (ends_with_iff key ending).mp ends
  rw [← split, List.getLast?_append_of_ne_nil _ some_]

theorem scoped_last (game : Game) (endings : List String) (key : String) (noNewline : key.toList.getLast? ≠ some '\n')
    (isScope : isScoped game endings key = true) (filled : ∀ ending ∈ endings, ending.toList ≠ []) :
    ∃ ending ∈ endings, key.toList.getLast? = ending.toList.getLast? := by
  simp only [isScoped, Text.withoutFinalNewline, if_neg noNewline, String.ofList_toList, List.any_eq_true, beq_iff_eq] at isScope
  obtain ⟨scope, -, ending, listed, rfl⟩ := isScope
  exact ⟨ending, listed, by rw [String.toList_append, List.getLast?_append_of_ne_nil _ (filled ending listed)]⟩

theorem multiplier_not_damage_like (game : Game) (key : String) (multiplier : key.endsWith "Multi" = true) :
    isDamageLike game key = false := by
  have last : key.toList.getLast? = some 'i' := ends_with_last key "Multi" (by decide) multiplier
  have noNewline : key.toList.getLast? ≠ some '\n' := by rw [last]; decide
  have other (ending : String) (some_ : ending.toList ≠ []) (apart : ending.toList.getLast? ≠ some 'i') :
      key.endsWith ending = false := by
    refine Bool.eq_false_iff.mpr fun ends => apart ?_
    rw [← ends_with_last key ending some_ ends, last]
  have unlisted : ["dmg", "phy", "enemydmg"].contains key = false := by
    refine Bool.eq_false_iff.mpr fun listed => ?_
    simp only [List.contains_eq_mem, List.mem_cons, List.not_mem_nil, or_false, decide_eq_true_eq] at listed
    rcases listed with rfl | rfl | rfl <;> revert last <;> decide
  have unscoped : isScoped game ["Plus", "Pct"] key = false := by
    refine Bool.eq_false_iff.mpr fun isScope => ?_
    obtain ⟨ending, listed, same⟩ := scoped_last game ["Plus", "Pct"] key noNewline isScope (by decide)
    rw [last] at same
    simp only [List.mem_cons, List.not_mem_nil, or_false] at listed
    rcases listed with rfl | rfl <;> revert same <;> decide
  rw [isDamageLike, unlisted, other "Dmg" (by decide) (by decide), other "Enemydmg" (by decide) (by decide), unscoped]
  simp

/-- What a key lacks in the texts of its buff: they speak of a single hit, which no multiplier and no scoped key can stand
for; or the key is a multiplier or raises damage, and they have no words for that. -/
inductive Lacks (game : Game) (evidence key : String) : Prop
  | lasting (oneShot : isOneShot evidence = true)
      (tied : key.endsWith "Multi" = true ∨ isScoped game BuffKey.scopedEndings key = true)
  | multiplier (shown : Buff.isDisplayKey key = false) (kind : key.endsWith "Multi" = true)
      (silent : multiplierMarker.occursIn evidence = false)
  | damage (kind : isDamageLike game key = true) (words : String) (read : compact evidence = .ok words)
      (silent : damageMarker.occursIn words = false)

theorem one_shot_filled (evidence : String) : (!evidence.isEmpty && isOneShot evidence) = isOneShot evidence := by
  by_cases empty : evidence = ""
  · rw [empty]
    rfl
  · have filled : evidence.isEmpty = false := by simpa using empty
    rw [filled, Bool.not_false, Bool.true_and]

theorem dropped_iff_lacks (game : Game) (evidence key : String) (intent : Intent) (told : intentOf evidence = .ok intent) :
    keeps game intent key = false ↔ Lacks game evidence key := by
  obtain ⟨words, read, rfl⟩ := map_ok _ _ _ told
  have damage_shown (kind : isDamageLike game key = true) : Buff.isDisplayKey key = false := by
    simp only [isDamageLike, Bool.and_eq_true, Bool.not_eq_true'] at kind
    exact kind.1.2
  simp only [keeps, one_shot_filled]
  split
  · rename_i tied
    simp only [Bool.and_eq_true, Bool.or_eq_true] at tied
    exact iff_of_true rfl (.lasting tied.1 tied.2)
  rename_i untied
  simp only [Bool.and_eq_true, Bool.or_eq_true] at untied
  split
  · rename_i display
    refine iff_of_false (by decide) fun lacks => ?_
    cases lacks with
    | lasting oneShot tied => exact untied ⟨oneShot, tied⟩
    | multiplier shown => rw [display] at shown; cases shown
    | damage kind => have shown := damage_shown kind; rw [display] at shown; cases shown
  rename_i shown
  have shown : Buff.isDisplayKey key = false := Bool.eq_false_iff.mpr shown
  split
  · rename_i kind
    refine ⟨fun silent => .multiplier shown kind silent, fun lacks => ?_⟩
    cases lacks with
    | lasting oneShot tied => exact absurd ⟨oneShot, tied⟩ untied
    | multiplier _ _ silent => exact silent
    | damage damaging => rw [multiplier_not_damage_like game key kind] at damaging; cases damaging
  · rename_i other
    simp only [Bool.or_eq_false_iff, Bool.not_eq_false']
    refine ⟨fun ⟨kind, silent⟩ => .damage kind words read silent, fun lacks => ?_⟩
    cases lacks with
    | lasting oneShot tied => exact absurd ⟨oneShot, tied⟩ untied
    | multiplier _ kind => exact absurd kind other
    | damage kind words' read' silent =>
      obtain rfl := Except.ok.inj (read.symm.trans read')
      exact ⟨kind, silent⟩

section Buffs

variable (game : Game) (intent : Intent)

def supported (b : Buff) : Fields BuffValue := b.data.filter fun (key, _) => keeps game intent key

theorem supported_entry (evidence : String) (told : intentOf evidence = .ok intent) (b : Buff) (entry : String × BuffValue) :
    entry ∈ supported game intent b ↔ entry ∈ b.data ∧ ¬Lacks game evidence entry.1 := by
  rw [supported, List.mem_filter, ← dropped_iff_lacks game evidence entry.1 intent told, Bool.not_eq_false]

theorem supported_again (b : Buff) : supported game intent { b with data := supported game intent b } = supported game intent b := by
  unfold supported
  rw [List.filter_filter]
  simp only [Bool.and_self]

theorem thin_cases (b : Buff) :
    (thin game intent b = some { b with data := supported game intent b } ∧
        (supported game intent b = b.data ∨ ∃ entry ∈ supported game intent b, Buff.isDisplayKey entry.1 = false)) ∨
      thin game intent b = none ∧ supported game intent b ≠ b.data ∧
        ∀ entry ∈ supported game intent b, Buff.isDisplayKey entry.1 = true := by
  have filtered : thin game intent b = if (supported game intent b).length = b.data.length then some b
      else if ({ b with data := supported game intent b } : Buff).effectKeys.isEmpty then none
      else some { b with data := supported game intent b } := rfl
  have idle_iff : ({ b with data := supported game intent b } : Buff).effectKeys.isEmpty = true ↔
      ∀ entry ∈ supported game intent b, Buff.isDisplayKey entry.1 = true := by
    simp only [Buff.effectKeys, Fields.keys, List.isEmpty_iff, List.filter_eq_nil_iff, List.forall_mem_map, Bool.not_eq_true,
      Bool.not_eq_false']
  rw [filtered]
  split
  · rename_i whole
    have same : supported game intent b = b.data := List.filter_sublist.eq_of_length whole
    exact .inl ⟨by rw [same], .inl same⟩
  rename_i fewer
  split
  · rename_i idle
    exact .inr ⟨rfl, fun same => fewer (congrArg List.length same), idle_iff.mp idle⟩
  · rename_i busy
    rw [idle_iff] at busy
    simp only [not_forall, Bool.not_eq_true] at busy
    obtain ⟨entry, member, shown⟩ := busy
    exact .inl ⟨rfl, .inr ⟨entry, member, shown⟩⟩

theorem thinned_again (b filtered : Buff) (made : thin game intent b = some filtered) :
    thin game intent filtered = some filtered ∧ filtered.title = b.title ∧ filtered.constellation = b.constellation := by
  rcases thin_cases game intent b with ⟨kept, -⟩ | ⟨gone, -⟩
  · obtain rfl := Option.some.inj (made.symm.trans kept)
    refine ⟨?_, rfl, rfl⟩
    have whole := supported_again game intent b
    rcases thin_cases game intent { b with data := supported game intent b } with ⟨kept, -⟩ | ⟨-, fewer, -⟩
    · rw [kept, whole]
    · exact absurd whole fewer
  · rw [gone] at made
    cases made

theorem filter_buff_ok (hints : List (Nat × String)) (b : Buff) (result : Option Buff)
    (made : filterBuff game hints b = .ok result) : ∃ evidence intent, evidenceOf hints b = .ok evidence ∧
      intentOf evidence = .ok intent ∧ result = thin game intent b := by
  obtain ⟨evidence, read, made⟩ := bind_ok _ _ _ made
  obtain ⟨intent, told, shape⟩ := bind_ok _ _ _ made
  exact ⟨evidence, intent, read, told, (Except.ok.inj shape).symm⟩

theorem filtered_again (hints : List (Nat × String)) (b filtered : Buff) (made : filterBuff game hints b = .ok (some filtered)) :
    filterBuff game hints filtered = .ok (some filtered) := by
  obtain ⟨evidence, intent, read, told, thins⟩ := filter_buff_ok game hints b _ made
  obtain ⟨again, title, level⟩ := thinned_again game intent b filtered thins.symm
  have same : evidenceOf hints filtered = .ok evidence := by rw [← read, evidenceOf, evidenceOf, title, level]
  exact bind_made same (bind_made told (congrArg Except.ok again))

end Buffs

/-- What comes of a list of buffs, in its order: a buff that stays has the entries for which its texts have words, all of
its own or one in effect among them, and one that goes has lost an entry and has none in effect left. -/
inductive Thinned (game : Game) (hints : List (Nat × String)) : List Buff → List Buff → Prop
  | nil : Thinned game hints [] []
  | stays {buffs thinned : List Buff} (b : Buff) (evidence : String) (read : evidenceOf hints b = .ok evidence)
      (data : Fields BuffValue) (part : data.Sublist b.data)
      (left : ∀ entry, entry ∈ data ↔ entry ∈ b.data ∧ ¬Lacks game evidence entry.1)
      (active : data = b.data ∨ ∃ entry ∈ data, Buff.isDisplayKey entry.1 = false)
      (rest : Thinned game hints buffs thinned) : Thinned game hints (b :: buffs) ({ b with data } :: thinned)
  | goes {buffs thinned : List Buff} (b : Buff) (evidence : String) (read : evidenceOf hints b = .ok evidence)
      (loses : ∃ entry ∈ b.data, Lacks game evidence entry.1)
      (idle : ∀ entry ∈ b.data, Lacks game evidence entry.1 ∨ Buff.isDisplayKey entry.1 = true)
      (rest : Thinned game hints buffs thinned) : Thinned game hints (b :: buffs) thinned

theorem buffs_thin (game : Game) (hints : List (Nat × String)) (buffs : List Buff) (results : List (Option Buff))
    (made : List.Forall₂ (fun b result => filterBuff game hints b = .ok result) buffs results) :
    Thinned game hints buffs (results.filterMap id) := by
  induction made with
  | nil => exact .nil
  | @cons b result buffs results first _ ih =>
    obtain ⟨evidence, intent, read, told, thins⟩ := filter_buff_ok game hints b result first
    have entries := supported_entry game intent evidence told b
    rcases thin_cases game intent b with ⟨kept, active⟩ | ⟨gone, fewer, idle⟩
    · rw [List.filterMap_cons_some (thins.trans kept)]
      exact .stays b evidence read _ List.filter_sublist entries active ih
    · rw [List.filterMap_cons_none (thins.trans gone)]
      refine .goes b evidence read ?_ (fun entry member => ?_) ih
      · obtain ⟨entry, member, dropped⟩ : ∃ entry ∈ b.data, ¬keeps game intent entry.1 = true := by
          simpa [supported] using fewer
        exact ⟨entry, member, (dropped_iff_lacks _ _ _ intent told).mp (Bool.eq_false_iff.mpr dropped)⟩
      · by_cases lacks : Lacks game evidence entry.1
        · exact .inl lacks
        · exact .inr (idle entry ((entries entry).mpr ⟨member, lacks⟩))

theorem Thinned.supported {game : Game} {hints : List (Nat × String)} {buffs thinned : List Buff}
    (thins : Thinned game hints buffs thinned) : ∀ b ∈ thinned, ∃ evidence, evidenceOf hints b = .ok evidence ∧
      ∀ entry ∈ b.data, ¬Lacks game evidence entry.1 := by
  induction thins with
  | nil => exact List.forall_mem_nil _
  | stays b evidence read data _ left _ _ ih =>
    exact List.forall_mem_cons.mpr ⟨⟨evidence, read, fun entry member => ((left entry).mp member).2⟩, ih⟩
  | goes _ _ _ _ _ _ ih => exact ih

theorem Thinned.subsequence {game : Game} {hints : List (Nat × String)} {buffs thinned : List Buff}
    (thins : Thinned game hints buffs thinned) : ∃ kept : List Buff, kept.Sublist buffs ∧
      List.Forall₂ (fun b filtered => ∃ data, data.Sublist b.data ∧ filtered = { b with data }) kept thinned := by
  induction thins with
  | nil => exact ⟨[], .slnil, .nil⟩
  | stays b _ _ data part _ _ _ ih =>
    obtain ⟨kept, among, each⟩ := ih
    exact ⟨b :: kept, among.cons_cons b, .cons ⟨data, part, rfl⟩ each⟩
  | goes b _ _ _ _ _ ih =>
    obtain ⟨kept, among, each⟩ := ih
    exact ⟨kept, among.cons b, each⟩

theorem filter_ok (kit : Kit) (buffs thinned : List Buff) (made : filter kit buffs = .ok thinned) :
    ∃ hints results, constellationHints kit = .ok hints ∧ thinned = results.filterMap id ∧
      List.Forall₂ (fun b result => filterBuff kit.game hints b = .ok result) buffs results := by
  obtain ⟨hints, told, made⟩ := bind_ok _ _ _ made
  obtain ⟨results, each, shape⟩ := bind_ok _ _ _ made
  exact ⟨hints, results, told, (Except.ok.inj shape).symm, map_m_pairs _ _ _ each⟩

theorem buffs_again (game : Game) (hints : List (Nat × String)) (buffs : List Buff) (results : List (Option Buff))
    (made : List.Forall₂ (fun b result => filterBuff game hints b = .ok result) buffs results) :
    (results.filterMap id).mapM (filterBuff game hints) = .ok ((results.filterMap id).map some) := by
  induction made with
  | nil => rfl
  | @cons b result _ results first _ ih =>
    cases result with
    | none => exact ih
    | some filtered =>
      have kept : (some filtered :: results).filterMap id = filtered :: results.filterMap id := rfl
      rw [kept, List.mapM_cons]
      exact bind_made (filtered_again game hints b filtered first) (bind_made ih rfl)

def Unread (kit : Kit) (buffs : List Buff) (e : IntegerTooLong) : Prop :=
  (∃ hint ∈ kit.hints, normalizeMarkup hint = .error e) ∨
    ∃ hints, constellationHints kit = .ok hints ∧ ∃ b ∈ buffs,
      normalizeMarkup b.title = .error e ∨ ∃ evidence, evidenceOf hints b = .ok evidence ∧ compact evidence = .error e

theorem hints_milder (texts : List String) (found : List (Nat × String)) (cs : List Char)
    (each : ∀ entry ∈ found, Text.Milder entry.2.toList cs) :
    ∀ entry ∈ hintsOf found texts, Text.Milder entry.2.toList (cs ++ texts.flatMap String.toList) := by
  induction texts generalizing found cs with
  | nil =>
    rw [List.flatMap_nil, List.append_nil]
    exact each
  | cons text rest ih =>
    have kept : ∀ entry ∈ found, Text.Milder entry.2.toList (cs ++ text.toList) := fun entry member =>
      (each entry member).trans (Text.milder_part (List.sublist_append_left _ _))
    rw [List.flatMap_cons, ← List.append_assoc]
    unfold hintsOf
    split
    · exact ih found _ kept
    · split
      · refine ih _ _ fun entry member => ?_
        obtain ⟨⟨level, before⟩, among, rfl⟩ := List.mem_map.mp member
        dsimp only
        split
        · have joined := (each _ among).append (.refl text.toList)
          refine .trans ⟨?_, fun mark => ?_⟩ joined
          · simp [String.toList_append, Text.isAsciiDigit]
          · simpa [String.toList_append] using mark
        · exact kept _ among
      · refine ih _ _ fun entry member => ?_
        rcases List.mem_append.mp member with old | new
        · exact kept entry old
        · rw [List.mem_singleton.mp new]
          exact Text.milder_part (List.sublist_append_right _ _)

theorem normal_texts_milder (raw normal : List String) (read : List.Forall₂ (fun s t => normalizeMarkup s = .ok t) raw normal) :
    Text.Milder (normal.flatMap String.toList) (raw.flatMap String.toList) := by
  induction read with
  | nil => exact .refl _
  | cons first _ ih =>
    rw [List.flatMap_cons, List.flatMap_cons]
    exact (Text.normalize_milder _ _ first).append ih

theorem evidence_milder (hints : List (Nat × String)) (cs : List Char)
    (each : ∀ entry ∈ hints, Text.Milder entry.2.toList cs) (b : Buff) (evidence : String)
    (read : evidenceOf hints b = .ok evidence) : Text.Milder evidence.toList (b.title.toList ++ cs) := by
  obtain ⟨title, normal, rfl⟩ := map_ok _ _ _ read
  have lookup (level : Nat) : Text.Milder ((hints.lookup level).getD "").toList cs := by
    cases found : hints.lookup level with
    | none => exact Text.milder_part (List.nil_sublist cs)
    | some text =>
      obtain ⟨before, after, split, -⟩ := List.lookup_eq_some_iff.mp found
      exact each (level, text) (by simp [split])
  rw [Text.trim, String.toList_ofList]
  refine (Text.milder_part (Text.trim_part _)).trans ?_
  rw [String.toList_append, String.toList_append]
  have spaced : Text.Milder (title.toList ++ " ".toList) b.title.toList := by
    refine .trans ⟨?_, fun mark => ?_⟩ (Text.normalize_milder _ _ normal)
    · simp [Text.isAsciiDigit]
    · simpa using mark
  refine spaced.append ?_
  split
  · exact lookup _
  · exact Text.milder_part (List.nil_sublist cs)

theorem filter_total (kit : Kit) (buffs : List Buff) (hints : ∀ hint ∈ kit.hints, Text.Brief 0 hint.toList)
    (titles : ∀ b ∈ buffs, Text.Brief 0 (b.title.toList ++ kit.hints.flatMap String.toList)) :
    ∃ filtered, filter kit buffs = .ok filtered := by
  obtain ⟨texts, read⟩ := map_m_total kit.hints normalizeMarkup fun hint member =>
    Text.normalize_total hint (hints hint member)
  have told : constellationHints kit = .ok (hintsOf [] texts) := by
    rw [constellationHints, read]
    rfl
  have each : ∀ entry ∈ hintsOf [] texts, Text.Milder entry.2.toList (kit.hints.flatMap String.toList) := fun entry member =>
    (hints_milder texts [] [] (List.forall_mem_nil _) entry member).trans
      (normal_texts_milder _ _ (map_m_pairs _ _ _ read))
  obtain ⟨results, made⟩ := map_m_total buffs (filterBuff kit.game (hintsOf [] texts)) fun b member => by
    have title := (titles b member).sublist (List.sublist_append_left _ _)
    obtain ⟨evidence, gathered⟩ := map_total _ (fun title => Text.trim (title ++ " " ++ _)) (Text.normalize_total b.title title)
    have brief := (titles b member).milder (evidence_milder _ _ each b evidence gathered)
    obtain ⟨intent, intends⟩ := map_total _ _ (map_total _ _ (Text.normalize_total evidence brief))
    exact ⟨_, bind_made gathered (bind_made intends rfl)⟩
  exact ⟨results.filterMap id, bind_made told (bind_made made rfl)⟩

theorem filter_fails (kit : Kit) (buffs : List Buff) : Fails (Unread kit buffs) (filter kit buffs) := by
  have hints : Fails (fun e => ∃ hint ∈ kit.hints, normalizeMarkup hint = .error e) (constellationHints kit) :=
    fails_map _ _ (fails_map_m _ _ fun hint member e failed => ⟨hint, member, failed⟩)
  refine fails_bind _ _ (hints.mono fun e => .inl) fun hints told => ?_
  refine fails_bind _ _ (fails_map_m _ _ fun b member => ?_) fun _ _ => fails_ok _
  refine fails_bind _ _ (fails_map _ _ fun e failed => .inr ⟨hints, told, b, member, .inl failed⟩) fun evidence read => ?_
  exact fails_bind _ _ (fails_map _ _ fun e failed => .inr ⟨hints, told, b, member, .inr ⟨evidence, read, failed⟩⟩)
    fun _ _ => fails_ok _

/-- Filtering only takes away: buffs without anything in effect, and of the others the keys for which they have no words.
What it leaves has no such key, and stays as it is when it is filtered again. It fails only for a text that cannot be read. -/
theorem filtering_removes_unsupported (kit : Kit) (buffs : List Buff) :
    match filter kit buffs with
    | .ok thinned =>
      (∃ kept : List Buff, kept.Sublist buffs ∧ List.Forall₂ (fun b filtered => ∃ data, data.Sublist b.data ∧
        filtered = { b with data }) kept thinned) ∧
      filter kit thinned = .ok thinned ∧
      ∃ hints, constellationHints kit = .ok hints ∧ Thinned kit.game hints buffs thinned ∧
        ∀ b ∈ thinned, ∃ evidence, evidenceOf hints b = .ok evidence ∧ ∀ entry ∈ b.data, ¬Lacks kit.game evidence entry.1
    | .error e => Unread kit buffs e := by
  cases made : filter kit buffs with
  | error e => exact filter_fails kit buffs e made
  | ok thinned =>
    obtain ⟨hints, results, told, rfl, each⟩ := filter_ok kit buffs thinned made
    have thins := buffs_thin kit.game hints buffs results each
    have again : filter kit (results.filterMap id) = .ok (results.filterMap id) := by
      refine bind_made told (bind_made (buffs_again kit.game hints buffs results each) ?_)
      simp [List.filterMap_map, pure, Except.pure]
    exact ⟨thins.subsequence, again, hints, told, thins, thins.supported⟩

theorem display_key_begins (key : String) (display : Buff.isDisplayKey key = true) :
    ∃ rest, key.toList = '_' :: rest := by
  have begins : "_".toList <+: key.toList := by
    rwa [Buff.isDisplayKey, ← String.startsWith_toSlice, String.Slice.startsWith_string_iff, String.copy_toSlice] at display
  obtain ⟨rest, split⟩ := begins
  exact ⟨rest, split.symm⟩

theorem display_key_unscoped (game : Game) (endings : List String) (key : String) (display : Buff.isDisplayKey key = true) :
    isScoped game endings key = false := by
  obtain ⟨rest, split⟩ := display_key_begins key display
  have bare : ∃ more, Text.withoutFinalNewline key.toList = '_' :: more := by
    unfold Text.withoutFinalNewline
    split
    · rename_i ends
      rw [split] at ends ⊢
      cases rest with
      | nil => cases ends
      | cons c rest => exact ⟨_, List.dropLast_cons_cons⟩
    · exact ⟨rest, split⟩
  obtain ⟨more, bare⟩ := bare
  have lettered : ∀ scope ∈ scopes game, scope.toList.head? ≠ some '_' ∧ scope.toList ≠ [] := by
    cases game <;> decide
  rw [isScoped, bare, List.any_eq_false]
  intro scope listed within
  obtain ⟨ending, -, same⟩ := List.any_eq_true.mp within
  rw [beq_iff_eq] at same
  obtain ⟨apart, filled⟩ := lettered scope listed
  have first := congrArg (·.toList.head?) same
  rw [String.toList_append, List.head?_append_of_ne_nil _ filled, String.toList_ofList] at first
  exact apart first

theorem display_lacks_iff (game : Game) (evidence key : String) (display : Buff.isDisplayKey key = true) :
    Lacks game evidence key ↔ isOneShot evidence = true ∧ key.endsWith "Multi" = true := by
  constructor
  · intro lacks
    cases lacks with
    | lasting oneShot tied =>
      refine ⟨oneShot, tied.resolve_right fun isScope => ?_⟩
      rw [display_key_unscoped game _ key display] at isScope
      cases isScope
    | multiplier shown => rw [display] at shown; cases shown
    | damage kind => simp [isDamageLike, display] at kind
  · rintro ⟨oneShot, multiplier⟩
    exact .lasting oneShot (.inl multiplier)

theorem lookup_filter {α : Type} (keep : String → Bool) (fields : Fields α) (key : String) :
    Fields.find? (fields.filter fun (k, _) => keep k) key = if keep key then fields.find? key else none := by
  induction fields with
  | nil => simp [Fields.find?]
  | cons field rest ih =>
    obtain ⟨k, v⟩ := field
    simp only [Fields.find?] at ih ⊢
    by_cases same : key = k
    · subst same
      cases stays : keep key <;> simp [stays, ih]
    · have apart : (key == k) = false := beq_eq_false_iff_ne.mpr same
      cases stays : keep k <;> simp [List.lookup_cons, stays, apart, ih]

/-- What filtering does to the values for display of a buff that stays: each is left as it is, unless its key ends as that of
a multiplier and the texts of the buff speak of a single hit, in which case it goes. -/
theorem display_values_kept_iff (game : Game) (hints : List (Nat × String)) (b filtered : Buff)
    (stays : filterBuff game hints b = .ok (some filtered)) : ∃ evidence, evidenceOf hints b = .ok evidence ∧
      (∀ entry ∈ b.data, Buff.isDisplayKey entry.1 = true →
        (entry ∈ filtered.data ↔ ¬(isOneShot evidence = true ∧ entry.1.endsWith "Multi" = true))) ∧
      ∀ key, Buff.isDisplayKey key = true → filtered.data.find? key =
        if isOneShot evidence = true ∧ key.endsWith "Multi" = true then none else b.data.find? key := by
  obtain ⟨evidence, intent, read, told, thins⟩ := filter_buff_ok game hints b _ stays
  have left : filtered.data = supported game intent b := by
    rcases thin_cases game intent b with ⟨kept, -⟩ | ⟨gone, -⟩
    · rw [← Option.some.inj (kept.symm.trans thins.symm)]
    · rw [gone] at thins
      cases thins
  refine ⟨evidence, read, ?_, ?_⟩
  · intro entry member display
    rw [left, supported_entry game intent evidence told, display_lacks_iff game _ _ display]
    exact and_iff_right member
  · intro key display
    rw [left, supported, lookup_filter fun k => keeps game intent k]
    have dropped := dropped_iff_lacks game evidence key intent told
    rw [display_lacks_iff game _ _ display] at dropped
    by_cases single : isOneShot evidence = true ∧ key.endsWith "Multi" = true
    · rw [dropped.mpr single, if_pos single, if_neg Bool.false_ne_true]
    · have keeps_ : keeps game intent key = true := by
        rw [← Bool.not_eq_false]
        exact fun drops => single (dropped.mp drops)
      rw [keeps_, if_neg single, if_pos rfl]

def nextHit : Buff where
  title := "下次伤害"
  data := [("_skillMulti", .expression "2"), ("_note", .expression "1"), ("atkPct", .expression "10")]

theorem next_hit_evidence : evidenceOf [] nextHit = .ok "下次伤害" := by decide +kernel

theorem next_hit_filtered : filterBuff .gs [] nextHit =
    .ok (some { nextHit with data := [("_note", .expression "1"), ("atkPct", .expression "10")] }) := by
  have words : compact "下次伤害" = .ok "下次伤害" := by decide +kernel
  have told : intentOf "下次伤害" = .ok ⟨true, false, true⟩ := by
    have shown : (⟨!"下次伤害".isEmpty && isOneShot "下次伤害", multiplierMarker.occursIn "下次伤害",
        damageMarker.occursIn "下次伤害"⟩ : Intent) = ⟨true, false, true⟩ := by
      rw [Intent.mk.injEq]
      decide +kernel
    rw [intentOf, words]
    exact congrArg Except.ok shown
  have multiplier : keeps .gs ⟨true, false, true⟩ "_skillMulti" = false := by decide +kernel
  have note : keeps .gs ⟨true, false, true⟩ "_note" = true := by decide +kernel
  have attack : keeps .gs ⟨true, false, true⟩ "atkPct" = true := by decide +kernel
  have left : supported .gs ⟨true, false, true⟩ nextHit = [("_note", .expression "1"), ("atkPct", .expression "10")] := by
    simp [supported, nextHit, multiplier, note, attack]
  have active : ("atkPct", BuffValue.expression "10") ∈ supported .gs ⟨true, false, true⟩ nextHit := by simp [left]
  refine bind_made next_hit_evidence (bind_made told ?_)
  rcases thin_cases .gs ⟨true, false, true⟩ nextHit with ⟨kept, -⟩ | ⟨-, -, idle⟩
  · rw [kept, left]
    rfl
  · exact absurd (idle _ active) (by decide +kernel)

theorem display_multiplier_dropped : ∃ filtered, filterBuff .gs [] nextHit = .ok (some filtered) ∧
    ∃ entry ∈ nextHit.data, Buff.isDisplayKey entry.1 = true ∧ entry ∉ filtered.data ∧
      filtered.data.find? entry.1 = none := by
  refine ⟨_, next_hit_filtered, ("_skillMulti", .expression "2"), List.mem_cons_self, by decide +kernel, ?_, rfl⟩
  simp

theorem display_note_kept : ∃ filtered, filterBuff .gs [] nextHit = .ok (some filtered) ∧
    ("_note", .expression "1") ∈ filtered.data ∧ filtered.data.find? "_note" = some (.expression "1") := by
  obtain ⟨evidence, read, entries, look_ups⟩ := display_values_kept_iff .gs [] nextHit _ next_hit_filtered
  have plain : ¬(isOneShot evidence = true ∧ "_note".endsWith "Multi" = true) := by
    have other : "_note".endsWith "Multi" = false := by decide +kernel
    simp [other]
  refine ⟨_, next_hit_filtered, ?_, ?_⟩
  · exact (entries _ (by simp [nextHit]) (by decide +kernel)).mpr plain
  · rw [look_ups "_note" (by decide +kernel), if_neg plain]
    rfl

end DamagePlan.BuffFilter
