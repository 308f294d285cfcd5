import DamagePlan.Planning.Scaling
import DamagePlan.Proofs.Json.Fields
import DamagePlan.Proofs.Text.Markup

/-!
Every stat that the texts of a kit suggest is one that rows may scale with, and the schema of every table can be told
unless a sample holds an integer that is too large.
-/
set_option autoImplicit false

namespace DamagePlan.Scaling

theorem stat_of_text_known (s stat : String) (found : statOfText? s = some stat) : stat ∈ stats := by
  unfold statOfText? at found
  split at found
  · cases found
    decide
  · split at found
    · cases found
      decide
    · split at found
      · cases found
        decide
      · split at found
        · cases found
          decide
        · cases found

theorem stat_of_description_known (description : String) (found : Option String)
    (told : statOfDescription? description = .ok found) : ∀ stat ∈ found, stat ∈ stats := by
  obtain ⟨text, -, shape⟩ := bind_ok _ _ _ told
  cases shape
  intro stat own
  obtain ⟨entry, among, rfl⟩ := Option.map_eq_some_iff.mp own
  have worded : ∀ entry ∈ damageWording, entry.1 ∈ stats := by simp [damageWording, stats]
  exact worded entry (List.mem_of_find?_eq_some among)

theorem stat_of_hints_known (game : Game) (talent unit sample stat : String)
    (found : statOfHints? game talent unit sample = some stat) : stat ∈ stats := by
  unfold statOfHints? at found
  dsimp only at found
  rcases Option.or_eq_some_iff.mp found with hinted | ⟨-, plain⟩
  · rcases Option.or_eq_some_iff.mp hinted with own | ⟨-, own⟩
    · split at own
      · cases own
      · exact stat_of_text_known _ stat own
    · exact stat_of_text_known _ stat own
  · split at plain
    · cases plain
      decide
    · cases plain

theorem damage_stat_known (kit : Kit) (talent table stat : String) (told : damageStat kit talent table = .ok stat) :
    stat ∈ stats := by
  obtain ⟨unit, -, told⟩ := bind_ok _ _ _ told
  obtain ⟨sample, -, told⟩ := bind_ok _ _ _ told
  split at told
  · rename_i own hinted
    cases told
    exact stat_of_hints_known _ _ _ _ _ hinted
  · obtain ⟨found, described, shape⟩ := bind_ok _ _ _ told
    cases shape
    cases found with
    | none => decide
    | some own => exact stat_of_description_known _ _ described own rfl

theorem support_stat_known (kit : Kit) (talent table stat : String) (told : supportStat kit talent table = .ok stat) :
    stat ∈ stats := by
  obtain ⟨unit, -, told⟩ := bind_ok _ _ _ told
  split at told
  · rename_i own found
    cases told
    exact stat_of_text_known _ _ found
  · obtain ⟨sample, -, told⟩ := bind_ok _ _ _ told
    split at told
    · rename_i own found
      cases told
      exact stat_of_text_known _ _ found
    · obtain ⟨text, -, rfl⟩ := map_ok _ _ _ told
      unfold supportStatOfDescription
      split
      · decide
      · split
        · decide
        · split <;> decide

def Schema.Known : Schema → Prop
  | .statStat first second => first ∈ stats ∧ second ∈ stats
  | .statFlat stat | .statTimes stat | .percentList stat => stat ∈ stats

theorem head_stat_known (parts : List String) : (parts.filterMap statOfText?).head?.getD "atk" ∈ stats := by
  cases found : (parts.filterMap statOfText?).head? with
  | none => decide
  | some stat =>
    obtain ⟨part, -, speaks⟩ := List.mem_filterMap.mp (List.mem_of_head? found)
    exact stat_of_text_known part stat speaks

theorem percent_schema_known (unitStat : Option String) (known : ∀ stat ∈ unitStat, stat ∈ stats)
    (parts : List String) (schema : Schema) (found : percentSchema unitStat parts = some schema) : schema.Known := by
  unfold percentSchema at found
  dsimp only at found
  split at found
  · cases found
  · cases found
    have alone : Schema.Known (.percentList ((parts.filterMap statOfText?).head?.getD "atk")) := head_stat_known parts
    -- A pair needs two parts and a unit, of which one part and the unit name the stats.
    split
    · rename_i unit _
      have unitKnown := known unit rfl
      split
      · rename_i first speaks _
        split
        · exact alone
        · exact ⟨stat_of_text_known _ first speaks, unitKnown⟩
      · rename_i second _ speaks
        split
        · exact alone
        · exact ⟨unitKnown, stat_of_text_known _ second speaks⟩
      · exact alone
    · exact alone

theorem mixed_schema_known (first second : String) (schema : Schema) (found : mixedSchema first second = some schema) :
    schema.Known := by
  unfold mixedSchema at found
  split at found
  · rename_i s t speaks speaks'
    split at found
    · cases found
      exact ⟨stat_of_text_known first s speaks, stat_of_text_known second t speaks'⟩
    · cases found
  · rename_i s speaks _
    split at found
    · cases found
      exact stat_of_text_known first s speaks
    · cases found
  · cases found

theorem summed_schema_known (unitStat : Option String) (known : ∀ stat ∈ unitStat, stat ∈ stats) (parts : List String)
    (schema : Schema) (found : summedSchema? unitStat parts = some schema) : schema.Known := by
  unfold summedSchema? at found
  split at found
  · rename_i first second more
    dsimp only at found
    rcases Option.or_eq_some_iff.mp found with percent | ⟨-, mixed⟩
    · split at percent
      · exact percent_schema_known unitStat known _ schema percent
      · cases percent
    · exact mixed_schema_known first second schema mixed
  · cases found

theorem text_stat_known (text : String) : (statOfText? text).getD "atk" ∈ stats := by
  cases found : statOfText? text with
  | none => decide
  | some stat => exact stat_of_text_known text stat found

/-- What a table's schema comes to once its value text is read and its hits are counted. -/
inductive Schemes (kit : Kit) (talent table text : String) : Option Nat → Option Schema → Prop
  | counted (n : Nat) : Schemes kit talent table text (some n) (some (.statTimes ((statOfText? text).getD "atk")))
  | single (few : (plusParts text).length < 2) : Schemes kit talent table text none none
  | summed (several : 2 ≤ (plusParts text).length) (unit : String) (told : unitOf kit talent table = .ok unit) :
      Schemes kit talent table text none (summedSchema? (statOfText? unit) (plusParts text))

theorem schema_ok_iff (kit : Kit) (talent table : String) (found : Option Schema) : schema kit talent table = .ok found ↔
    ∃ text hits, valueText kit talent table = .ok text ∧ sampledHits kit talent table text = .ok hits ∧
      Schemes kit talent table text hits found := by
  constructor
  · intro told
    obtain ⟨text, read, told⟩ := lifted_ok _ _ _ _ told
    obtain ⟨hits, counted, told⟩ := lifted_ok _ _ _ _ told
    refine ⟨text, hits, read, counted, ?_⟩
    split at told
    · cases told
      exact .counted _
    · dsimp only at told
      split at told
      · rename_i few
        cases told
        exact .single few
      · rename_i several
        obtain ⟨unit, unitRead, shape⟩ := lifted_ok _ _ _ _ told
        cases shape
        exact .summed (Nat.le_of_not_lt several) unit unitRead
  · rintro ⟨text, hits, read, counted, schemes⟩
    refine lift_made read (lift_made counted ?_)
    cases schemes with
    | counted n => rfl
    | single few => exact if_pos few
    | summed several unit told => exact (if_neg (Nat.not_lt_of_le several)).trans (lift_made told rfl)

theorem schema_known (kit : Kit) (talent table : String) (found : Schema)
    (result : schema kit talent table = .ok (some found)) : found.Known := by
  obtain ⟨text, hits, -, -, schemes⟩ := (schema_ok_iff kit talent table _).mp result
  generalize same : some found = result at schemes
  cases schemes with
  | counted n =>
    cases same
    exact text_stat_known _
  | single => cases same
  | summed _ unit _ => exact summed_schema_known _ (fun stat speaks => stat_of_text_known _ stat speaks) _ found same.symm

/-- A kit whose texts can all be read and tell the schemas and stats of all tables. -/
structure Told (kit : Kit) : Prop where
  schema : ∀ talent table, ∃ found, schema kit talent table = .ok found
  damage : ∀ talent table, ∃ stat, damageStat kit talent table = .ok stat
  support : ∀ talent table, ∃ stat, supportStat kit talent table = .ok stat
  described : ∀ talent, ∃ text, Text.normalizeMarkup ((kit.descriptions.find? talent).getD "") = .ok text

/-- Every integer that may count the hits of a sample is in the range of numbers. -/
def SamplesInRange (kit : Kit) : Prop := ∀ talent ∈ kit.samples, ∀ sample ∈ talent.2, ∀ first n rest,
  sample.2 = .arr (first :: .int n :: rest) → ∃ x, Decimal.ofInteger n = .ok x

theorem hit_count_told (sample : Json)
    (inRange : ∀ first n rest, sample = .arr (first :: .int n :: rest) → ∃ x, Decimal.ofInteger n = .ok x) :
    ∃ count, hitCount sample = .ok count := by
  unfold hitCount
  dsimp only
  split
  · rename_i first n rest
    exact bind_total _ _ (map_total _ _ (inRange first n rest rfl)) fun _ => ⟨_, rfl⟩
  · exact ⟨_, rfl⟩
  · exact ⟨_, rfl⟩
  · exact ⟨_, rfl⟩

theorem sampled_hits_total (kit : Kit) (inRange : SamplesInRange kit) (talent table text : String) :
    ∃ hits, sampledHits kit talent table text = .ok hits := by
  unfold sampledHits sampleOf
  split
  · refine hit_count_told _ fun first n rest same => ?_
    -- no sample is as good as null, which counts no hits
    cases samples : kit.samples.find? talent with
    | none =>
      rw [samples] at same
      cases same
    | some named =>
      cases entry : Fields.find? named table with
      | none =>
        rw [samples, Option.getD_some, entry] at same
        cases same
      | some sample =>
        simp only [samples, entry, Option.getD_some] at same
        exact inRange _ (Fields.found_entry _ _ _ samples) _ (Fields.found_entry _ _ _ entry) first n rest same
  · exact ⟨none, rfl⟩

def IsTooLong (fault : Decimal.IntegerFault) : Prop := ∃ e, fault = .tooLong e

theorem lifted_too_long {α : Type} (x : Except Decimal.IntegerTooLong α) :
    Fails IsTooLong (liftM x : Except Decimal.IntegerFault α) :=
  fails_map_error x .tooLong IsTooLong (P := fun _ => True) (fun _ _ => trivial) fun e _ => ⟨e, rfl⟩

theorem schema_too_long (kit : Kit) (inRange : SamplesInRange kit) (talent table : String) :
    Fails IsTooLong (schema kit talent table) := by
  refine fails_bind _ _ (lifted_too_long _) fun text _ => ?_
  obtain ⟨hits, counted⟩ := sampled_hits_total kit inRange talent table text
  refine fails_bind _ _ ?_ fun hits _ => ?_
  · rw [counted]
    exact fails_ok _
  split
  · exact fails_ok _
  dsimp only
  split
  · exact fails_ok _
  · exact fails_bind _ _ (lifted_too_long _) fun _ _ => fails_ok _

def texts (kit : Kit) : List String :=
  kit.tables.flatMap (·.2) ++ kit.units.flatMap (·.2.map (·.2)) ++ kit.textSamples.flatMap (·.2.map (·.2)) ++
    kit.descriptions.map (·.2) ++ kit.hints

/-- A kit none of whose texts has a reference with too many digits, not even with two more of them. -/
def BriefTexts (kit : Kit) : Prop := ∀ text ∈ texts kit, Text.Brief 2 text.toList

instance (kit : Kit) : Decidable (BriefTexts kit) := inferInstanceAs (Decidable (∀ text ∈ texts kit, _))

theorem find_text_among (named : Fields String) (table : String) :
    (named.find? table).getD "" = "" ∨ (named.find? table).getD "" ∈ named.map (·.2) := by
  cases found : named.find? table with
  | none => exact .inl rfl
  | some text => exact .inr (List.mem_map.mpr ⟨_, Fields.found_entry _ _ _ found, rfl⟩)

theorem nested_text_among (entries : Fields (Fields String)) (talent text : String)
    (own : text = "" ∨ text ∈ ((entries.find? talent).getD []).map (·.2)) :
    text = "" ∨ text ∈ entries.flatMap (·.2.map (·.2)) := by
  refine own.imp_right fun member => ?_
  cases found : entries.find? talent with
  | none =>
    rw [found] at member
    cases member
  | some named =>
    rw [found] at member
    exact List.mem_flatMap.mpr ⟨_, Fields.found_entry _ _ _ found, member⟩

theorem entry_among (entries : Fields (Fields String)) (talent table : String) :
    entryOf entries talent table = "" ∨ entryOf entries talent table ∈ entries.flatMap (·.2.map (·.2)) := by
  refine nested_text_among entries talent _ ?_
  unfold entryOf
  dsimp only
  split
  · rename_i text found
    split
    · exact find_text_among _ _
    · exact .inr (List.mem_map.mpr ⟨_, Fields.found_entry _ _ _ found, rfl⟩)
  · exact find_text_among _ _

section Brief

variable (kit : Kit) (brief : BriefTexts kit)

include brief

theorem brief_text_read (text : String) (known : text = "" ∨ text ∈ texts kit) :
    ∃ normal, Text.normalizeMarkup text = .ok normal := by
  rcases known with rfl | among
  · exact ⟨_, rfl⟩
  · exact Text.normalize_total text ((brief text among).mono (by decide))

theorem description_read (talent : String) : ∃ text, Text.normalizeMarkup ((kit.descriptions.find? talent).getD "") = .ok text := by
  refine brief_text_read kit brief _ ((find_text_among kit.descriptions talent).imp_right fun member => ?_)
  simp only [texts, List.mem_append]
  exact .inl (.inr member)

theorem unit_read (talent table : String) : ∃ unit, unitOf kit talent table = .ok unit := by
  refine brief_text_read kit brief _ ((entry_among kit.units talent table).imp_right fun member => ?_)
  simp only [texts, List.mem_append]
  exact .inl (.inl (.inl (.inr member)))

theorem text_sample_read (talent table : String) : ∃ sample, textSampleOf kit talent table = .ok sample := by
  refine brief_text_read kit brief _ ((entry_among kit.textSamples talent table).imp_right fun member => ?_)
  simp only [texts, List.mem_append]
  exact .inl (.inl (.inr member))

theorem value_text_read (talent table : String) : ∃ text, valueText kit talent table = .ok text := by
  refine brief_text_read kit brief _ ((nested_text_among kit.textSamples talent _ (find_text_among _ table)).imp_right fun member => ?_)
  simp only [texts, List.mem_append]
  exact .inl (.inl (.inr member))

theorem schema_total (inRange : SamplesInRange kit) (talent table : String) : ∃ found, schema kit talent table = .ok found := by
  obtain ⟨text, read⟩ := value_text_read kit brief talent table
  obtain ⟨hits, counted⟩ := sampled_hits_total kit inRange talent table text
  obtain ⟨unit, told⟩ := unit_read kit brief talent table
  simp only [schema_ok_iff]
  cases hits with
  | some n => exact ⟨_, text, some n, read, counted, .counted n⟩
  | none =>
    rcases Nat.lt_or_ge (plusParts text).length 2 with few | several
    · exact ⟨_, text, none, read, counted, .single few⟩
    · exact ⟨_, text, none, read, counted, .summed several unit told⟩

theorem damage_stat_total (talent table : String) : ∃ stat, damageStat kit talent table = .ok stat := by
  refine bind_total _ _ (unit_read kit brief talent table) fun unit => bind_total _ _ (text_sample_read kit brief talent table) fun sample => ?_
  split
  · exact ⟨_, rfl⟩
  · exact bind_total _ _ (bind_total _ _ (description_read kit brief talent) fun _ => ⟨_, rfl⟩) fun _ => ⟨_, rfl⟩

theorem support_stat_total (talent table : String) : ∃ stat, supportStat kit talent table = .ok stat := by
  refine bind_total _ _ (unit_read kit brief talent table) fun unit => ?_
  split
  · exact ⟨_, rfl⟩
  · refine bind_total _ _ (text_sample_read kit brief talent table) fun sample => ?_
    split
    · exact ⟨_, rfl⟩
    · exact map_total _ _ (description_read kit brief talent)

theorem in_range_told (inRange : SamplesInRange kit) : Told kit where
  schema := schema_total kit brief inRange
  damage := damage_stat_total kit brief
  support := support_stat_total kit brief
  described := description_read kit brief

end Brief

end DamagePlan.Scaling
