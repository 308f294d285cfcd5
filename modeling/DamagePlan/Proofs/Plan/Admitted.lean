import DamagePlan.Plan.Basic
import DamagePlan.Proofs.Render.Records

/-!
Rows, buffs and plans that their readers admit. A row that is admitted reads back from its own fields.
-/
set_option autoImplicit false

namespace DamagePlan

namespace Form.Checked

variable {α β : Type}

theorem applied_valid (f : Checked (α → β)) (x : Checked α) (b : β) (whole : f <*> x = .valid b) :
    ∃ g a, f = .valid g ∧ x = .valid a ∧ g a = b := by
  cases f with
  | invalid es => cases x <;> cases whole
  | valid g =>
    cases x with
    | invalid es => cases whole
    | valid a =>
      cases whole
      exact ⟨g, a, rfl, rfl, rfl⟩

theorem and_then_valid (x : Checked α) (f : α → Checked β) (b : β) (whole : x.andThen f = .valid b) :
    ∃ a, x = .valid a ∧ f a = .valid b := by
  cases x with
  | invalid es => cases whole
  | valid a => exact ⟨a, rfl, whole⟩

theorem inside_valid (key : String) (x : Checked α) (a : α) (whole : x.inside key = .valid a) : x = .valid a := by
  cases x with
  | invalid es => cases whole
  | valid a => exact whole

end Form.Checked

open Form.Checked (applied_valid and_then_valid inside_valid)

namespace Datum

mutual
theorem json_of_datum (j : Json) : (ofJson j).toJson = j := by
  cases j with
  | null | bool _ | int _ | float _ | str _ => rfl
  | arr items => simp only [ofJson, toJson, jsons_of_data items]
  | obj fields => simp only [ofJson, toJson, fields_of_data fields]

theorem jsons_of_data (items : List Json) : toJsonList (ofJsonList items) = items := by
  cases items with
  | nil => rfl
  | cons j js => simp only [ofJsonList, toJsonList, json_of_datum j, jsons_of_data js]

theorem fields_of_data (fields : List (String × Json)) : toJsonFields (ofJsonFields fields) = fields := by
  cases fields with
  | nil => rfl
  | cons field rest =>
    obtain ⟨key, j⟩ := field
    simp only [ofJsonFields, toJsonFields, Scalar.toKey, Scalar.shown, json_of_datum j, fields_of_data rest]
end

theorem found_named (fields : Fields Json) (key : String) :
    (namedEntries (ofJsonFields fields)).find? key = (fields.find? key).map ofJson := by
  induction fields with
  | nil => rfl
  | cons field rest ih =>
    obtain ⟨first, j⟩ := field
    simp only [ofJsonFields, namedEntries, List.filterMap_cons, Scalar.text?, Option.map_some, Fields.find?,
      List.lookup_cons] at ih ⊢
    split
    · rfl
    · exact ih

theorem found_present (fields : List (String × Option Json)) (distinct : (fields.map (·.1)).Nodup) (key : String) :
    (namedEntries (ofJsonFields (Fields.present fields))).find? key = ((fields.lookup key).join).map ofJson := by
  rw [found_named, Fields.find?, Fields.lookup_present fields distinct]

end Datum

namespace Form

variable {α : Type} {read : Reader α}

theorem natural_bounds (least most n : Nat) (d : Datum) (valid : Reader.naturalIn least (some most) d = .valid n) :
    least ≤ n ∧ n ≤ most := by
  obtain ⟨_, given, made, inside, rfl⟩ := applied_valid (.valid Int.toNat) _ _ valid
  cases made
  obtain ⟨m, -, bounded⟩ := and_then_valid _ _ _ inside
  split at bounded
  · cases bounded
  · split at bounded
    · cases bounded
    · rename_i low high
      cases bounded
      simp only [Option.map_some, Option.any_some, decide_eq_true_eq, Int.ofNat_eq_natCast, not_lt] at low high
      omega

theorem natural_read (least most n : Nat) (low : least ≤ n) (high : n ≤ most) :
    Reader.naturalIn least (some most) (.ofJson (.ofNat n)) = .valid n := by
  have above : ¬(n : Int) < least := by omega
  have below : ¬(most : Int) < n := by omega
  simp [Reader.naturalIn, Reader.integerIn, Json.ofNat, Datum.ofJson, Reader.integer, Checked.andThen, above, below,
    Functor.map]

theorem filled_valid (d : Datum) (s : String) (valid : Reader.nonEmptyString d = .valid s) : s ≠ "" := by
  obtain ⟨given, -, filled⟩ := and_then_valid _ _ _ valid
  split at filled
  · cases filled
  · rename_i other
    cases filled
    simpa using other

theorem filled_read (s : String) (filled : s ≠ "") : Reader.nonEmptyString (.ofJson (.str s)) = .valid s := by
  simp [Reader.nonEmptyString, Datum.ofJson, Reader.string, Checked.andThen, filled]

theorem required_valid (record : Fields Datum) (key : String) (a : α) (valid : required record key read = .valid a) :
    ∃ d, read d = .valid a := by
  unfold required at valid
  split at valid
  · exact ⟨_, inside_valid _ _ _ valid⟩
  · cases valid

theorem optional_valid (record : Fields Datum) (key : String) (value : Option α)
    (valid : optional record key read = .valid value) : ∀ a ∈ value, ∃ d, read d = .valid a := by
  rintro a rfl
  unfold optional defaulted at valid
  split at valid
  · have given := inside_valid _ _ _ valid
    unfold Reader.nullable at given
    split at given
    · cases given
    · obtain ⟨_, _, made, reads, same⟩ := applied_valid (.valid some) _ _ given
      cases made
      cases same
      exact ⟨_, reads⟩
  · cases valid

theorem defaulted_present (fields : List (String × Option Json)) (distinct : (fields.map (·.1)).Nodup) (key : String)
    (j : Json) (there : fields.lookup key = some (some j)) (other value : α) (reads : read (.ofJson j) = .valid value) :
    defaulted (Datum.namedEntries (Datum.ofJsonFields (Fields.present fields))) key other read = .valid value := by
  rw [defaulted, Datum.found_present fields distinct, there]
  simp only [Option.join_some, Option.map_some, reads, Checked.inside]

theorem required_present (fields : List (String × Option Json)) (distinct : (fields.map (·.1)).Nodup) (key : String)
    (j : Json) (there : fields.lookup key = some (some j)) (value : α) (reads : read (.ofJson j) = .valid value) :
    required (Datum.namedEntries (Datum.ofJsonFields (Fields.present fields))) key read = .valid value := by
  rw [required, Datum.found_present fields distinct, there]
  simp only [Option.join_some, Option.map_some, reads, Checked.inside]

theorem optional_present (fields : List (String × Option Json)) (distinct : (fields.map (·.1)).Nodup) (key : String)
    (value : Option α) (write : α → Json) (there : fields.lookup key = some (value.map write))
    (reads : ∀ a ∈ value, write a ≠ .null ∧ read (.ofJson (write a)) = .valid a) :
    optional (Datum.namedEntries (Datum.ofJsonFields (Fields.present fields))) key read = .valid value := by
  cases value with
  | none =>
    rw [optional, defaulted, Datum.found_present fields distinct, there]
    rfl
  | some a =>
    obtain ⟨other, read⟩ := reads a rfl
    refine defaulted_present fields distinct key (write a) there none (some a) ?_
    -- what is written is not null, so it is not read as a field that is missing
    cases written : write a with
    | null => exact absurd written other
    | bool _ | int _ | float _ | str _ | arr _ | obj _ =>
      rw [written] at read
      simp only [Datum.ofJson] at read ⊢
      simp only [Reader.nullable, read, Functor.map]

theorem any_fields_read (fields : Fields Json) : Reader.fields Reader.any (.ofJson (.obj fields)) = .valid fields := by
  simp only [Datum.ofJson, Reader.fields]
  induction fields with
  | nil => rfl
  | cons field rest ih =>
    obtain ⟨key, j⟩ := field
    simp only [Datum.ofJsonFields, Reader.fieldsFrom, ih, Reader.key, Reader.string, Reader.any, Datum.json_of_datum,
      Checked.inside, Functor.map, Seq.seq]

end Form

namespace Detail

open Form

structure Admitted (d : Detail) : Prop where
  titled : d.title ≠ ""
  asked : d.hasKindFields = true
  pick : ∀ p ∈ d.pick, p ≤ 10
  cons : ∀ c ∈ d.cons, 1 ≤ c ∧ c ≤ 6

instance (d : Detail) : Decidable d.Admitted :=
  decidable_of_iff (d.title ≠ "" ∧ d.hasKindFields = true ∧ (∀ p ∈ d.pick, p ≤ 10) ∧ ∀ c ∈ d.cons, 1 ≤ c ∧ c ≤ 6)
    ⟨fun ⟨titled, asked, pick, cons⟩ => ⟨titled, asked, pick, cons⟩, fun own => ⟨own.titled, own.asked, own.pick, own.cons⟩⟩

theorem read_admitted (j : Json) (d : Detail) (valid : ofJson j = .valid d) : d.Admitted := by
  unfold ofJson ofObject ofMapping at valid
  split at valid
  · obtain ⟨d, fields, checked⟩ := and_then_valid _ _ _ valid
    split at checked
    · rename_i asked
      cases checked
      -- The fields are taken off from the last to the first.
      obtain ⟨_, cons, raw, isCons, rfl⟩ := applied_valid _ _ _ fields
      obtain ⟨_, _, check, -, rfl⟩ := applied_valid _ _ _ raw
      obtain ⟨_, _, params, -, rfl⟩ := applied_valid _ _ _ check
      obtain ⟨_, _, picked, -, rfl⟩ := applied_valid _ _ _ params
      obtain ⟨_, pick, reaction, isPick, rfl⟩ := applied_valid _ _ _ picked
      obtain ⟨_, _, stat, -, rfl⟩ := applied_valid _ _ _ reaction
      obtain ⟨_, _, element, -, rfl⟩ := applied_valid _ _ _ stat
      obtain ⟨_, _, key, -, rfl⟩ := applied_valid _ _ _ element
      obtain ⟨_, _, table, -, rfl⟩ := applied_valid _ _ _ key
      obtain ⟨_, _, talent, -, rfl⟩ := applied_valid _ _ _ table
      obtain ⟨_, _, kind, -, rfl⟩ := applied_valid _ _ _ talent
      obtain ⟨_, _, title, -, rfl⟩ := applied_valid _ _ _ kind
      obtain ⟨_, title, made, isTitle, rfl⟩ := applied_valid (.valid Detail.mk) _ _ title
      cases made
      obtain ⟨given, filled⟩ := required_valid _ _ _ isTitle
      refine ⟨filled_valid _ _ filled, asked, fun p picked => ?_, fun c own => ?_⟩
      · obtain ⟨given, read⟩ := optional_valid _ _ _ isPick p picked
        exact (natural_bounds _ _ _ _ read).2
      · obtain ⟨given, read⟩ := optional_valid _ _ _ isCons c own
        exact natural_bounds _ _ _ _ read
    · cases checked
  · cases valid

theorem kind_read (kind : DetailKind) : readKind (.ofJson (.str kind.code)) = .valid kind := by
  have found : DetailKind.ofCode? kind.code = some kind := by cases kind <;> decide
  simp only [Datum.ofJson, readKind, found]

theorem Admitted.reads_back {d : Detail} (admitted : d.Admitted) : ofJson (.obj d.toFields) = .valid d := by
  have texts (s? : Option String) : ∀ s ∈ s?, Json.str s ≠ .null ∧ Reader.string (.ofJson (.str s)) = .valid s :=
    fun _ _ => ⟨nofun, rfl⟩
  have naturals (least most : Nat) (n? : Option Nat) (inside : ∀ n ∈ n?, least ≤ n ∧ n ≤ most) :
      ∀ n ∈ n?, Json.ofNat n ≠ .null ∧ Reader.naturalIn least (some most) (.ofJson (.ofNat n)) = .valid n :=
    fun n own => ⟨nofun, natural_read least most n (inside n own).1 (inside n own).2⟩
  have params : ∀ fields ∈ d.params, Json.obj fields ≠ .null ∧
      Reader.fields Reader.any (.ofJson (.obj fields)) = .valid fields := fun fields _ => ⟨nofun, any_fields_read fields⟩
  simp only [ofJson, ofObject, ofMapping, Datum.ofJson, toFields, read]
  rw [required_present _ (by simp) "title" _ rfl d.title (filled_read _ admitted.titled),
    defaulted_present _ (by simp) "kind" _ rfl _ d.kind (kind_read d.kind),
    optional_present _ (by simp) "talent" d.talent .str rfl (texts _),
    optional_present _ (by simp) "table" d.table .str rfl (texts _),
    optional_present _ (by simp) "key" d.key .str rfl (texts _),
    optional_present _ (by simp) "element" d.element .str rfl (texts _),
    optional_present _ (by simp) "scale_stat" d.scaleStat .str rfl (texts _),
    optional_present _ (by simp) "reaction" d.reaction .str rfl (texts _),
    optional_present _ (by simp) "pick" d.pick .ofNat rfl (naturals 0 10 _ fun p own => ⟨p.zero_le, admitted.pick p own⟩),
    optional_present _ (by simp) "params" d.params .obj rfl params,
    optional_present _ (by simp) "check_expr" d.check .str rfl (texts _),
    optional_present _ (by simp) "raw_expr" d.raw .str rfl (texts _),
    optional_present _ (by simp) "cons" d.cons .ofNat rfl (naturals 1 6 _ admitted.cons)]
  simp only [Functor.map, Seq.seq, Checked.andThen, admitted.asked, if_true]

theorem admitted_iff (d : Detail) : d.Admitted ↔ ∃ j, ofJson j = .valid d :=
  ⟨fun admitted => ⟨_, admitted.reads_back⟩, fun ⟨j, valid⟩ => read_admitted j d valid⟩

end Detail

open Form

structure Buff.Admitted (b : Buff) : Prop where
  titled : b.title ≠ ""
  constellation : ∀ n ∈ b.constellation, 1 ≤ n ∧ n ≤ 6
  trace : ∀ n ∈ b.trace, 1 ≤ n ∧ n ≤ 10

instance (b : Buff) : Decidable b.Admitted :=
  decidable_of_iff (b.title ≠ "" ∧ (∀ n ∈ b.constellation, 1 ≤ n ∧ n ≤ 6) ∧ ∀ n ∈ b.trace, 1 ≤ n ∧ n ≤ 10)
    ⟨fun ⟨titled, constellation, trace⟩ => ⟨titled, constellation, trace⟩,
      fun own => ⟨own.titled, own.constellation, own.trace⟩⟩

theorem Buff.read_admitted (j : Json) (b : Buff) (valid : ofJson j = .valid b) : b.Admitted := by
  unfold ofJson ofObject ofMapping at valid
  split at valid
  · obtain ⟨_, _, check, -, rfl⟩ := applied_valid _ _ _ valid
    obtain ⟨_, _, trace, -, rfl⟩ := applied_valid _ _ _ check
    obtain ⟨_, _, constellation, isTrace, rfl⟩ := applied_valid _ _ _ trace
    obtain ⟨_, _, sort, isConstellation, rfl⟩ := applied_valid _ _ _ constellation
    obtain ⟨_, _, title, -, rfl⟩ := applied_valid _ _ _ sort
    obtain ⟨_, _, made, isTitle, rfl⟩ := applied_valid (.valid Buff.mk) _ _ title
    cases made
    obtain ⟨given, filled⟩ := required_valid _ _ _ isTitle
    refine ⟨filled_valid _ _ filled, fun n own => ?_, fun n own => ?_⟩
    · obtain ⟨given, read⟩ := optional_valid _ _ _ isConstellation n own
      exact natural_bounds _ _ _ _ read
    · obtain ⟨given, read⟩ := optional_valid _ _ _ isTrace n own
      exact natural_bounds _ _ _ _ read
  · cases valid

structure Plan.Admitted (plan : Plan) : Prop where
  named : plan.mainAttrs ≠ ""
  details : ∀ d ∈ plan.details, d.Admitted
  buffs : ∀ b ∈ plan.buffs, b.Admitted
  few : plan.details.length ≤ Plan.maxDetails
  fewBuffs : plan.buffs.length ≤ Plan.maxBuffs

namespace Plan

instance (plan : Plan) : Decidable plan.Admitted :=
  decidable_of_iff (plan.mainAttrs ≠ "" ∧ (∀ d ∈ plan.details, d.Admitted) ∧ (∀ b ∈ plan.buffs, b.Admitted) ∧
      plan.details.length ≤ maxDetails ∧ plan.buffs.length ≤ maxBuffs)
    ⟨fun ⟨named, details, buffs, few, fewBuffs⟩ => ⟨named, details, buffs, few, fewBuffs⟩,
      fun own => ⟨own.named, own.details, own.buffs, own.few, own.fewBuffs⟩⟩

theorem limited_valid {α : Type} (most : Nat) (xs ys : List α) : limited most xs = .valid ys ↔ xs.length ≤ most ∧ xs = ys := by
  unfold limited
  split
  · simp [Checked.fail]
    omega
  · simp
    omega

theorem built_admitted (mainAttrs key : Json) (details : List Detail) (buffs : List Buff) (plan : Plan)
    (rows : ∀ d ∈ details, d.Admitted) (modifiers : ∀ b ∈ buffs, b.Admitted)
    (valid : build mainAttrs key details buffs = .valid plan) : plan.Admitted := by
  obtain ⟨_, _, details, isBuffs, rfl⟩ := applied_valid _ _ _ valid
  obtain ⟨_, _, key, isDetails, rfl⟩ := applied_valid _ _ _ details
  obtain ⟨_, _, attributes, -, rfl⟩ := applied_valid _ _ _ key
  obtain ⟨_, _, made, isAttributes, rfl⟩ := applied_valid (.valid Plan.mk) _ _ attributes
  cases made
  obtain ⟨few, rfl⟩ := (limited_valid _ _ _).mp (inside_valid _ _ _ isDetails)
  obtain ⟨fewBuffs, rfl⟩ := (limited_valid _ _ _).mp (inside_valid _ _ _ isBuffs)
  exact ⟨filled_valid _ _ (inside_valid _ _ _ isAttributes), rows, modifiers, few, fewBuffs⟩

theorem Admitted.builds {plan : Plan} (admitted : plan.Admitted) :
    build (.str plan.mainAttrs) ((plan.defaultDamageKey.map .str).getD .null) plan.details plan.buffs = .valid plan := by
  have key : Reader.nullable Reader.string (.ofJson ((plan.defaultDamageKey.map .str).getD .null)) =
      .valid plan.defaultDamageKey := by
    cases plan.defaultDamageKey <;> rfl
  simp only [build, filled_read _ admitted.named, key, (limited_valid _ _ _).mpr ⟨admitted.few, rfl⟩,
    (limited_valid _ _ _).mpr ⟨admitted.fewBuffs, rfl⟩, Checked.inside, Functor.map, Seq.seq]

end Plan

end DamagePlan
