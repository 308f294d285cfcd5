import DamagePlan.Proofs.Decimal.Bits
import DamagePlan.Proofs.Json.Fields
import DamagePlan.Proofs.Script.Deferral
import DamagePlan.Proofs.Steps
import DamagePlan.Proofs.Text.Markup
import DamagePlan.Refine.Reading

/-!
Reading a raw plan: whatever the value is, the rows and buffs read from it refer to what the kit and the game know,
and the expressions among them read their context.
-/
set_option autoImplicit false

namespace DamagePlan

namespace Script

/-- A text without arrows that reads, in parentheses, as an expression of context names and helpers. -/
structure ReadsContext (text : String) : Prop where
  plain : ∃ tokens, tokenize text = .ok tokens ∧ ∀ token ∈ tokens, token.lexeme ≠ .symbol .arrow
  reads : ∃ e, parseExpression ("(" ++ text ++ ")") = .ok e ∧ e.deferrals = 0 ∧
    ∀ name ∈ e.names, name ∈ contextNames ∨ name ∈ helperNames

theorem context_expression_reads (text : String) (accepted : isContextExpression text = true) : ReadsContext text := by
  obtain ⟨e, parsed, plain, known⟩ := accepted_defers_nothing text accepted
  refine ⟨?_, e, parsed, plain, by simpa [Expr.readsContextOnly] using known⟩
  unfold isContextExpression at accepted
  split at accepted
  · cases accepted
  · rename_i tokens scanned
    refine ⟨tokens, scanned, fun token member arrow => ?_⟩
    have none := (Bool.and_eq_true_iff.mp accepted).1
    simp only [Bool.not_eq_true', List.any_eq_false] at none
    apply none token member
    obtain ⟨l, pos⟩ := token
    obtain rfl : l = .symbol .arrow := arrow
    rfl

theorem accepted_reads_context (text : String) : ∀ taken ∈ acceptedExpression? text, ReadsContext taken :=
  fun taken accepted => context_expression_reads taken (taken_is_context_expression text taken accepted)

end Script

namespace RawPlan

open RawRecord Script
open Decimal (IntegerTooLarge)

theorem stripped_fits (schema : Schema) (record : Fields Json) (key : String) (shape : Shape) (j : Json)
    (known : schema.find? key = some shape) (found : (strip schema record).find? key = some j) :
    ∃ original, (key, original) ∈ record ∧ shape.fit? original = some j := by
  obtain ⟨⟨key', original⟩, among, fits⟩ := List.mem_filterMap.mp (Fields.found_entry _ _ _ found)
  unfold fitField? at fits
  split at fits
  · rename_i shape' known'
    obtain ⟨fit, fits, same⟩ := Option.map_eq_some_iff.mp fits
    cases same
    rw [known] at known'
    cases known'
    exact ⟨original, among, fits⟩
  · rename_i unknown
    cases fits
    rw [known] at unknown
    cases unknown

theorem stripped_natural (schema : Schema) (record : Fields Json) (key : String) (least most : Int) (n : Nat)
    (known : schema.find? key = some (.integer (some least) (some most)))
    (found : naturalOf? (strip schema record) key = some n) : ∃ m : Int, least ≤ m ∧ m ≤ most ∧ n = m.toNat := by
  obtain ⟨m, number, rfl⟩ := Option.map_eq_some_iff.mp found
  obtain ⟨j, field, number⟩ := Option.bind_eq_some_iff.mp number
  obtain ⟨original, -, fits⟩ := stripped_fits schema record key _ j known field
  simp only [Shape.fit?] at fits
  split at fits
  · rename_i n converted
    split at fits
    · rename_i bounds
      cases fits
      rw [converted] at number
      cases number
      simp only [Option.all_some, Bool.and_eq_true, decide_eq_true_eq] at bounds
      exact ⟨m, bounds.1, bounds.2, rfl⟩
    · cases fits
  · cases fits

theorem given_text_filled (record : Fields Json) (key s : String) (given : givenText? record key = some s) : s ≠ "" := by
  simpa using (Option.filter_eq_some_iff.mp given).2

theorem canonical_known (spellings : List String) (s id : String) (found : Reaction.canonicalAmong spellings s = some id) :
    id ∈ spellings := by
  unfold Reaction.canonicalAmong at found
  split at found
  · cases found
  · exact List.mem_of_find?_eq_some found

inductive IsRead (kit : Kit) (record : Fields Json) (d : Detail) : Prop
  | table (kind : DetailKind) (reaction : Option String) (talent table : String) (other : kind ≠ .reaction)
      (known : ∀ id ∈ reaction, id ∈ Reaction.ids kit.game) (listed : kit.hasTable (some talent) (some table) = true)
      (made : tableRow kit record kind reaction talent table = .ok d)
  | reaction (id : String) (known : id ∈ Reaction.ids kit.game) (other : id ∉ Reaction.amplifying)
      (made : reactionRow kit record id = .ok d)

theorem read_table_row_made (kit : Kit) (record : Fields Json) (kind : DetailKind) (reaction : Option String)
    (faults : List PlanFault) (reading : DetailReading) (other : kind ≠ .reaction)
    (known : ∀ id ∈ reaction, id ∈ Reaction.ids kit.game)
    (made : readTableRow kit record kind reaction faults = .ok reading) : ∀ d ∈ reading.detail, IsRead kit record d := by
  unfold readTableRow at made
  split at made
  · split at made
    · rename_i listed
      obtain ⟨d, row, shape⟩ := bind_ok _ _ _ made
      cases shape
      rintro _ ⟨⟩
      exact .table kind reaction _ _ other known listed row
    · cases made
      exact fun d own => nomatch own
  · cases made
    exact fun d own => nomatch own

theorem read_record_made (kit : Kit) (record : Fields Json) (i : Nat) (reading : DetailReading)
    (made : readRecord kit i record = .ok reading) : ∀ d ∈ reading.detail, IsRead kit record d := by
  have known : ∀ id ∈ Reaction.canonical? kit.game (textOf record "reaction"), id ∈ Reaction.ids kit.game :=
    canonical_known _ _
  unfold readRecord at made
  dsimp only at made
  generalize Reaction.canonical? kit.game (textOf record "reaction") = reaction at made known
  split at made
  · cases made
    exact fun d own => nomatch own
  · rename_i id _
    split at made
    · exact read_table_row_made kit record .dmg _ _ reading nofun known made
    · rename_i other
      obtain ⟨d, row, shape⟩ := bind_ok _ _ _ made
      cases shape
      rintro _ ⟨⟩
      exact .reaction id (known id rfl) (by simpa using other) row
  · rename_i reaction _ _ withoutReaction withReaction
    have other : kindOf record ≠ .reaction := by
      intro same
      cases reaction with
      | none => exact withoutReaction same rfl
      | some id => exact withReaction id same rfl
    exact read_table_row_made kit record _ _ _ reading other known made

def IsReadRow (kit : Kit) (d : Detail) : Prop := ∃ fields, IsRead kit (strip detailSchema fields) d

theorem read_details_made (kit : Kit) (i : Nat) (items : List Json) (readings : List DetailReading)
    (made : readDetails kit i items = .ok readings) : ∀ reading ∈ readings, ∀ d ∈ reading.detail, IsReadRow kit d := by
  induction items generalizing i readings with
  | nil =>
    cases made
    exact List.forall_mem_nil _
  | cons j rest ih =>
    obtain ⟨first, read, made⟩ := bind_ok _ _ _ made
    obtain ⟨others, readOthers, shape⟩ := bind_ok _ _ _ made
    cases shape
    refine List.forall_mem_cons.mpr ⟨?_, ih (i + 1) others readOthers⟩
    unfold readDetail at read
    split at read
    · rename_i fields
      exact fun d own => ⟨fields, read_record_made kit _ i first read d own⟩
    · cases read
      rintro d ⟨⟩

theorem element_known (kit : Kit) (record : Fields Json) (reaction : Option String)
    (known : ∀ id ∈ reaction, id ∈ Reaction.ids kit.game) :
    ∀ e ∈ elementOf kit record reaction, e ∈ Reaction.elementOverrides kit.game := by
  have overrides : ∀ game, ∀ id ∈ Reaction.ids game, id ∈ Reaction.amplifying → id ∈ Reaction.elementOverrides game := by
    intro game
    cases game <;> decide
  intro e found
  rcases Option.or_eq_some_iff.mp found with own | ⟨-, amplified⟩
  · exact canonical_known _ _ e own
  · obtain ⟨named, amplifies⟩ := Option.filter_eq_some_iff.mp amplified
    exact overrides kit.game e (known e named) (List.contains_iff_mem.mp amplifies)

theorem read_row_titled (kit : Kit) (record : Fields Json) (d : Detail) (read : IsRead kit record d) : d.title ≠ "" := by
  cases read with
  | table kind reaction talent table other known listed made =>
    obtain ⟨params, -, shape⟩ := bind_ok _ _ _ made
    obtain rfl := Except.ok.inj shape
    cases given : givenText? record "title" with
    | none =>
      simp only [Kit.hasTable, Bool.and_eq_true, Bool.not_eq_true', String.isEmpty_eq_false_iff] at listed
      simpa [given] using listed.1.2
    | some title => simpa [given] using given_text_filled record "title" title given
  | reaction id known other made =>
    obtain ⟨params, -, shape⟩ := bind_ok _ _ _ made
    obtain rfl := Except.ok.inj shape
    have filled : ∀ game, ∀ id ∈ Reaction.ids game, id ≠ "" := by
      intro game
      cases game <;> decide
    cases given : (givenText? record "title").or (givenText? record "table") with
    | none => simpa [given] using filled kit.game id known
    | some title =>
      simp only [Option.getD_some]
      rcases Option.or_eq_some_iff.mp given with own | ⟨-, table⟩
      · exact given_text_filled record "title" title own
      · exact given_text_filled record "table" title table

structure TakenFrom (record : Fields Json) (d : Detail) : Prop where
  pick : d.pick = naturalOf? record "pick"
  cons : d.cons = naturalOf? record "cons"
  check : d.check = acceptedExpression? (textOf record "check")
  raw : d.raw = acceptedExpression? (textOf record "dmgExpr")

theorem read_row_taken (kit : Kit) (record : Fields Json) (d : Detail) (read : IsRead kit record d) :
    TakenFrom record d := by
  cases read with
  | table kind reaction talent table other known listed made =>
    obtain ⟨params, -, shape⟩ := bind_ok _ _ _ made
    obtain rfl := Except.ok.inj shape
    constructor <;> dsimp only
  | reaction id known other made =>
    obtain ⟨params, -, shape⟩ := bind_ok _ _ _ made
    obtain rfl := Except.ok.inj shape
    constructor <;> dsimp only

theorem read_row_listed (kit : Kit) (record : Fields Json) (d : Detail) (read : IsRead kit record d)
    (other : d.kind ≠ .reaction) : kit.hasTable d.talent d.table = true := by
  cases read with
  | table kind reaction talent table other known listed made =>
    obtain ⟨params, -, shape⟩ := bind_ok _ _ _ made
    obtain rfl := Except.ok.inj shape
    exact listed
  | reaction id known other' made =>
    obtain ⟨params, -, shape⟩ := bind_ok _ _ _ made
    obtain rfl := Except.ok.inj shape
    exact absurd rfl other

theorem read_row_reacts (kit : Kit) (record : Fields Json) (d : Detail) (read : IsRead kit record d)
    (reacts : d.kind = .reaction) : ∃ id ∈ d.reaction, id ∈ Reaction.ids kit.game ∧ id ∉ Reaction.amplifying := by
  cases read with
  | table kind reaction talent table other known listed made =>
    obtain ⟨params, -, shape⟩ := bind_ok _ _ _ made
    obtain rfl := Except.ok.inj shape
    exact absurd reacts other
  | reaction id known other made =>
    obtain ⟨params, -, shape⟩ := bind_ok _ _ _ made
    obtain rfl := Except.ok.inj shape
    exact ⟨id, rfl, known, other⟩

theorem read_row_element (kit : Kit) (record : Fields Json) (d : Detail) (read : IsRead kit record d) :
    ∀ e ∈ d.element, e ∈ Reaction.elementOverrides kit.game := by
  cases read with
  | table kind reaction talent table other known listed made =>
    obtain ⟨params, -, shape⟩ := bind_ok _ _ _ made
    obtain rfl := Except.ok.inj shape
    intro e own
    dsimp only at own
    split at own
    · exact element_known kit record reaction known e own
    · cases own
  | reaction id known other made =>
    obtain ⟨params, -, shape⟩ := bind_ok _ _ _ made
    obtain rfl := Except.ok.inj shape
    exact fun e own => nomatch own

theorem read_row_pick (kit : Kit) (d : Detail) (read : IsReadRow kit d) : ∀ p ∈ d.pick, p ≤ 10 := by
  obtain ⟨fields, read⟩ := read
  intro p own
  have found : naturalOf? (strip detailSchema fields) "pick" = some p := (read_row_taken kit _ d read).pick.symm.trans own
  obtain ⟨n, -, most, rfl⟩ := stripped_natural detailSchema fields "pick" 0 10 p rfl found
  omega

theorem read_row_cons (kit : Kit) (d : Detail) (read : IsReadRow kit d) : ∀ c ∈ d.cons, 1 ≤ c ∧ c ≤ 6 := by
  obtain ⟨fields, read⟩ := read
  intro c own
  have found : naturalOf? (strip detailSchema fields) "cons" = some c := (read_row_taken kit _ d read).cons.symm.trans own
  obtain ⟨n, least, most, rfl⟩ := stripped_natural detailSchema fields "cons" 1 6 c rfl found
  omega

/-- A row that refers to what its kit and the game know, with expressions that read their context. -/
structure SoundRow (kit : Kit) (d : Detail) : Prop where
  titled : d.title ≠ ""
  listed : d.kind ≠ .reaction → kit.hasTable d.talent d.table = true
  reacts : d.kind = .reaction → ∃ id ∈ d.reaction, id ∈ Reaction.ids kit.game ∧ id ∉ Reaction.amplifying
  element : ∀ e ∈ d.element, e ∈ Reaction.elementOverrides kit.game
  pick : ∀ p ∈ d.pick, p ≤ 10
  check : ∀ text ∈ d.check, ReadsContext text
  raw : ∀ text ∈ d.raw, ReadsContext text

theorem read_row_sound (kit : Kit) (d : Detail) (read : IsReadRow kit d) : SoundRow kit d := by
  obtain ⟨fields, own⟩ := read
  have taken := read_row_taken kit _ d own
  exact
    { titled := read_row_titled kit _ d own
      listed := read_row_listed kit _ d own
      reacts := read_row_reacts kit _ d own
      element := read_row_element kit _ d own
      pick := read_row_pick kit d ⟨fields, own⟩
      check := taken.check ▸ accepted_reads_context _
      raw := taken.raw ▸ accepted_reads_context _ }

theorem without_repetitions_among (details : List Detail) : ∀ d ∈ withoutRepetitions details, d ∈ details := by
  refine List.foldlRecOn (motive := fun kept => ∀ d ∈ kept, d ∈ details) details _ (fun d none => absurd none List.not_mem_nil) fun kept among d member => ?_
  split
  · exact among
  · exact List.forall_mem_append.mpr ⟨among, List.forall_mem_singleton.mpr member⟩

theorem without_repetitions_apart (details : List Detail) :
    (withoutRepetitions details).Pairwise fun d e => d.identity ≠ e.identity := by
  refine List.foldlRecOn (motive := List.Pairwise fun d e : Detail => d.identity ≠ e.identity) details _ .nil
    fun kept apart d _ => ?_
  split
  · exact apart
  · rename_i new
    refine List.pairwise_append.mpr ⟨apart, List.pairwise_singleton .., fun e member other one same => new ?_⟩
    rw [List.mem_singleton.mp one] at same
    exact List.any_eq_true.mpr ⟨e, member, by simpa using same⟩

def SoundValue : BuffValue → Prop
  | .number x => Decimal.isFinite x = true
  | .expression text => ReadsContext text

structure SoundEntry (game : Game) (entry : String × BuffValue) : Prop where
  known : entry.1.startsWith "_" = true ∨ ∃ rule ∈ BuffKey.rules game, entry.1 ∈ rule.keys
  value : SoundValue entry.2

structure SoundBuff (game : Game) (b : Buff) : Prop where
  entries : ∀ entry ∈ b.data, SoundEntry game entry
  effect : b.effectKeys ≠ []
  check : ∀ text ∈ b.check, ReadsContext text

theorem allowed_key_known (game : Game) (key : String) (trimmed : Text.trim key = key)
    (allowed : BuffKey.isAllowed game key = true) :
    key.startsWith "_" = true ∨ ∃ rule ∈ BuffKey.rules game, key ∈ rule.keys := by
  rw [BuffKey.isAllowed, trimmed] at allowed
  simpa [BuffKey.Rule.admits] using (Bool.and_eq_true_iff.mp allowed).2

theorem read_value_sound (j : Json) (value : BuffValue) (made : readBuffValue j = .ok (some value)) :
    SoundValue value := by
  unfold readBuffValue at made
  split at made
  · obtain ⟨text, taken, rfl⟩ := Option.map_eq_some_iff.mp (Except.ok.inj made)
    exact accepted_reads_context _ text taken
  · obtain ⟨x, converted, shape⟩ := map_ok _ _ _ made
    cases shape
    exact Decimal.of_integer_finite _ x converted
  · split at made
    · rename_i finite
      cases made
      exact finite
    · cases made
  · cases made

theorem read_data_keeps {I : Fields BuffValue → Prop} (game : Game)
    (step : ∀ data key j value, I data → BuffKey.isAllowed game (Text.trim key) = true → readBuffValue j = .ok (some value) →
      I (data.insert (Text.trim key) value))
    (fields : Fields Json) (data data' : Fields BuffValue) (own : I data) (made : readData game data fields = .ok data') :
    I data' := by
  induction fields generalizing data with
  | nil =>
    cases made
    exact own
  | cons first rest ih =>
    obtain ⟨key, j⟩ := first
    unfold readData at made
    dsimp only at made
    split at made
    · exact ih data own made
    · rename_i allowed
      obtain ⟨value, read, made⟩ := bind_ok _ _ _ made
      split at made
      · rename_i value
        exact ih _ (step data key j value own (by simpa using allowed) read) made
      · exact ih data own made

theorem read_data_sound (game : Game) (fields : Fields Json) (data : Fields BuffValue)
    (made : readData game [] fields = .ok data) : ∀ entry ∈ data, SoundEntry game entry := by
  refine read_data_keeps (I := fun data => ∀ entry ∈ data, SoundEntry game entry) game ?_ fields [] data nofun made
  intro data key j value each allowed read entry member
  rcases Fields.inserted_entry _ _ _ entry member with rfl | old
  · exact ⟨allowed_key_known game _ (Text.trim_trimmed key) allowed, read_value_sound j value read⟩
  · exact each entry old

structure IsReadBuff (game : Game) (record : Fields Json) (b : Buff) : Prop where
  title : givenText? record "title" = some b.title
  data : readData game [] ((entriesOf? record "data").getD []) = .ok b.data
  effect : b.effectKeys ≠ []
  constellation : b.constellation = naturalOf? record "cons"
  trace : b.trace = naturalOf? record "tree"
  check : b.check = acceptedExpression? (textOf record "check")

theorem read_buff_made (game : Game) (j : Json) (b : Buff) (made : readBuff game j = .ok (some b)) :
    ∃ fields, IsReadBuff game (strip buffSchema fields) b := by
  unfold readBuff at made
  split at made
  · rename_i fields
    dsimp only at made
    split at made
    · cases made
    · rename_i title given
      obtain ⟨data, read, made⟩ := bind_ok _ _ _ made
      split at made
      · cases made
      · rename_i effective
        unfold buffOf? at made
        split at made
        · cases made
        · cases made
          refine ⟨fields, given, read, by simpa [Buff.effectKeys] using effective, ?_, ?_, ?_⟩ <;> dsimp only
  · cases made

theorem read_buff_sound (game : Game) (record : Fields Json) (b : Buff) (read : IsReadBuff game record b) :
    SoundBuff game b where
  entries := read_data_sound game _ b.data read.data
  effect := read.effect
  check := read.check ▸ accepted_reads_context _

def commaParts (s : String) : List String := (s.toList.splitOn ',').map String.ofList

theorem distinct_rest (xs : List String) : xs.eraseDups.Nodup := by
  induction size : xs.length using Nat.strong_induction_on generalizing xs with
  | _ n ih =>
    cases xs with
    | nil => exact List.nodup_nil
    | cons x rest =>
      rw [List.eraseDups_cons, List.nodup_cons]
      refine ⟨by simp [List.mem_eraseDups], ih _ ?_ _ rfl⟩
      have shorter := List.length_filter_le (fun y => !y == x) rest
      simp only [List.length_cons] at size
      omega

theorem attribute_without_comma (s : String) (named : isAttribute s = true) : ',' ∉ s.toList := by
  intro comma
  unfold isAttribute at named
  split at named
  · cases named
  · rename_i c rest shape
    simp only [Bool.and_eq_true, List.all_eq_true] at named
    rw [shape] at comma
    rcases List.mem_cons.mp comma with rfl | later
    · exact absurd named.1 (by decide)
    · exact absurd (named.2 _ later) (by decide)

theorem normal_attributes (s : String) (filled : normalizeAttributes s ≠ "") :
    (commaParts (normalizeAttributes s)).Nodup ∧ ∀ part ∈ commaParts (normalizeAttributes s), isAttribute part = true := by
  have each : ∀ part ∈ attributesOf s, isAttribute part = true := fun part member =>
    (List.mem_filter.mp (List.mem_eraseDups.mp member)).2
  have some_ : attributesOf s ≠ [] := by
    intro none
    rw [normalizeAttributes, none] at filled
    exact filled rfl
  have parts : commaParts (normalizeAttributes s) = attributesOf s := by
    have whole : ∀ part ∈ (attributesOf s).map String.toList, ',' ∉ part := by
      intro part member
      obtain ⟨named, among, rfl⟩ := List.mem_map.mp member
      exact attribute_without_comma named (each named among)
    have apart := List.splitOn_intercalate ',' whole (by simpa using some_)
    have separator : ",".toList = [','] := by decide
    rw [commaParts, normalizeAttributes, String.toList_intercalate, separator, apart, List.map_map]
    simp
  rw [parts]
  exact ⟨distinct_rest _, each⟩

structure SoundReading (kit : Kit) (plan : Plan) : Prop where
  attributes : plan.mainAttrs ≠ ""
  distinct : (commaParts plan.mainAttrs).Nodup
  named : ∀ part ∈ commaParts plan.mainAttrs, isAttribute part = true
  rows : ∀ d ∈ plan.details, SoundRow kit d
  buffs : ∀ b ∈ plan.buffs, SoundBuff kit.game b

theorem read_plan_details (kit : Kit) (raw : Json) (plan : Plan) (made : read kit raw = .ok plan) :
    ∃ items readings, readDetails kit 0 items = .ok readings ∧
      plan.details = (withoutRepetitions (readings.filterMap (·.detail))).take Plan.maxDetails := by
  unfold read at made
  split at made
  · rename_i fields
    unfold readPlan at made
    dsimp only at made
    obtain ⟨readings, read, made⟩ := bind_ok _ _ _ made
    split at made
    · cases made
    · split at made
      · cases made
      · obtain ⟨buffs, -, shape⟩ := bind_ok _ _ _ made
        cases shape
        exact ⟨_, readings, map_error_ok _ _ _ read, rfl⟩
  · cases made

theorem read_plan_rows (kit : Kit) (raw : Json) (plan : Plan) (made : read kit raw = .ok plan) :
    ∀ d ∈ plan.details, IsReadRow kit d := by
  obtain ⟨items, readings, read, whole⟩ := read_plan_details kit raw plan made
  intro d member
  rw [whole] at member
  have among := without_repetitions_among _ d (List.mem_of_mem_take member)
  obtain ⟨reading, there, own⟩ := List.mem_filterMap.mp among
  exact read_details_made kit 0 items readings read reading there d own

theorem read_plan_apart (kit : Kit) (raw : Json) (plan : Plan) (made : read kit raw = .ok plan) :
    plan.details.Pairwise fun d e => d.identity ≠ e.identity := by
  obtain ⟨_, readings, -, whole⟩ := read_plan_details kit raw plan made
  rw [whole]
  exact (without_repetitions_apart _).sublist (List.take_sublist _ _)

theorem read_plan_few (kit : Kit) (raw : Json) (plan : Plan) (made : read kit raw = .ok plan) :
    plan.details.length ≤ Plan.maxDetails := by
  obtain ⟨_, _, -, whole⟩ := read_plan_details kit raw plan made
  rw [whole]
  exact List.length_take_le ..

theorem read_plan_buffs (kit : Kit) (raw : Json) (plan : Plan) (made : read kit raw = .ok plan) :
    ∀ b ∈ plan.buffs, ∃ fields, IsReadBuff kit.game (strip buffSchema fields) b := by
  unfold read at made
  split at made
  · unfold readPlan at made
    dsimp only at made
    obtain ⟨readings, read, made⟩ := bind_ok _ _ _ made
    split at made
    · cases made
    · split at made
      · cases made
      · obtain ⟨buffs, readBuffs, shape⟩ := bind_ok _ _ _ made
        have each := map_m_ok _ _ _ (map_error_ok _ _ _ readBuffs)
        cases shape
        intro b member
        obtain ⟨read?, there, same⟩ := List.mem_filterMap.mp (List.mem_of_mem_take member)
        obtain rfl : read? = some b := same
        obtain ⟨j, -, made⟩ := each _ there
        exact read_buff_made kit.game j b made
  · cases made

theorem read_plan_attributes (kit : Kit) (raw : Json) (plan : Plan) (made : read kit raw = .ok plan) :
    plan.mainAttrs ≠ "" ∧ ∃ s, plan.mainAttrs = normalizeAttributes s := by
  unfold read at made
  split at made
  · unfold readPlan at made
    dsimp only at made
    obtain ⟨readings, read, made⟩ := bind_ok _ _ _ made
    split at made
    · cases made
    · split at made
      · cases made
      · rename_i filled
        obtain ⟨buffs, -, shape⟩ := bind_ok _ _ _ made
        cases shape
        exact ⟨by simpa using filled, _, rfl⟩
  · cases made

theorem read_plan_sound (kit : Kit) (raw : Json) (plan : Plan) (made : read kit raw = .ok plan) : SoundReading kit plan := by
  obtain ⟨filled, s, normal⟩ := read_plan_attributes kit raw plan made
  obtain ⟨distinct, named⟩ := normal_attributes s (normal ▸ filled)
  refine ⟨filled, normal ▸ distinct, normal ▸ named, fun d member => ?_, fun b member => ?_⟩
  · exact read_row_sound kit d (read_plan_rows kit raw plan made d member)
  · obtain ⟨fields, own⟩ := read_plan_buffs kit raw plan made b member
    exact read_buff_sound kit.game _ b own

end RawPlan

end DamagePlan
