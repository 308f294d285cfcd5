import DamagePlan.Proofs.Planning.Scaling
import DamagePlan.Proofs.Script.Deferral
import DamagePlan.Proofs.Script.RoundTrip
import DamagePlan.Refine.Enrichment

/-!
The formulas of rows can be written, and they are not deep.
-/
set_option autoImplicit false

namespace DamagePlan.Formula

open Script
open Script.Expr (Printable height)

def isTalent (talent : String) : Bool := isName talent.toList

theorem known_talent (talent : String) (known : talent ∈ Talent.keys) : isTalent talent = true := by
  have named : ∀ t ∈ Talent.keys, isTalent t = true := by decide +kernel
  exact named talent known

theorem stat_named (stat : String) (known : stat ∈ Scaling.stats) : isName stat.toList = true := by
  have named : ∀ s ∈ Scaling.stats, isName s.toList = true := by decide +kernel
  exact named stat known

def IsFree (id : String) : Prop := isName id.toList = true ∧ id ∉ keywords

instance (id : String) : Decidable (IsFree id) := inferInstanceAs (Decidable (_ ∧ _))

def vocabulary : List String :=
  ["talent", "attr", "pick", "num", "sum", "isList", "calc", "toRatio", "dmg", "heal", "shield", "reaction"]

theorem vocabulary_free (id : String) (known : id ∈ vocabulary) : IsFree id := by
  have free : ∀ id ∈ vocabulary, IsFree id := by decide +kernel
  exact free id known

structure Writable (n : Nat) (e : Expr) : Prop where
  printable : e.Printable
  low : e.height ≤ n
  inside : ∀ id ∈ e.names, id ∈ vocabulary
  plain : e.deferrals = 0
  scalar : e.compares = false

namespace Writable

variable {n m : Nat} {e f g : Expr}

theorem mono (more : n ≤ m) (writable : Writable n e) : Writable m e :=
  { writable with low := Nat.le_trans writable.low more }

theorem fits (writable : Writable n e) : e.Fits (n + 1) :=
  ⟨e.reach_le_height.trans (Nat.succ_le_succ writable.low), writable.scalar⟩

theorem string (s : String) : Writable n (.string s) := ⟨trivial, Nat.zero_le n, nofun, rfl, rfl⟩

theorem number (x : Float) (unsigned : IsUnsigned x) : Writable n (.number x) := ⟨unsigned, Nat.zero_le n, nofun, rfl, rfl⟩

theorem name (id : String) (known : id ∈ vocabulary) : Writable n (.name id) :=
  ⟨vocabulary_free id known, Nat.zero_le n, by simpa [Expr.names] using known, rfl, rfl⟩

theorem member (part : String) (named : isName part.toList = true) (obj : Writable n e) :
    Writable (n + 1) (.member e part) :=
  ⟨⟨obj.printable, named⟩, by simpa [height] using obj.low, obj.inside, obj.plain, obj.scalar⟩

theorem index (obj : Writable n e) (key : Writable n f) : Writable (n + 1) (.index e f) where
  printable := ⟨obj.printable, key.printable⟩
  low := by simpa [height] using ⟨obj.low, key.low⟩
  inside := List.forall_mem_append.mpr ⟨obj.inside, key.inside⟩
  plain := by simp [Expr.deferrals, obj.plain, key.plain]
  scalar := by simp [Expr.compares, obj.scalar, key.scalar]

theorem call (args : List Expr) (func : Writable n e) (each : ∀ arg ∈ args, Writable n arg) :
    Writable (n + 1) (.call e args) := by
  -- the five facts about the arguments go by one induction, since each argument brings all of them
  have parts : Expr.PrintableList args ∧ Expr.heightOfList args ≤ n + 1 ∧
      (∀ id ∈ Expr.namesOfList args, id ∈ vocabulary) ∧
      Expr.deferralsOfList args = 0 ∧ Expr.comparesInList args = false := by
    induction args with
    | nil => exact ⟨trivial, Nat.zero_le _, nofun, rfl, rfl⟩
    | cons arg args ih =>
      obtain ⟨printable, low, inside, plain, scalar⟩ := each arg List.mem_cons_self
      obtain ⟨printableRest, lowRest, insideRest, plainRest, scalarRest⟩ := ih fun other member => each other (List.mem_cons_of_mem _ member)
      exact ⟨⟨printable, printableRest⟩, by simp only [Expr.heightOfList]; omega,
        List.forall_mem_append.mpr ⟨inside, insideRest⟩, by simp [Expr.deferralsOfList, plain, plainRest],
        by simp [Expr.comparesInList, scalar, scalarRest]⟩
  have low := func.low
  exact ⟨⟨func.printable, parts.1⟩, by simp only [height]; omega, List.forall_mem_append.mpr ⟨func.inside, parts.2.2.1⟩,
    by simp [Expr.deferrals, func.plain, parts.2.2.2.1], by simp [Expr.compares, func.scalar, parts.2.2.2.2]⟩

theorem call_name (func : String) (known : func ∈ vocabulary) (args : List Expr) (each : ∀ arg ∈ args, Writable n arg) :
    Writable (n + 1) (.callName func args) := call args (name func known) each

theorem binary (op : BinaryOp) (left : Writable n e) (right : Writable n f)
    (other : op ≠ .equal ∧ op ≠ .notEqual := by decide) : Writable (n + 1) (.binary op e f) where
  printable := ⟨left.printable, right.printable⟩
  low := by simpa [height] using ⟨left.low, right.low⟩
  inside := List.forall_mem_append.mpr ⟨left.inside, right.inside⟩
  plain := by simp [Expr.deferrals, left.plain, right.plain]
  scalar := by simp [Expr.compares, left.scalar, right.scalar, other]

theorem conditional (test : Writable n e) (consequent : Writable n f) (alternative : Writable n g) :
    Writable (n + 1) (.conditional e f g) where
  printable := ⟨test.printable, consequent.printable, alternative.printable⟩
  low := by simpa [height] using ⟨test.low, consequent.low, alternative.low⟩
  inside := List.forall_mem_append.mpr ⟨List.forall_mem_append.mpr ⟨test.inside, consequent.inside⟩, alternative.inside⟩
  plain := by simp [Expr.deferrals, test.plain, consequent.plain, alternative.plain]
  scalar := by simp [Expr.compares, test.scalar, consequent.scalar, alternative.scalar]

end Writable

section Parts

variable {n : Nat} {amount : Expr} {talent stat : String}

theorem table_ref_writable (named : isTalent talent = true) (table : String) : Writable 2 (tableRef talent table) :=
  ((Writable.name "talent" (by decide)).member talent named).index (.string table)

theorem pick_part_writable (named : isTalent talent = true) (table : String) (position : Float)
    (unsigned : IsUnsigned position) : Writable 3 (pickPart talent table position) := by
  apply Writable.call_name "pick" (by decide)
  simp [table_ref_writable named table, Writable.number position unsigned]

theorem table_part_writable (named : isTalent talent = true) (table : String) (position : Float)
    (unsigned : IsUnsigned position) : Writable 4 (tablePart talent table position) := by
  apply Writable.call_name "num" (by decide)
  simp [pick_part_writable named table position unsigned]

theorem stat_total_writable (known : stat ∈ Scaling.stats) : Writable 2 (statTotal stat) := by
  apply Writable.call_name "calc" (by decide)
  have attr : Writable 1 (.path "attr" [stat]) := (Writable.name "attr" (by decide)).member stat (stat_named stat known)
  simpa using attr

theorem share_of_writable (known : stat ∈ Scaling.stats) (enough : 1 ≤ n) (writable : Writable n amount) :
    Writable (n + 2) (shareOf stat amount) := by
  refine Writable.binary .multiply ?_ ?_
  · exact (stat_total_writable known).mono (by omega)
  · exact Writable.call_name "toRatio" (by decide) _ (by simpa using writable)

theorem is_list_writable (named : isTalent talent = true) (table : String) : Writable 3 (isList (tableRef talent table)) := by
  apply Writable.call_name "isList" (by decide)
  simpa using table_ref_writable named table

theorem damage_arguments_writable (key : String) (element : Option String) :
    ∀ arg ∈ damageArguments key element, Writable n arg := by
  intro arg member
  unfold damageArguments at member
  rcases List.mem_cons.mp member with rfl | more
  · exact .string key
  · cases element with
    | none => cases more
    | some e =>
      by_cases empty : e.isEmpty
      · simp [empty] at more
      · simp only [empty, Bool.false_eq_true, if_false, List.mem_singleton] at more
        rw [more]
        exact .string e

theorem damage_call_writable (key : String) (element : Option String) (writable : Writable n amount) :
    Writable (n + 1) (damageCall amount key element) := by
  apply Writable.call_name "dmg" (by decide)
  intro arg member
  rcases List.mem_cons.mp member with rfl | more
  · exact writable
  · exact damage_arguments_writable key element arg more

theorem basic_damage_call_writable (key : String) (element : Option String) (enough : 1 ≤ n)
    (writable : Writable n amount) : Writable (n + 1) (basicDamageCall amount key element) := by
  have func : Writable 1 (.path "dmg" ["basic"]) := (Writable.name "dmg" (by decide)).member "basic" (by decide +kernel)
  apply Writable.call _ (func.mono enough)
  intro arg member
  rcases List.mem_cons.mp member with rfl | more
  · exact writable
  · exact damage_arguments_writable key element arg more

theorem scaled_damage_writable (key : String) (element : Option String) (known : stat ∈ Scaling.stats) (enough : 1 ≤ n)
    (writable : Writable n amount) : Writable (n + 3) (scaledDamage amount stat key element) := by
  unfold scaledDamage
  split
  · exact (damage_call_writable key element writable).mono (by omega)
  · exact basic_damage_call_writable key element (by omega) (share_of_writable known enough writable)

end Parts

def lacksSign (x : Float) : Bool :=
  match Decimal.Binary.ofFloat x with
  | .finite false _ _ => true
  | _ => false

-- Being unsigned speaks of a decoding, so it is not decidable as it stands; lacksSign is, and is computed below.
theorem unsigned_of_lacks_sign (x : Float) (lacks : lacksSign x = true) : IsUnsigned x := by
  unfold lacksSign at lacks
  split at lacks
  · rename_i m e decoded
    exact ⟨m, e, decoded⟩
  · cases lacks

theorem natural_unsigned (k : Nat) (small : k ≤ 60) : IsUnsigned (Float.ofNat k) := by
  -- the multiples and positions in formulas are all among these numbers
  have each : ∀ k ≤ 60, lacksSign (Float.ofNat k) = true := by decide +kernel
  exact unsigned_of_lacks_sign _ (each k small)

theorem zero_unsigned : IsUnsigned 0 := natural_unsigned 0 (by decide)

theorem one_unsigned : IsUnsigned 1 := natural_unsigned 1 (by decide)

theorem position_unsigned (k : Nat) (small : k ≤ 10) :
    ∃ x, Decimal.ofInteger (Int.ofNat k) = .ok x ∧ IsUnsigned x := by
  have each : ∀ k ≤ 10, (Decimal.ofInteger (Int.ofNat k)).toOption.any lacksSign = true := by decide +kernel
  have one := each k small
  cases converted : Decimal.ofInteger (Int.ofNat k) with
  | error e => rw [converted] at one; cases one
  | ok x => exact ⟨x, rfl, unsigned_of_lacks_sign x (by rw [converted] at one; exact one)⟩

theorem damage_stat_known (kit : Kit) (talent table : String) (scaleStat : Option String) (stat : String)
    (told : damageStat kit talent table scaleStat = .ok stat) : stat ∈ Scaling.stats := by
  unfold damageStat at told
  split at told
  · split at told
    · rename_i own
      cases told
      simp only [Bool.and_eq_true, List.contains_iff_mem] at own
      exact own.1
    · exact Scaling.damage_stat_known kit talent table stat told
  · exact Scaling.damage_stat_known kit talent table stat told

theorem over_attack_known (stat schemaStat : String) (known : stat ∈ Scaling.stats)
    (schemaKnown : schemaStat ∈ Scaling.stats) : overAttack stat schemaStat ∈ Scaling.stats := by
  unfold overAttack
  split
  · exact schemaKnown
  · exact known

section Rows

variable {kit : Kit} {row : DamageRow} {stat : String}

theorem damage_of_part_writable (named : isTalent row.talent = true) (own : stat ∈ Scaling.stats) (position : Float)
    (unsigned : IsUnsigned position) : Writable 7 (damageOfPart row stat position) :=
  scaled_damage_writable row.key row.element own (by decide) (table_part_writable named row.table position unsigned)

theorem damage_as_writable (named : isTalent row.talent = true) (own : stat ∈ Scaling.stats)
    (schema : Option Scaling.Schema) (known : ∀ s ∈ schema, s.Known) : Writable 9 (damageAs row stat schema) := by
  have plain := damage_of_part_writable named own 0 zero_unsigned
  have listed := is_list_writable named row.table
  have first := pick_part_writable named row.table 0 zero_unsigned
  have second := pick_part_writable named row.table 1 one_unsigned
  have firstPart := table_part_writable named row.table 0 zero_unsigned
  have secondPart := table_part_writable named row.table 1 one_unsigned
  cases schema with
  | none => exact plain.mono (by decide)
  | some schema =>
    have stats := known schema rfl
    cases schema with
    | statStat one two =>
      have amount := Writable.binary .add (share_of_writable stats.1 (by decide) first)
        (share_of_writable stats.2 (by decide) second)
      have damage := basic_damage_call_writable row.key row.element (by decide) amount
      exact Writable.conditional (n := 8) (listed.mono (by decide)) (damage.mono (by decide)) (plain.mono (by decide))
    | statFlat flatStat =>
      have amount := Writable.binary .add (share_of_writable stats (by decide) first) (secondPart.mono (by decide))
      have damage := basic_damage_call_writable row.key row.element (by decide) amount
      exact Writable.conditional (n := 8) (listed.mono (by decide)) (damage.mono (by decide)) (plain.mono (by decide))
    | statTimes timesStat =>
      have scaled := over_attack_known stat timesStat own stats
      simp only [damageAs, DamageRow.scaled, DamageRow.part]
      split
      · have count := (listed.mono (by decide)).conditional secondPart (.number (Float.ofNat 1) one_unsigned)
        have amount := Writable.binary .multiply (firstPart.mono (by decide)) count
        exact scaled_damage_writable row.key row.element scaled (by decide) amount
      · exact (scaled_damage_writable row.key row.element scaled (by decide) firstPart).mono (by decide)
    | percentList listStat =>
      have scaled := over_attack_known stat listStat own stats
      have sum : Writable 3 (.callName "sum" [tableRef row.talent row.table]) :=
        Writable.call_name "sum" (by decide) _ (by simpa using table_ref_writable named row.table)
      exact (scaled_damage_writable row.key row.element scaled (by decide) sum).mono (by decide)

inductive IsTableDamage (kit : Kit) (row : DamageRow) : Expr → Prop
  | picked (stat : String) (position : Int) (x : Float) (told : row.stat kit = .ok stat) (own : row.pick = some position)
      (converted : Decimal.ofInteger position = .ok x) : IsTableDamage kit row (damageOfPart row stat x)
  | shaped (stat : String) (schema : Option Scaling.Schema) (told : row.stat kit = .ok stat) (whole : row.pick = none)
      (found : Scaling.schema kit row.talent row.table = .ok schema) : IsTableDamage kit row (damageAs row stat schema)

theorem table_damage_ok_iff (kit : Kit) (row : DamageRow) (e : Expr) :
    tableDamage kit row = .ok e ↔ IsTableDamage kit row e := by
  constructor
  · intro made
    obtain ⟨stat, told, made⟩ := lifted_ok _ _ _ _ made
    split at made
    · rename_i position own
      obtain ⟨x, converted, shape⟩ := lifted_ok _ _ _ _ made
      cases shape
      exact .picked stat position x told own converted
    · rename_i whole
      obtain ⟨schema, found, shape⟩ := bind_ok _ _ _ made
      cases shape
      exact .shaped stat schema told whole found
  · intro damage
    cases damage with
    | picked stat position x told own converted =>
      refine lift_made told ?_
      simp only [own]
      exact lift_made converted rfl
    | shaped stat schema told whole found =>
      refine lift_made told ?_
      simp only [whole]
      exact bind_made found rfl

theorem table_damage_writable (named : isTalent row.talent = true) (low : ∀ p ∈ row.pick, ∃ k ≤ 10, p = Int.ofNat k)
    (e : Expr) (made : tableDamage kit row = .ok e) : Writable 9 e := by
  cases (table_damage_ok_iff kit row e).mp made with
  | picked stat position x told own converted =>
    obtain ⟨k, small, rfl⟩ := low position own
    obtain ⟨y, same, unsigned⟩ := position_unsigned k small
    obtain rfl := Except.ok.inj (converted.symm.trans same)
    exact (damage_of_part_writable named (damage_stat_known _ _ _ _ stat told) x unsigned).mono (by decide)
  | shaped stat schema told whole found =>
    refine damage_as_writable named (damage_stat_known _ _ _ _ stat told) schema ?_
    rintro s rfl
    exact Scaling.schema_known kit row.talent row.table s found

end Rows

theorem row_pick_low (d : Detail) (low : ∀ p ∈ d.pick, p ≤ 10) : ∀ p ∈ (damageRowOf d).pick, ∃ k ≤ 10, p = Int.ofNat k := by
  intro p picked
  obtain ⟨k, own, rfl⟩ := Option.map_eq_some_iff.mp picked
  exact ⟨k, low k own, rfl⟩

theorem support_stat_known (kit : Kit) (talent table : String) (scaleStat : Option String) (stat : String)
    (told : supportStat kit talent table scaleStat = .ok stat) : stat ∈ Scaling.stats := by
  unfold supportStat at told
  split at told
  · split at told
    · rename_i own
      cases told
      exact List.contains_iff_mem.mp own
    · exact Scaling.support_stat_known kit talent table stat told
  · exact Scaling.support_stat_known kit talent table stat told

theorem support_amount_of_writable (kit : Kit) (talent table stat : String) (known : stat ∈ Scaling.stats)
    (named : isTalent talent = true) : Writable 7 (supportAmountOf kit talent table stat) := by
  unfold supportAmountOf
  cases supportPair? kit talent table with
  | some pair =>
    obtain ⟨percent, flat⟩ := pair
    have share := share_of_writable known (by decide) (table_part_writable named percent 0 zero_unsigned)
    have position : IsUnsigned (if kit.game = .gs then 1 else 0) := by
      split
      · exact one_unsigned
      · exact zero_unsigned
    exact share.binary .add ((table_part_writable named flat _ position).mono (by decide))
  | none =>
    have listed := is_list_writable named table
    have first := share_of_writable known (by decide) (pick_part_writable named table 0 zero_unsigned)
    have pair := first.binary .add ((table_part_writable named table 1 one_unsigned).mono (by decide))
    have scalar : Writable 3 (.callName "num" [tableRef talent table]) :=
      Writable.call_name "num" (by decide) _ (by simpa using table_ref_writable named table)
    have threshold : IsUnsigned (flatThreshold kit.game) := by
      cases kit.game
      · exact unsigned_of_lacks_sign 200 (by decide +kernel)
      · exact natural_unsigned 5 (by decide)
    have large := scalar.binary .greater (.number _ threshold)
    have flatOrShare := Writable.conditional (n := 5) (large.mono (by decide)) (scalar.mono (by decide))
      (share_of_writable known (by decide) scalar)
    exact Writable.conditional (n := 6) (listed.mono (by decide)) pair flatOrShare

theorem support_amount_writable (kit : Kit) (talent table : String) (scaleStat : Option String)
    (named : isTalent talent = true) (e : Expr) (made : supportAmount kit talent table scaleStat = .ok e) : Writable 7 e := by
  obtain ⟨stat, told, rfl⟩ := map_ok _ _ _ made
  exact support_amount_of_writable kit talent table stat (support_stat_known _ _ _ _ stat told) named

theorem formula_writable (kit : Kit) (d : Detail) (named : d.kind ≠ .reaction → isTalent (d.talent.getD "") = true)
    (low : ∀ p ∈ d.pick, p ≤ 10) (e : Expr) (made : ofDetail.formula kit d = .ok e) : Writable 9 e := by
  unfold ofDetail.formula at made
  have support : ∀ kind amount, d.kind ≠ .reaction →
      supportAmount kit (d.talent.getD "") (d.table.getD "") d.scaleStat = .ok amount →
      Writable 8 (supportCall kind amount) := by
    intro kind amount other told
    have amount := support_amount_writable kit (d.talent.getD "") (d.table.getD "") d.scaleStat (named other) amount told
    refine Writable.call_name _ ?_ _ (by simpa using amount)
    split <;> decide
  cases kind : d.kind with
  | reaction =>
    rw [kind] at made
    cases made
    have call : Writable 1 (reactionCall (d.reaction.getD "")) :=
      Writable.call_name "reaction" (by decide) _ (by simp [Writable.string])
    exact call.mono (by decide)
  | heal | shield =>
    rw [kind] at made
    obtain ⟨amount, told, shape⟩ := lifted_ok _ _ _ _ made
    cases shape
    exact (support _ amount (by simp [kind]) told).mono (by decide)
  | dmg =>
    rw [kind] at made
    exact table_damage_writable (named (by simp [kind])) (row_pick_low d low) e made

section Told

variable {kit : Kit}

theorem damage_stat_total (told : Scaling.Told kit) (talent table : String) (own : Option String) :
    ∃ stat, damageStat kit talent table own = .ok stat := by
  unfold damageStat
  split
  · split
    · exact ⟨_, rfl⟩
    · exact told.damage talent table
  · exact told.damage talent table

theorem table_damage_total (told : Scaling.Told kit) (row : DamageRow) (low : ∀ p ∈ row.pick, ∃ k ≤ 10, p = Int.ofNat k) :
    ∃ e, tableDamage kit row = .ok e := by
  obtain ⟨stat, known⟩ := damage_stat_total told row.talent row.table row.scaleStat
  obtain ⟨schema, shaped⟩ := told.schema row.talent row.table
  cases own : row.pick with
  | none => exact ⟨_, (table_damage_ok_iff kit row _).mpr (.shaped stat schema known own shaped)⟩
  | some position =>
    obtain ⟨k, small, rfl⟩ := low position own
    obtain ⟨x, converted, -⟩ := position_unsigned k small
    exact ⟨_, (table_damage_ok_iff kit row _).mpr (.picked stat _ x known own converted)⟩

theorem support_amount_total (told : Scaling.Told kit) (talent table : String) (own : Option String) :
    ∃ e, supportAmount kit talent table own = .ok e := by
  refine map_total _ _ ?_
  unfold supportStat
  split
  · split
    · exact ⟨_, rfl⟩
    · exact told.support talent table
  · exact told.support talent table

theorem formula_total (told : Scaling.Told kit) (d : Detail) (low : ∀ p ∈ d.pick, p ≤ 10) : ∃ e, ofDetail kit d = .ok e := by
  have formula : ∃ e, ofDetail.formula kit d = .ok e := by
    unfold ofDetail.formula
    split
    · exact ⟨_, rfl⟩
    · obtain ⟨amount, made⟩ := support_amount_total told (d.talent.getD "") (d.table.getD "") d.scaleStat
      exact ⟨_, lift_made made rfl⟩
    · obtain ⟨amount, made⟩ := support_amount_total told (d.talent.getD "") (d.table.getD "") d.scaleStat
      exact ⟨_, lift_made made rfl⟩
    · exact table_damage_total told _ (row_pick_low d low)
  unfold ofDetail
  split
  · split
    · exact formula
    · exact ⟨_, rfl⟩
  · exact formula

theorem formula_too_long (inRange : Scaling.SamplesInRange kit) (d : Detail) (low : ∀ p ∈ d.pick, p ≤ 10) :
    Fails Scaling.IsTooLong (ofDetail kit d) := by
  have formula : Fails Scaling.IsTooLong (ofDetail.formula kit d) := by
    unfold ofDetail.formula
    split
    · exact fails_ok _
    · exact fails_bind _ _ (Scaling.lifted_too_long _) fun _ _ => fails_ok _
    · exact fails_bind _ _ (Scaling.lifted_too_long _) fun _ _ => fails_ok _
    · refine fails_bind _ _ (Scaling.lifted_too_long _) fun stat _ => ?_
      split
      · rename_i position own
        obtain ⟨k, small, rfl⟩ := row_pick_low d low position own
        obtain ⟨x, converted, -⟩ := position_unsigned k small
        rw [converted]
        exact fails_ok _
      · exact fails_bind _ _ (Scaling.schema_too_long kit inRange _ _) fun _ _ => fails_ok _
  unfold ofDetail
  split
  · split
    · exact formula
    · exact fails_ok _
  · exact formula

end Told

end DamagePlan.Formula
