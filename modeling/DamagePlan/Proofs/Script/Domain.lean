import DamagePlan.Proofs.Script.Lines
import DamagePlan.Proofs.Script.ModuleScope
import DamagePlan.Proofs.Script.Rehearsal

/-!
The domain of values: evaluation returns values of the language, unless it has come to the sum of an empty list.
-/
set_option autoImplicit false

namespace DamagePlan.Script

/-- The values of the language, however deep. The sum of an empty list is none of them. -/
inductive Proper : Value → Prop
  | null : Proper .null
  | bool (b : Bool) : Proper (.bool b)
  | number (x : Numeral) : Proper (.number x)
  | string (s : String) : Proper (.string s)
  | list {items : List Value} (each : ∀ v ∈ items, Proper v) : Proper (.list items)
  | record {fields : List (String × Value)} (each : ∀ field ∈ fields, Proper field.2) : Proper (.record fields)
  | closure {body : Expr} {scope : Scope} (each : ∀ binding ∈ scope, Proper binding.2) : Proper (.closure body scope)
  | helper (h : Helper) : Proper (.helper h)
  | standIn (s : StandIn) : Proper (.standIn s)

def ProperScope (scope : Scope) : Prop := ∀ binding ∈ scope, Proper binding.2

theorem Homemade.proper {v : Value} (own : Homemade v) : Proper v := by
  induction own with
  | null => exact .null
  | bool b => exact .bool b
  | number x => exact .number x
  | string s => exact .string s
  | list _ ih => exact .list ih
  | record _ ih => exact .record ih
  | closure _ ih => exact .closure ih

theorem proper_field {fields : List (String × Value)} (each : ∀ field ∈ fields, Proper field.2) (name : String) :
    Proper (Value.field fields name) := by
  unfold Value.field
  cases found : fields.lookup name with
  | none => exact .null
  | some v => exact each _ (Fields.found_entry fields name v found)

theorem proper_element {items : List Value} (each : ∀ v ∈ items, Proper v) (i : Nat) :
    Proper ((items[i]?).getD .null) := by
  cases found : items[i]? with
  | none => exact .null
  | some v => exact each v (List.mem_of_getElem? found)

theorem member_of_proper (obj : Value) (name : String) (v : Value) (own : Proper obj) (made : memberOf obj name = .ok v) :
    Proper v := by
  cases own with
  | standIn s =>
    cases made
    exact .standIn _
  | record each =>
    cases made
    exact proper_field each name
  | helper h =>
    simp only [memberOf] at made
    split at made <;> cases made
    exact .helper _
  | null | bool _ | number _ | closure _ => cases made
  | string s =>
    simp only [memberOf] at made
    split at made <;> cases made
    exact .number _
  | list each =>
    simp only [memberOf] at made
    split at made <;> cases made
    exact .number _

theorem stand_in_index_proper (s : StandIn) (key : Value) : Proper (s.index key) := by
  unfold StandIn.index
  dsimp only
  split
  · split
    · refine .list fun v member => ?_
      simp only [List.mem_cons, List.not_mem_nil, or_false, or_self] at member
      rw [member]
      exact .standIn _
    · exact .standIn _
  · exact .standIn _

theorem index_of_proper (obj key v : Value) (own : Proper obj) (made : indexOf obj key = .ok v) : Proper v := by
  cases own with
  | null | bool _ | number _ | closure _ | helper _ => cases made
  | standIn s =>
    cases made
    exact stand_in_index_proper s key
  | record each =>
    simp only [indexOf] at made
    split at made <;> cases made
    exact proper_field each _
  | list each =>
    obtain ⟨x, -, made⟩ := bind_ok _ _ _ made
    split at made <;> cases made
    · exact proper_element each _
    · exact .null
  | string s => exact (index_of_homemade _ key v (.string s) made).proper

theorem apply_binary_proper (op : BinaryOp) (left right v : Value) (own : Proper left) (own' : Proper right)
    (made : applyBinary op left right = .ok v) : Proper v := by
  rcases apply_binary_made op left right v made with rfl | rfl | homemade
  · exact own
  · exact own'
  · exact homemade.proper

theorem settle_proper (v : Except Failure Value) (made : ∀ w, v = .ok w → Proper w) :
    Ensures Proper (fun _ => True) (settle v) := by
  refine ensures_bind _ _ (ensures_lift v made fun _ _ => trivial) fun w own => ?_
  split
  · exact ensures_bind _ _ (ensures_mark _) fun _ _ => ensures_pure _ (.number _)
  · exact ensures_pure _ own

theorem number_proper (x : Except Failure Numeral) : Ensures Proper (fun _ => True) (Evaluation.number x) :=
  ensures_bind _ _ (ensures_lift (Q := fun _ => True) x (fun _ _ => trivial) fun _ _ => trivial) fun x _ =>
    ensures_bind _ _ (ensures_mark x) fun _ _ => ensures_pure _ (.number _)

namespace Helper

theorem argument_proper (args : List Value) (given : ∀ v ∈ args, Proper v) (i : Nat) : Proper (argument args i) :=
  proper_element given i

theorem damage_record_proper (x : Numeral) : Proper (damageRecord x) := by
  refine .record fun field member => ?_
  simp only [List.mem_cons, List.not_mem_nil, or_false] at member
  rcases member with rfl | rfl <;> exact .number _

theorem pick_from_proper (v position picked : Value) (own : Proper v) (made : pickFrom v position = .ok picked) :
    Proper picked := by
  unfold pickFrom at made
  split at made
  · rename_i items
    obtain ⟨x, -, made⟩ := bind_ok _ _ _ made
    obtain ⟨i, -, made⟩ := bind_ok _ _ _ made
    cases own with
    | list each =>
      split at made <;> cases made
      · exact proper_element each _
      · exact .null
  · cases made
    exact own

theorem sum_of_proper (v : Value) (some_ : v ≠ .list []) : Proper (sumOf v) := by
  unfold sumOf
  split
  · exact absurd rfl some_
  · exact .number _
  · exact .number _

end Helper

theorem of_kind_proper (kind : EngineKind) (game : Game) (h : Helper) (args : List Value) :
    Ensures Proper (fun _ => True) ((Engine.ofKind kind game).answer h args) := by
  have amount : Ensures (fun _ => True) (fun _ => True) (Evaluation.lift (Helper.argument args 0).toNumber) :=
    ensures_lift _ (fun _ _ => trivial) fun _ _ => trivial
  unfold Engine.ofKind
  dsimp only
  split
  · exact ensures_throw _ trivial
  · split
    · exact number_proper _
    · exact number_proper _
    · unfold Helper.engage
      split
      · exact ensures_pure _ (Helper.damage_record_proper _)
      · exact ensures_bind _ _ (ensures_log _) fun _ _ => ensures_pure _ (Helper.damage_record_proper _)
      · exact ensures_bind _ _ amount fun _ _ => ensures_pure _ (Helper.damage_record_proper _)
      · exact ensures_bind _ _ amount fun _ _ => ensures_bind _ _ (ensures_mark _) fun _ _ =>
          ensures_bind _ _ (ensures_log _) fun _ _ => ensures_pure _ (Helper.damage_record_proper _)

def Engine.AnswersProperly (engine : Engine) : Prop :=
  ∀ h args, Ensures Proper (fun _ => True) (engine.answer h args)

theorem apply_proper (engine : Engine) (answers : engine.AnswersProperly) (h : Helper) (args : List Value)
    (given : ∀ v ∈ args, Proper v) (some_ : ¬(h = .sum ∧ args = [.list []])) :
    Ensures Proper (fun _ => True) (h.apply engine args) := by
  have first := Helper.argument_proper args given 0
  unfold Helper.apply
  by_cases bad : (!h.isEngaged && !Helper.accepts h.arity args.length) = true
  · rw [if_pos bad]
    exact ensures_throw _ trivial
  rw [if_neg bad]
  cases h with
  | num => exact ensures_pure _ (.number _)
  | isList => dsimp only; split <;> exact ensures_pure _ (.bool _)
  | min | max | round => exact number_proper _
  | pick => exact ensures_lift _ (fun v made => Helper.pick_from_proper _ _ v first made) fun _ _ => trivial
  | sum =>
    refine ensures_pure _ (Helper.sum_of_proper _ fun none => some_ ⟨rfl, ?_⟩)
    -- a sum takes one argument, so that the empty list is all it was given
    have one : Helper.accepts (1, some 1) args.length = true := by simpa [Helper.isEngaged, Helper.arity] using bad
    cases args with
    | nil => cases one
    | cons v args =>
      cases args with
      | nil => exact congrArg (fun v => [v]) none
      | cons w args => simp [Helper.accepts] at one
  | _ => exact answers _ args

def SumsNothing (engine : Engine) (scope : Scope) (whole : Expr) (before : Trace) : Prop :=
  ∃ func args after called given, ComesTo engine scope (.call func args) after whole before ∧
    (evaluate engine scope func).run after = (.ok (.helper .sum), called) ∧
    (evaluateList engine scope args).run called = (.ok [.list []], given)

section Evaluations

variable {engine : Engine} {scope : Scope}

theorem SumsNothing.up {inner whole : Expr} {before before' : Trace} (sums : SumsNothing engine scope inner before)
    (inside : ∀ part after, ComesTo engine scope part after inner before → ComesTo engine scope part after whole before') :
    SumsNothing engine scope whole before' := by
  obtain ⟨func, args, after, called, given, comes, function, values⟩ := sums
  exact ⟨func, args, after, called, given, inside _ _ comes, function, values⟩

theorem Ensures.ran {α : Type} {Q : α → Prop} {P : Failure → Prop} {m : Evaluation α} (ensures : Ensures Q P m)
    {before after : Trace} {a : α} (ran : m.run before = (.ok a, after)) : Q a :=
  ensures.returned a ⟨before, by rw [ran]⟩

theorem lift_ran {α : Type} {x : Except Failure α} {before after : Trace} {a : α}
    (ran : (Evaluation.lift x).run before = (.ok a, after)) : x = .ok a := by
  cases x <;> cases ran
  rfl

def StaysProper (engine : Engine) (scope : Scope) (e : Expr) : Prop :=
  ∀ ⦃before after : Trace⦄ ⦃v : Value⦄, (evaluate engine scope e).run before = (.ok v, after) →
    Proper v ∨ SumsNothing engine scope e before

theorem list_stays_proper (es : List Expr) (each : ∀ e ∈ es, StaysProper engine scope e) {before after : Trace}
    {vs : List Value} (ran : (evaluateList engine scope es).run before = (.ok vs, after)) : (∀ v ∈ vs, Proper v) ∨
      ∃ first item rest ws between, es = first ++ item :: rest ∧
        (evaluateList engine scope first).run before = (.ok ws, between) ∧ SumsNothing engine scope item between := by
  induction es generalizing before vs with
  | nil =>
    cases ran
    exact .inl (List.forall_mem_nil _)
  | cons e es ih =>
    obtain ⟨v, middle, own, ran⟩ := bind_run_ok ran
    obtain ⟨ws, later, ran, shape⟩ := bind_run_ok ran
    cases shape
    rcases each e List.mem_cons_self own with proper | sums
    · rcases ih (fun other member => each other (List.mem_cons_of_mem _ member)) ran with
        proper' | ⟨first, item, rest, us, between, rfl, given, sums⟩
      · exact .inl (List.forall_mem_cons.mpr ⟨proper, proper'⟩)
      · refine .inr ⟨e :: first, item, rest, v :: us, between, rfl, ?_, sums⟩
        rw [evaluateList, run_bind_ok _ _ before middle v own, run_bind_ok _ _ middle between us given]
        rfl
    · exact .inr ⟨[], e, es, [], before, rfl, rfl, sums⟩

theorem binary_ran (op : BinaryOp) (left right : Expr) {before after : Trace} {v : Value}
    (ran : (evaluate engine scope (.binary op left right)).run before = (.ok v, after)) :
    ∃ w between, (evaluate engine scope left).run before = (.ok w, between) ∧
      (v = w ∨ op.goesOn w = true ∧ ((evaluate engine scope right).run between = (.ok v, after) ∨
        ∃ u middle, (evaluate engine scope right).run between = (.ok u, middle) ∧
          (settle (applyBinary op w u)).run middle = (.ok v, after))) := by
  simp only [evaluate] at ran
  obtain ⟨w, between, first, ran⟩ := bind_run_ok ran
  refine ⟨w, between, first, ?_⟩
  cases op with
  | and =>
    dsimp only at ran
    split at ran
    · rename_i truthy
      exact .inr ⟨truthy, .inl ran⟩
    · cases ran
      exact .inl rfl
  | or =>
    dsimp only at ran
    split at ran
    · cases ran
      exact .inl rfl
    · rename_i falsy
      exact .inr ⟨by simpa [BinaryOp.goesOn] using falsy, .inl ran⟩
  | _ =>
    obtain ⟨u, middle, second, settled⟩ := bind_run_ok ran
    exact .inr ⟨rfl, .inr ⟨u, middle, second, settled⟩⟩

-- Induction on the expression. Every step but a call of sum makes proper values of proper ones, and where an operand has
-- summed nothing, the whole has come to that.
theorem evaluate_stays_proper (answers : engine.AnswersProperly) (own : ProperScope scope) (e : Expr)
    {before after : Trace} {v : Value} (ran : (evaluate engine scope e).run before = (.ok v, after)) :
    Proper v ∨ SumsNothing engine scope e before := by
  cases e with
  | number x =>
    cases ran
    exact .inl (.number _)
  | string s =>
    cases ran
    exact .inl (.string s)
  | bool b =>
    cases ran
    exact .inl (.bool b)
  | null =>
    cases ran
    exact .inl .null
  | deferred body =>
    cases ran
    exact .inl (.closure own)
  | verbatim _ => cases ran
  | name id =>
    simp only [evaluate] at ran
    split at ran
    · rename_i found
      cases ran
      exact .inl (own _ (Fields.found_entry scope id _ found))
    · cases ran
  | member obj name =>
    obtain ⟨w, between, object, ran⟩ := bind_run_ok ran
    exact (evaluate_stays_proper answers own obj object).imp (fun proper => member_of_proper w name _ proper (lift_ran ran))
      fun sums => sums.up fun _ _ => .member
  | index obj key =>
    obtain ⟨w, between, object, ran⟩ := bind_run_ok ran
    obtain ⟨k, later, place, ran⟩ := bind_run_ok ran
    exact (evaluate_stays_proper answers own obj object).imp (fun proper => index_of_proper w k v proper (lift_ran ran))
      fun sums => sums.up fun _ _ => .object
  | call func args =>
    obtain ⟨f, called, function, ran⟩ := bind_run_ok ran
    obtain ⟨vs, given, values, ran⟩ := bind_run_ok ran
    have each : ∀ arg ∈ args, StaysProper engine scope arg := fun arg member _ _ _ ran =>
      have smaller := argument_smaller func member
      evaluate_stays_proper answers own arg ran
    rcases list_stays_proper args each values with proper | ⟨first, arg, rest, ws, between, split, taken, sums⟩
    · split at ran
      · rename_i h _
        by_cases nothing : h = .sum ∧ vs = [.list []]
        · obtain ⟨rfl, rfl⟩ := nothing
          exact .inr ⟨func, args, before, called, given, .whole, function, values⟩
        · exact .inl ((apply_proper engine answers h vs proper nothing).ran ran)
      · cases ran
        exact .inl (.standIn _)
      · cases ran
    · subst split
      exact .inr (sums.up fun _ _ => .argument function taken)
  | unary op operand =>
    obtain ⟨w, between, -, ran⟩ := bind_run_ok ran
    exact .inl ((settle_proper _ fun u made => (apply_unary_homemade op w u made).proper).ran ran)
  | binary op left right =>
    obtain ⟨w, between, first, returned⟩ := binary_ran op left right ran
    rcases evaluate_stays_proper answers own left first with proper | sums
    · rcases returned with rfl | ⟨on, second | ⟨u, middle, second, settled⟩⟩
      · exact .inl proper
      · exact (evaluate_stays_proper answers own right second).imp_right fun sums => sums.up fun _ _ => .right first on
      · rcases evaluate_stays_proper answers own right second with proper' | sums
        · exact .inl ((settle_proper _ fun x made => apply_binary_proper op w u x proper proper' made).ran settled)
        · exact .inr (sums.up fun _ _ => .right first on)
    · exact .inr (sums.up fun _ _ => .left)
  | conditional test consequent alternative =>
    simp only [evaluate] at ran
    obtain ⟨w, between, chosen, ran⟩ := bind_run_ok ran
    split at ran
    · rename_i truthy
      exact (evaluate_stays_proper answers own consequent ran).imp_right fun sums =>
        sums.up fun _ _ => .consequent chosen truthy
    · rename_i falsy
      exact (evaluate_stays_proper answers own alternative ran).imp_right fun sums =>
        sums.up fun _ _ => .alternative chosen (by simpa using falsy)
  | list items =>
    obtain ⟨vs, between, values, shape⟩ := bind_run_ok ran
    cases shape
    have each : ∀ item ∈ items, StaysProper engine scope item := fun item member _ _ _ ran =>
      have smaller := item_smaller member
      evaluate_stays_proper answers own item ran
    rcases list_stays_proper items each values with proper | ⟨first, item, rest, ws, between, split, taken, sums⟩
    · exact .inl (.list proper)
    · subst split
      exact .inr (sums.up fun _ _ => .item taken)
  | record entries =>
    have smaller : ∀ value, sizeOf value < sizeOf (Expr.record entries) → StaysProper engine scope value :=
      fun value _ _ _ _ ran => evaluate_stays_proper answers own value ran
    have each := fun value member => smaller value (value_smaller member)
    obtain ⟨fields, between, values, shape⟩ := bind_run_ok ran
    cases shape
    rw [evaluate_entries_values] at values
    obtain ⟨vs, between, values, shape⟩ := bind_run_ok values
    cases shape
    rcases list_stays_proper _ each values with proper | ⟨first, value, rest, ws, between, split, taken, sums⟩
    · exact .inl (.record fun field member => proper _ (List.of_mem_zip member).2)
    · exact .inr (sums.up fun _ _ => .entry split taken)
termination_by sizeOf e

end Evaluations

def totalOf (items : List Value) : Float := items.foldl (fun total v => total + Helper.finiteNumber v) 0

theorem sum_accepted_iff (place : String) (items : List Value) :
    Gate.checkNumber place (Helper.sumOf (.list items)) = .ok () ↔ items ≠ [] ∧ Decimal.isFinite (totalOf items) = true := by
  cases items with
  | nil => exact ⟨nofun, fun ⟨some_, _⟩ => absurd rfl some_⟩
  | cons v items =>
    have number : Helper.sumOf (.list (v :: items)) = .number ⟨totalOf (v :: items), none⟩ := rfl
    rw [number]
    simp only [Gate.checkNumber, Gate.isFiniteNumber]
    by_cases finite : Decimal.isFinite (totalOf (v :: items)) = true <;> simp [finite]

theorem sum_runs {engine : Engine} {scope : Scope} {func : Expr} {args : List Expr} {before called given : Trace} {v : Value}
    (function : (evaluate engine scope func).run before = (.ok (.helper .sum), called))
    (values : (evaluateList engine scope args).run called = (.ok [v], given)) :
    (evaluate engine scope (.call func args)).run before = (.ok (Helper.sumOf v), given) := by
  rw [evaluate, run_bind_ok _ _ before called _ function, run_bind_ok _ _ called given _ values]
  rfl

theorem evaluation_stays_in_domain (kind : EngineKind) (game : Game) (scope : Scope) (own : ProperScope scope) (e : Expr)
    (before : Trace) :
    (∀ v after, (evaluate (.ofKind kind game) scope e).run before = (.ok v, after) →
      Proper v ∨ SumsNothing (.ofKind kind game) scope e before) ∧
    ∀ func args called given items, e = .call func args →
      (evaluate (.ofKind kind game) scope func).run before = (.ok (.helper .sum), called) →
      (evaluateList (.ofKind kind game) scope args).run called = (.ok [.list items], given) →
        ∃ v, (evaluate (.ofKind kind game) scope e).run before = (.ok v, given) ∧
          ∀ place, Gate.checkNumber place v = .ok () ↔ items ≠ [] ∧ Decimal.isFinite (totalOf items) = true := by
  constructor
  · intro v after ran
    exact evaluate_stays_proper (of_kind_proper kind game) own e ran
  · rintro func args called given items rfl function values
    exact ⟨_, sum_runs function values, fun place => sum_accepted_iff place items⟩

def emptySumScript : String := String.join [
  "game = \"gs\"\ncreatedBy = \"x\"\nmainAttr = \"atk\"\ndefDmgIdx = 0\ndefDmgKey = \"e\"\n",
  "buffs = [\x7btitle: \"B\", data: \x7bdmg: => sum([])\x7d\x7d]\n",
  "details = [\x7btitle: \"Hit\", dmg: => dmg(1)\x7d]\n"]

def zeroBindings : Scope := (Context.zero .gs false false .zero).bindings

theorem zero_bindings_proper : ProperScope zeroBindings := by
  intro binding member
  simp only [zeroBindings, Context.zero, Context.bindingsOf, List.mem_cons, List.not_mem_nil, or_false] at member
  casesm* _ ∨ _ <;> subst binding <;> first | exact .helper _ | exact .standIn _ | exact .number _ | exact .string _

def refusedAtRuntime : Except GateError Unit → Bool
  | .error (.runtime _ _) => true
  | _ => false

theorem empty_sum_leaves_domain : ProperScope zeroBindings ∧
    (∃ v after, (evaluate (.ofKind .zero .gs) zeroBindings (.call (.name "sum") [.list []])).run = (.ok v, after) ∧ ¬Proper v) ∧
    ∃ place reason, Gate.validate (.levels 0) emptySumScript = .error (.runtime place reason) := by
  refine ⟨zero_bindings_proper, ⟨.emptySum, {}, rfl, nofun⟩, ?_⟩
  have refused : refusedAtRuntime (Gate.validate (.levels 0) emptySumScript) = true := by
    rw [emptySumScript, Gate.lines_validate _ (.cons rfl (.cons rfl (.cons rfl .nil)))]
    decide +kernel
  cases outcome : Gate.validate (.levels 0) emptySumScript with
  | ok _ =>
    rw [outcome] at refused
    cases refused
  | error e =>
    rw [outcome] at refused
    cases e with
    | runtime place reason => exact ⟨place, reason, rfl⟩
    | static _ | uncaught _ | overrun _ => cases refused

theorem full_sum_accepted : ProperScope zeroBindings ∧ ∃ v after,
    (evaluate (.ofKind .zero .gs) zeroBindings (.call (.name "sum") [.list [.number 1, .number 2]])).run = (.ok v, after) ∧
      (Proper v ∨ SumsNothing (.ofKind .zero .gs) zeroBindings (.call (.name "sum") [.list [.number 1, .number 2]]) {}) ∧
      Gate.checkNumber "dmg" v = .ok () := by
  obtain ⟨returns, sums⟩ := evaluation_stays_in_domain .zero .gs zeroBindings zero_bindings_proper
    (.call (.name "sum") [.list [.number 1, .number 2]]) {}
  obtain ⟨v, ran, accepted⟩ := sums _ _ _ _ _ rfl rfl rfl
  exact ⟨zero_bindings_proper, v, _, ran, returns v _ ran, (accepted "dmg").mpr ⟨nofun, by decide +kernel⟩⟩

end DamagePlan.Script
