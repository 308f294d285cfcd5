import DamagePlan.Proofs.Script.Noninterference
import DamagePlan.Proofs.Script.Lines
import DamagePlan.Proofs.Script.Refusals

/-!
What the gate rehearses: an entry point that has come through the runtime pass may still miss a name or call a helper
with too few or too many arguments, but only where none of its runs with stand-ins has come to.
-/
set_option autoImplicit false

namespace DamagePlan.Script

section Runs

variable {α β : Type} {m : Evaluation α} {f : α → Evaluation β} {before after : Trace}

theorem bind_run_ok {b : β} (ran : (m >>= f).run before = (.ok b, after)) :
    ∃ a between, m.run before = (.ok a, between) ∧ (f a).run between = (.ok b, after) := by
  cases outcome : m.run before with
  | mk result between =>
    cases result with
    | ok a => exact ⟨a, between, rfl, (run_bind_ok m f before between a outcome).symm.trans ran⟩
    | error e =>
      rw [run_bind_error m f before between e outcome] at ran
      cases ran

theorem bind_run_error {e : Failure} (ran : (m >>= f).run before = (.error e, after)) : m.run before = (.error e, after) ∨
    ∃ a between, m.run before = (.ok a, between) ∧ (f a).run between = (.error e, after) := by
  cases outcome : m.run before with
  | mk result between =>
    cases result with
    | ok a => exact .inr ⟨a, between, rfl, (run_bind_ok m f before between a outcome).symm.trans ran⟩
    | error e' =>
      rw [run_bind_error m f before between e' outcome] at ran
      cases ran
      exact .inl rfl

end Runs

variable {engine : Engine} {scope : Scope}

theorem list_ran (first : List Expr) (e : Expr) (rest : List Expr) {before between after : Trace} {vs ws : List Value}
    (given : (evaluateList engine scope first).run before = (.ok ws, between))
    (ran : (evaluateList engine scope (first ++ e :: rest)).run before = (.ok vs, after)) :
    ∃ v later, (evaluate engine scope e).run between = (.ok v, later) := by
  induction first generalizing before after vs ws with
  | nil =>
    cases given
    obtain ⟨v, later, own, -⟩ := bind_run_ok ran
    exact ⟨v, later, own⟩
  | cons head first ih =>
    obtain ⟨v, middle, own, given⟩ := bind_run_ok given
    obtain ⟨ws, later, given, shape⟩ := bind_run_ok given
    cases shape
    obtain ⟨v', middle', own', ran⟩ := bind_run_ok ran
    obtain ⟨-, rfl⟩ := Prod.mk.inj (own.symm.trans own')
    obtain ⟨vs, later', ran, -⟩ := bind_run_ok ran
    exact ih given ran

theorem list_failed (es : List Expr) {before after : Trace} {e : Failure}
    (ran : (evaluateList engine scope es).run before = (.error e, after)) :
    ∃ first item rest vs between, es = first ++ item :: rest ∧
      (evaluateList engine scope first).run before = (.ok vs, between) ∧
      (evaluate engine scope item).run between = (.error e, after) := by
  induction es generalizing before with
  | nil => cases ran
  | cons head es ih =>
    rcases bind_run_error ran with own | ⟨v, middle, own, ran⟩
    · exact ⟨[], head, es, [], before, rfl, rfl, own⟩
    · rcases bind_run_error ran with later | ⟨vs, between, -, ran⟩
      · obtain ⟨first, item, rest, vs, between, rfl, given, failed⟩ := ih later
        refine ⟨head :: first, item, rest, v :: vs, between, rfl, ?_, failed⟩
        rw [evaluateList, run_bind_ok _ _ before middle v own, run_bind_ok _ _ middle between vs given]
        rfl
      · cases ran

theorem list_length (es : List Expr) {before after : Trace} {vs : List Value}
    (ran : (evaluateList engine scope es).run before = (.ok vs, after)) : vs.length = es.length := by
  induction es generalizing before after vs with
  | nil =>
    cases ran
    rfl
  | cons e es ih =>
    obtain ⟨v, middle, -, ran⟩ := bind_run_ok ran
    obtain ⟨ws, later, ran, shape⟩ := bind_run_ok ran
    cases shape
    rw [List.length_cons, List.length_cons, ih ran]

theorem evaluate_entries_values (entries : List (String × Expr)) :
    evaluateEntries engine scope entries = (do
      let vs ← evaluateList engine scope (entries.map (·.2))
      return (entries.map (·.1)).zip vs) := by
  induction entries with
  | nil => rfl
  | cons entry entries ih =>
    obtain ⟨key, e⟩ := entry
    simp only [evaluateEntries, evaluateList, List.map_cons, ih, bind_assoc, pure_bind, List.zip_cons_cons]

def BinaryOp.goesOn (op : BinaryOp) (v : Value) : Bool :=
  match op with
  | .and => v.isTruthy
  | .or => !v.isTruthy
  | _ => true

/-- Evaluation of a whole after some trace comes to a part of it after a later one. -/
inductive ComesTo (engine : Engine) (scope : Scope) (part : Expr) (after : Trace) : Expr → Trace → Prop
  | whole : ComesTo engine scope part after part after
  | member {obj : Expr} {name : String} {before : Trace} (inner : ComesTo engine scope part after obj before) :
      ComesTo engine scope part after (.member obj name) before
  | object {obj key : Expr} {before : Trace} (inner : ComesTo engine scope part after obj before) :
      ComesTo engine scope part after (.index obj key) before
  | key {obj key : Expr} {before between : Trace} {v : Value}
      (object : (evaluate engine scope obj).run before = (.ok v, between))
      (inner : ComesTo engine scope part after key between) : ComesTo engine scope part after (.index obj key) before
  | function {func : Expr} {args : List Expr} {before : Trace} (inner : ComesTo engine scope part after func before) :
      ComesTo engine scope part after (.call func args) before
  | argument {func arg : Expr} {first rest : List Expr} {before called between : Trace} {v : Value} {vs : List Value}
      (function : (evaluate engine scope func).run before = (.ok v, called))
      (given : (evaluateList engine scope first).run called = (.ok vs, between))
      (inner : ComesTo engine scope part after arg between) :
      ComesTo engine scope part after (.call func (first ++ arg :: rest)) before
  | operand {op : UnaryOp} {operand : Expr} {before : Trace} (inner : ComesTo engine scope part after operand before) :
      ComesTo engine scope part after (.unary op operand) before
  | left {op : BinaryOp} {left right : Expr} {before : Trace} (inner : ComesTo engine scope part after left before) :
      ComesTo engine scope part after (.binary op left right) before
  | right {op : BinaryOp} {left right : Expr} {before between : Trace} {v : Value}
      (first : (evaluate engine scope left).run before = (.ok v, between)) (on : op.goesOn v = true)
      (inner : ComesTo engine scope part after right between) : ComesTo engine scope part after (.binary op left right) before
  | test {test consequent alternative : Expr} {before : Trace} (inner : ComesTo engine scope part after test before) :
      ComesTo engine scope part after (.conditional test consequent alternative) before
  | consequent {test consequent alternative : Expr} {before between : Trace} {v : Value}
      (chosen : (evaluate engine scope test).run before = (.ok v, between)) (holds : v.isTruthy = true)
      (inner : ComesTo engine scope part after consequent between) :
      ComesTo engine scope part after (.conditional test consequent alternative) before
  | alternative {test consequent alternative : Expr} {before between : Trace} {v : Value}
      (chosen : (evaluate engine scope test).run before = (.ok v, between)) (fails : v.isTruthy = false)
      (inner : ComesTo engine scope part after alternative between) :
      ComesTo engine scope part after (.conditional test consequent alternative) before
  | item {first rest : List Expr} {item : Expr} {before between : Trace} {vs : List Value}
      (given : (evaluateList engine scope first).run before = (.ok vs, between))
      (inner : ComesTo engine scope part after item between) : ComesTo engine scope part after (.list (first ++ item :: rest)) before
  | entry {entries : List (String × Expr)} {first rest : List Expr} {value : Expr} {before between : Trace} {vs : List Value}
      (values : entries.map (·.2) = first ++ value :: rest)
      (given : (evaluateList engine scope first).run before = (.ok vs, between))
      (inner : ComesTo engine scope part after value between) : ComesTo engine scope part after (.record entries) before

theorem ComesTo.ran {part whole : Expr} {before after : Trace} (comes : ComesTo engine scope part after whole before) :
    ∀ {v : Value} {last : Trace}, (evaluate engine scope whole).run before = (.ok v, last) →
      ∃ w later, (evaluate engine scope part).run after = (.ok w, later) := by
  -- two runs of one computation after one trace are one run
  have joined : ∀ {e : Expr} {t t' t'' : Trace} {v v' : Value}, (evaluate engine scope e).run t = (.ok v, t') →
      (evaluate engine scope e).run t = (.ok v', t'') → v = v' ∧ t' = t'' := by
    intro e t t' t'' v v' one other
    obtain ⟨value, trace⟩ := Prod.mk.inj (one.symm.trans other)
    exact ⟨Except.ok.inj value, trace⟩
  induction comes with
  | whole => exact fun own => ⟨_, _, own⟩
  | member _ ih | object _ ih | function _ ih | operand _ ih | left _ ih | test _ ih =>
    intro v last ran
    obtain ⟨_, _, own, -⟩ := bind_run_ok ran
    exact ih own
  | key object _ ih =>
    intro v last ran
    obtain ⟨_, _, own, ran⟩ := bind_run_ok ran
    obtain ⟨rfl, rfl⟩ := joined object own
    obtain ⟨_, _, own, -⟩ := bind_run_ok ran
    exact ih own
  | argument function given _ ih =>
    intro v last ran
    obtain ⟨_, _, own, ran⟩ := bind_run_ok ran
    obtain ⟨rfl, rfl⟩ := joined function own
    obtain ⟨_, _, ran, -⟩ := bind_run_ok ran
    obtain ⟨_, _, own⟩ := list_ran _ _ _ given ran
    exact ih own
  | @right op _ _ _ _ _ first on _ ih =>
    intro v last ran
    simp only [evaluate] at ran
    obtain ⟨_, _, own, ran⟩ := bind_run_ok ran
    obtain ⟨rfl, rfl⟩ := joined first own
    cases op with
    | and | or =>
      simp only [BinaryOp.goesOn, Bool.not_eq_true'] at on
      simp only [on, if_true, Bool.false_eq_true, if_false] at ran
      exact ih ran
    | _ =>
      obtain ⟨_, _, own, -⟩ := bind_run_ok ran
      exact ih own
  | consequent chosen holds _ ih =>
    intro v last ran
    simp only [evaluate] at ran
    obtain ⟨_, _, own, ran⟩ := bind_run_ok ran
    obtain ⟨rfl, rfl⟩ := joined chosen own
    rw [if_pos holds] at ran
    exact ih ran
  | alternative chosen fails _ ih =>
    intro v last ran
    simp only [evaluate] at ran
    obtain ⟨_, _, own, ran⟩ := bind_run_ok ran
    obtain ⟨rfl, rfl⟩ := joined chosen own
    rw [fails, if_neg Bool.false_ne_true] at ran
    exact ih ran
  | item given _ ih =>
    intro v last ran
    obtain ⟨_, _, ran, -⟩ := bind_run_ok ran
    obtain ⟨_, _, own⟩ := list_ran _ _ _ given ran
    exact ih own
  | entry values given _ ih =>
    intro v last ran
    obtain ⟨_, _, ran, -⟩ := bind_run_ok ran
    rw [evaluate_entries_values] at ran
    obtain ⟨_, _, ran, -⟩ := bind_run_ok ran
    rw [values] at ran
    obtain ⟨_, _, own⟩ := list_ran _ _ _ given ran
    exact ih own

def Failure.isBinding : Failure → Bool
  | .undefinedName _ | .badArity _ => true
  | _ => false

theorem Failure.IsOperand.not_binding {e : Failure} (operand : e.IsOperand) : e.isBinding = false := by
  cases e <;> first | rfl | cases operand

inductive Stumbles (engine : Engine) (scope : Scope) : Expr → Trace → Failure → Prop
  | name {id : String} {after : Trace} (missing : scope.lookup id = none) :
      Stumbles engine scope (.name id) after (.undefinedName id)
  | call {func : Expr} {args : List Expr} {h : Helper} {vs : List Value} {after called given : Trace} {e : Failure}
      (function : (evaluate engine scope func).run after = (.ok (.helper h), called))
      (values : (evaluateList engine scope args).run called = (.ok vs, given))
      (failed : ((h.apply engine vs).run given).1 = .error e) : Stumbles engine scope (.call func args) after e

def Trips (engine : Engine) (scope : Scope) (e : Expr) (before : Trace) (failure : Failure) : Prop :=
  ∃ part after, ComesTo engine scope part after e before ∧ Stumbles engine scope part after failure

theorem Trips.up {inner whole : Expr} {before before' : Trace} {failure : Failure}
    (trips : Trips engine scope inner before failure)
    (inside : ∀ part after, ComesTo engine scope part after inner before → ComesTo engine scope part after whole before') :
    Trips engine scope whole before' failure := by
  obtain ⟨part, after, comes, stumbles⟩ := trips
  exact ⟨part, after, inside part after comes, stumbles⟩

theorem lift_failed {α : Type} {x : Except Failure α} {before after : Trace} {failure : Failure}
    (ran : (Evaluation.lift x).run before = (.error failure, after)) : x = .error failure := by
  cases x <;> cases ran
  rfl

theorem settle_failed {x : Except Failure Value} {before after : Trace} {failure : Failure}
    (ran : (settle x).run before = (.error failure, after)) : x = .error failure :=
  (ensures_settle (P := fun e => x = .error e) x fun _ same => same).failed before failure (by rw [ran])

theorem binary_failed (op : BinaryOp) (left right : Expr) {before after : Trace} {failure : Failure}
    (ran : (evaluate engine scope (.binary op left right)).run before = (.error failure, after)) :
    (evaluate engine scope left).run before = (.error failure, after) ∨
      ∃ v between, (evaluate engine scope left).run before = (.ok v, between) ∧
        (op.goesOn v = true ∧ (evaluate engine scope right).run between = (.error failure, after) ∨
          ∃ w, applyBinary op v w = .error failure) := by
  simp only [evaluate] at ran
  rcases bind_run_error ran with own | ⟨v, between, first, failed⟩
  · exact .inl own
  · refine .inr ⟨v, between, first, ?_⟩
    cases op with
    | and =>
      dsimp only at failed
      split at failed
      · rename_i truthy
        exact .inl ⟨truthy, failed⟩
      · cases failed
    | or =>
      dsimp only at failed
      split at failed
      · cases failed
      · rename_i falsy
        exact .inl ⟨by simpa [BinaryOp.goesOn] using falsy, failed⟩
    | _ =>
      rcases bind_run_error failed with own | ⟨w, middle, -, failed⟩
      · exact .inl ⟨rfl, own⟩
      · exact .inr ⟨w, settle_failed failed⟩

theorem argument_smaller (func : Expr) {arg : Expr} {args : List Expr} (member : arg ∈ args) :
    sizeOf arg < sizeOf (Expr.call func args) := by
  have inside := List.sizeOf_lt_of_mem member
  simp only [Expr.call.sizeOf_spec]
  omega

theorem item_smaller {item : Expr} {items : List Expr} (member : item ∈ items) :
    sizeOf item < sizeOf (Expr.list items) := by
  have inside := List.sizeOf_lt_of_mem member
  simp only [Expr.list.sizeOf_spec]
  omega

theorem value_smaller {value : Expr} {entries : List (String × Expr)} (member : value ∈ entries.map (·.2)) :
    sizeOf value < sizeOf (Expr.record entries) := by
  obtain ⟨⟨key, value⟩, among, rfl⟩ := List.mem_map.mp member
  have inside := List.sizeOf_lt_of_mem among
  simp only [Prod.mk.sizeOf_spec, Expr.record.sizeOf_spec] at inside ⊢
  omega

-- Induction on the expression. Only names and calls fail for want of a binding at their own step; all other failures of
-- that kind are those of an operand, which the run has come to.
theorem evaluate_trips (e : Expr) {before after : Trace} {failure : Failure} (binding : failure.isBinding = true)
    (ran : (evaluate engine scope e).run before = (.error failure, after)) : Trips engine scope e before failure := by
  have operandFails : ∀ {α : Type} {x : Except Failure α} {P : Prop}, Fails Failure.IsOperand x → x = .error failure → P := by
    intro α x P fails failed
    rw [(fails failure failed).not_binding] at binding
    cases binding
  cases e with
  | number _ | string _ | bool _ | null | deferred _ => cases ran
  | verbatim _ =>
    cases ran
    cases binding
  | name id =>
    simp only [evaluate] at ran
    split at ran
    · cases ran
    · rename_i missing
      cases ran
      exact ⟨_, _, .whole, .name missing⟩
  | member obj name =>
    rcases bind_run_error ran with own | ⟨v, between, -, failed⟩
    · exact (evaluate_trips obj binding own).up fun _ _ => .member
    · exact operandFails (member_of_fails v name) (lift_failed failed)
  | index obj key =>
    rcases bind_run_error ran with own | ⟨v, between, object, failed⟩
    · exact (evaluate_trips obj binding own).up fun _ _ => .object
    · rcases bind_run_error failed with own | ⟨k, between, -, failed⟩
      · exact (evaluate_trips key binding own).up fun _ _ => .key object
      · exact operandFails (index_of_fails v k) (lift_failed failed)
  | call func args =>
    rcases bind_run_error ran with own | ⟨v, called, function, failed⟩
    · exact (evaluate_trips func binding own).up fun _ _ => .function
    · rcases bind_run_error failed with own | ⟨vs, between, values, failed⟩
      · obtain ⟨first, arg, rest, ws, middle, split, given, own⟩ := list_failed args own
        have smaller := argument_smaller func (show arg ∈ args by simp [split])
        have trips := evaluate_trips arg binding own
        subst split
        exact trips.up fun _ _ => .argument function given
      · split at failed
        · exact ⟨_, _, .whole, .call function values (by rw [failed])⟩
        · cases failed
        · cases failed
          cases binding
  | unary op operand =>
    rcases bind_run_error ran with own | ⟨v, between, -, failed⟩
    · exact (evaluate_trips operand binding own).up fun _ _ => .operand
    · exact operandFails (apply_unary_fails op v) (settle_failed failed)
  | binary op left right =>
    rcases binary_failed op left right ran with own | ⟨v, between, first, ⟨on, own⟩ | ⟨w, failed⟩⟩
    · exact (evaluate_trips left binding own).up fun _ _ => .left
    · exact (evaluate_trips right binding own).up fun _ _ => .right first on
    · rcases apply_binary_fails op v w failure failed with operand | ⟨-, rfl, -⟩
      · rw [operand.not_binding] at binding
        cases binding
      · cases binding
  | conditional test consequent alternative =>
    simp only [evaluate] at ran
    rcases bind_run_error ran with own | ⟨v, between, chosen, failed⟩
    · exact (evaluate_trips test binding own).up fun _ _ => .test
    · split at failed
      · rename_i truthy
        exact (evaluate_trips consequent binding failed).up fun _ _ => .consequent chosen truthy
      · rename_i falsy
        exact (evaluate_trips alternative binding failed).up fun _ _ => .alternative chosen (by simpa using falsy)
  | list items =>
    rcases bind_run_error ran with own | ⟨vs, between, -, failed⟩
    · obtain ⟨first, item, rest, ws, middle, split, given, own⟩ := list_failed items own
      have smaller := item_smaller (show item ∈ items by simp [split])
      have trips := evaluate_trips item binding own
      subst split
      exact trips.up fun _ _ => .item given
    · cases failed
  | record entries =>
    rcases bind_run_error ran with own | ⟨vs, between, -, failed⟩
    · rw [evaluate_entries_values] at own
      rcases bind_run_error own with own | ⟨vs, between, -, failed⟩
      · obtain ⟨first, value, rest, ws, middle, split, given, own⟩ := list_failed _ own
        have smaller := value_smaller (show value ∈ entries.map (·.2) by simp [split])
        exact (evaluate_trips value binding own).up fun _ _ => .entry split given
      · cases failed
    · cases failed
termination_by sizeOf e

theorem apply_refuses (h h' : Helper) (args : List Value) (before : Trace)
    (failed : ((h.apply engine args).run before).1 = .error (.badArity h')) :
    h' = h ∧ h.isEngaged = false ∧ Helper.accepts h.arity args.length = false ∨
      h.isEngaged = true ∧ ((engine.answer h args).run before).1 = .error (.badArity h') := by
  have never : ∀ {m : Evaluation Value}, Ensures (fun _ => True) (fun e => ∀ k, e ≠ .badArity k) m →
      (m.run before).1 ≠ .error (.badArity h') := fun ensures same => ensures.failed before _ same h' rfl
  have number : ∀ {x : Except Failure Numeral}, Fails (fun e => ∀ k, e ≠ .badArity k) x →
      ((Evaluation.number x).run before).1 ≠ .error (.badArity h') := fun fails => never (ensures_number _ fails)
  have unsettled : ∀ v e, Helper.Unsettled v e → ∀ k, e ≠ .badArity k := by
    rintro v e (operand | overflow | ⟨rfl, -⟩) k same
    · exact operand.arity k same
    · rw [same] at overflow
      cases overflow
    · cases same
  unfold Helper.apply at failed
  by_cases bad : (!h.isEngaged && !Helper.accepts h.arity args.length) = true
  · rw [if_pos bad] at failed
    cases failed
    simp only [Bool.and_eq_true, Bool.not_eq_true'] at bad
    exact .inl ⟨rfl, bad⟩
  · rw [if_neg bad] at failed
    cases h with
    | num | sum => cases failed
    | isList =>
      dsimp only at failed
      split at failed <;> cases failed
    | min | max => exact absurd failed (number ((Helper.best_of_fails _ _ _).mono fun _ => Failure.IsOperand.arity))
    | pick =>
      exact absurd failed (never (ensures_lift _ (fun _ _ => trivial)
        ((Helper.pick_from_fails _ _).mono fun e fails => unsettled _ e fails.1)))
    | round => exact absurd failed (number ((Helper.round_to_fails _ _).mono (unsettled _)))
    | _ => exact .inr ⟨rfl, failed⟩

/-- The helpers that the engine of the stand-ins answers without arguments, though the interface asks for one. -/
def Helper.lenient : List Helper := [.dmg, .dmgBasic, .heal, .shield, .reaction, .calc]

/-- An engine that keeps to the interface: it reports no missing names, and of the helpers that it answers it refuses
calls for the count of their arguments only where the engine of the stand-ins does, or where that one is lenient. -/
structure Engine.Conforms (engine : Engine) : Prop where
  named : engine.Named
  refuses : ∀ h args before h', ((engine.answer h args).run before).1 = .error (.badArity h') →
    h' = h ∧ (h ∈ Helper.lenient ∧ args = [] ∨ Helper.accepts (EngineKind.zero.arity h) args.length = false)

theorem engage_accepts (kind : EngineKind) (h h' : Helper) (args : List Value) (before : Trace) :
    ((h.engage kind args).run before).1 ≠ .error (.badArity h') := by
  have plain : Ensures (fun _ => True) (fun e => ∀ k, e ≠ .badArity k) (h.engage kind args) := by
    have first : Ensures (fun _ => True) (fun e => ∀ k, e ≠ .badArity k)
        (Evaluation.lift (Helper.argument args 0).toNumber) :=
      ensures_lift _ (fun _ _ => trivial) ((to_number_fails _).mono fun _ => Failure.IsOperand.arity)
    unfold Helper.engage
    split
    · exact ensures_pure _ trivial
    · exact ensures_bind _ _ (ensures_log _) fun _ _ => ensures_pure _ trivial
    · exact ensures_bind _ _ first fun _ _ => ensures_pure _ trivial
    · exact ensures_bind _ _ first fun _ _ => ensures_bind _ _ (ensures_mark _) fun _ _ =>
        ensures_bind _ _ (ensures_log _) fun _ _ => ensures_pure _ trivial
  exact fun same => plain.failed before _ same h' rfl

theorem of_kind_refuses (kind : EngineKind) (game : Game) (h h' : Helper) (args : List Value) (before : Trace)
    (failed : (((Engine.ofKind kind game).answer h args).run before).1 = .error (.badArity h')) :
    h' = h ∧ Helper.accepts (kind.arity h) args.length = false := by
  unfold Engine.ofKind at failed
  dsimp only at failed
  split at failed
  · rename_i bad
    cases failed
    exact ⟨rfl, by simpa using bad⟩
  · have number : ∀ {x : Except Failure Numeral}, Fails Failure.IsOperand x →
        ((Evaluation.number x).run before).1 ≠ .error (.badArity h') := fun fails same =>
      (ensures_number _ fails).failed before _ same |>.arity h' rfl
    split at failed
    · exact absurd failed (number (Helper.total_fails _))
    · exact absurd failed (number (Helper.ratio_fails _ _))
    · exact absurd failed (engage_accepts kind _ h' args before)

theorem of_kind_conforms (kind : EngineKind) (game : Game) : (Engine.ofKind kind game).Conforms where
  named := of_kind_named kind game
  refuses := by
    intro h args before h' failed
    obtain ⟨own, refused⟩ := of_kind_refuses kind game h h' args before failed
    refine ⟨own, ?_⟩
    by_cases missing : kind = .recording ∧ h = .calc
    · obtain ⟨rfl, rfl⟩ := missing
      cases args with
      | nil => exact .inl ⟨by decide, rfl⟩
      | cons v vs => exact .inr (by simpa [EngineKind.arity, Helper.arity, Helper.accepts] using refused)
    · refine .inr ?_
      have same : EngineKind.zero.arity h = kind.arity h := by
        cases kind with
        | zero => rfl
        | recording => cases h <;> first | rfl | exact absurd ⟨rfl, rfl⟩ missing
      rw [same, refused]

theorem zero_apply_accepts (game : Game) (h : Helper) (args : List Value) {before after : Trace} {v : Value}
    (ran : (h.apply (.ofKind .zero game) args).run before = (.ok v, after)) :
    Helper.accepts (EngineKind.zero.arity h) args.length = true := by
  cases accepted : Helper.accepts (EngineKind.zero.arity h) args.length with
  | true => rfl
  | false =>
    have refused : h.apply (.ofKind .zero game) args = throw (.badArity h) := by
      cases h <;> simp_all [Helper.apply, Helper.isEngaged, Engine.ofKind, EngineKind.arity]
    rw [refused] at ran
    cases ran

namespace Context

def Reads (context : Context) (entry : Expr × Scope) (id : String) : Prop :=
  ∃ after, ComesTo context.engine (Scope.overlay entry.2 context.bindings) (.name id) after entry.1 { marks := context.marks }

def Calls (context : Context) (entry : Expr × Scope) (h : Helper) (count : Nat) : Prop :=
  ∃ func args after called,
    ComesTo context.engine (Scope.overlay entry.2 context.bindings) (.call func args) after entry.1 { marks := context.marks } ∧
      (evaluate context.engine (Scope.overlay entry.2 context.bindings) func).run after = (.ok (.helper h), called) ∧
      args.length = count

variable {context : Context} {entry : Expr × Scope}

theorem missing_name_read (named : context.engine.Named) (id : String)
    (failed : (context.invoke entry.1 entry.2).1 = .error (.undefinedName id)) :
    context.Reads entry id ∧ (Scope.overlay entry.2 context.bindings).lookup id = none := by
  obtain ⟨part, after, comes, stumbles⟩ := evaluate_trips entry.1 rfl (Prod.ext failed rfl)
  cases stumbles with
  | name missing => exact ⟨⟨after, comes⟩, missing⟩
  | call _ _ failed => exact absurd failed (apply_named context.engine named _ _ _ id)

theorem refused_call_made (conforms : context.engine.Conforms) (h : Helper)
    (failed : (context.invoke entry.1 entry.2).1 = .error (.badArity h)) :
    ∃ count, context.Calls entry h count ∧
      (h ∈ Helper.lenient ∧ count = 0 ∨ Helper.accepts (EngineKind.zero.arity h) count = false) := by
  obtain ⟨part, after, comes, stumbles⟩ := evaluate_trips entry.1 rfl (Prod.ext failed rfl)
  cases stumbles with
  | @call func args called vs _ _ given _ function values failed =>
    have counted := list_length args values
    rcases apply_refuses called h vs given failed with ⟨rfl, own, refused⟩ | ⟨-, failed⟩
    · have same : EngineKind.zero.arity h = h.arity := by cases h <;> first | rfl | cases own
      exact ⟨_, ⟨func, args, after, _, comes, function, rfl⟩, .inr (by rw [same, ← counted, refused])⟩
    · obtain ⟨rfl, ⟨lenient, none⟩ | refused⟩ := conforms.refuses called vs given h failed
      · subst none
        exact ⟨_, ⟨func, args, after, _, comes, function, rfl⟩, .inl ⟨lenient, counted.symm⟩⟩
      · exact ⟨_, ⟨func, args, after, _, comes, function, rfl⟩, .inr (by rw [← counted, refused])⟩

theorem read_name_bound (v : Value) (ran : (context.invoke entry.1 entry.2).1 = .ok v) (id : String)
    (reads : context.Reads entry id) : ∃ w, (Scope.overlay entry.2 context.bindings).lookup id = some w := by
  obtain ⟨after, comes⟩ := reads
  obtain ⟨w, later, own⟩ := comes.ran (Prod.ext ran rfl)
  simp only [evaluate] at own
  split at own
  · rename_i found
    exact ⟨_, found⟩
  · cases own

theorem made_call_accepted (game : Game) (bindings : Scope) (marks : Nat) (v : Value)
    (ran : (Context.invoke ⟨.ofKind .zero game, bindings, marks⟩ entry.1 entry.2).1 = .ok v) (h : Helper) (count : Nat)
    (calls : Context.Calls ⟨.ofKind .zero game, bindings, marks⟩ entry h count) :
    Helper.accepts (EngineKind.zero.arity h) count = true := by
  obtain ⟨func, args, after, called, comes, function, rfl⟩ := calls
  obtain ⟨w, later, own⟩ := comes.ran (Prod.ext ran rfl)
  obtain ⟨f, between, function', own⟩ := bind_run_ok own
  obtain ⟨same, rfl⟩ := Prod.mk.inj (function.symm.trans function')
  obtain rfl := Except.ok.inj same
  obtain ⟨vs, given, values, own⟩ := bind_run_ok own
  rw [← list_length args values]
  exact zero_apply_accepts game h vs own

end Context

namespace Gate

theorem each_ran {α : Type} (run : Nat → α → Except GateError Nat) (as : List α) (i count : Nat)
    (ran : runEach run i as = .ok count) : ∀ a ∈ as, ∃ j n, run j a = .ok n := by
  induction as generalizing i count with
  | nil => nofun
  | cons a rest ih =>
    obtain ⟨n, own, ran⟩ := bind_ok _ _ _ ran
    obtain ⟨more, ran, -⟩ := bind_ok _ _ _ ran
    intro a' member
    rcases List.mem_cons.mp member with rfl | later
    · exact ⟨i, n, own⟩
    · exact ih (i + 1) more ran a' later

def Runs (context : Context) (entry : Expr × Scope) : Prop := ∃ v, (context.invoke entry.1 entry.2).1 = .ok v

section Entries

variable (stack : Stack) {context : Context}

theorem invoke_at_ran (place : String) (entry : Expr × Scope) (v : Value) (ran : invokeAt stack context place entry = .ok v) :
    Runs context entry := by
  unfold invokeAt at ran
  split at ran
  · cases ran
  split at ran
  · rename_i v own
    exact ⟨v, own⟩
  · split at ran <;> cases ran

theorem detail_ran (i count : Nat) (d : LoadedDetail) (ran : runDetail stack context i d = .ok count) :
    ∀ entry ∈ d.entries, Runs context entry := by
  have both : (∀ entry ∈ d.check.toList, Runs context entry) ∧ Runs context d.damage := by
    unfold runDetail at ran
    dsimp only at ran
    split at ran
    · rename_i entry here
      obtain ⟨checks, checked, ran⟩ := bind_ok _ _ _ ran
      obtain ⟨v, own, -⟩ := map_ok _ _ _ checked
      obtain ⟨w, damaged, -⟩ := bind_ok _ _ _ ran
      rw [here]
      exact ⟨by simpa using invoke_at_ran stack _ _ v own, invoke_at_ran stack _ _ w damaged⟩
    · rename_i free
      obtain ⟨_, -, ran⟩ := bind_ok _ _ _ ran
      obtain ⟨w, damaged, -⟩ := bind_ok _ _ _ ran
      rw [free]
      exact ⟨nofun, invoke_at_ran stack _ _ w damaged⟩
  intro entry member
  rcases List.mem_append.mp member with check | damage
  · exact both.1 entry check
  · rw [List.mem_singleton.mp damage]
    exact both.2

theorem data_ran (place : String) (data : List (String × Value)) (count : Nat) (ran : runData stack context place data = .ok count) :
    ∀ entry ∈ LoadedBuff.closures data, Runs context entry := by
  induction data generalizing count with
  | nil => nofun
  | cons field rest ih =>
    obtain ⟨key, v⟩ := field
    intro entry member
    obtain ⟨field, among, deferred⟩ := List.mem_filterMap.mp member
    unfold runData at ran
    dsimp only at ran
    split at ran
    · obtain ⟨v, own, ran⟩ := bind_ok _ _ _ ran
      obtain ⟨_, -, ran⟩ := bind_ok _ _ _ ran
      obtain ⟨more, ran, -⟩ := bind_ok _ _ _ ran
      rcases List.mem_cons.mp among with rfl | later
      · cases deferred
        exact invoke_at_ran stack _ _ v own
      · exact ih more ran entry (List.mem_filterMap.mpr ⟨field, later, deferred⟩)
    · rename_i plain
      obtain ⟨_, -, ran⟩ := bind_ok _ _ _ ran
      rcases List.mem_cons.mp among with rfl | later
      · unfold closureOf? at deferred
        split at deferred
        · rename_i body scope shape
          exact absurd shape (plain body scope)
        · cases deferred
      · exact ih count ran entry (List.mem_filterMap.mpr ⟨field, later, deferred⟩)

theorem buff_ran (i count : Nat) (b : LoadedBuff) (ran : runBuff stack context i b = .ok count) :
    ∀ entry ∈ b.entries, Runs context entry := by
  have both : (∀ entry ∈ (closureOf? (Value.field b.fields "check")).toList, Runs context entry) ∧
      ∀ entry ∈ LoadedBuff.closures b.data, Runs context entry := by
    unfold runBuff at ran
    dsimp only at ran
    split at ran
    · rename_i entry here
      obtain ⟨checks, checked, ran⟩ := bind_ok _ _ _ ran
      obtain ⟨v, own, -⟩ := map_ok _ _ _ checked
      obtain ⟨more, filled, -⟩ := bind_ok _ _ _ ran
      rw [here]
      exact ⟨by simpa using invoke_at_ran stack _ _ v own, data_ran stack _ b.data more filled⟩
    · rename_i free
      obtain ⟨_, -, ran⟩ := bind_ok _ _ _ ran
      obtain ⟨more, filled, -⟩ := bind_ok _ _ _ ran
      rw [free]
      exact ⟨nofun, data_ran stack _ b.data more filled⟩
  intro entry member
  exact (List.mem_append.mp member).elim (both.1 entry) (both.2 entry)

end Entries

def rehearsals (loaded : LoadedScript) : List Context :=
  (contexts loaded.game).map fun context => { context with marks := loaded.marks }

theorem passed_entry_runs (stack : Stack) (text : String) (passes : validate stack text = .ok ()) :
    ∃ loaded, load stack text = .ok loaded ∧ ∀ context ∈ rehearsals loaded, ∀ entry ∈ loaded.entries, Runs context entry := by
  obtain ⟨-, -, ran⟩ := bind_ok _ _ _ passes
  obtain ⟨count, runtime, -⟩ := bind_ok _ _ _ ran
  obtain ⟨loaded, loads, ran⟩ := bind_ok _ _ _ runtime
  refine ⟨loaded, loads, fun context among entry member => ?_⟩
  obtain ⟨plain, chosen, rfl⟩ := List.mem_map.mp among
  obtain ⟨-, n, ran⟩ := each_ran _ _ 0 count ran plain chosen
  obtain ⟨details, ranDetails, ran⟩ := bind_ok _ _ _ ran
  obtain ⟨buffs, ranBuffs, -⟩ := bind_ok _ _ _ ran
  rcases List.mem_append.mp member with inside | inside
  · obtain ⟨d, here, own⟩ := List.mem_flatMap.mp inside
    obtain ⟨i, n, ran⟩ := each_ran _ _ 0 details ranDetails d here
    exact detail_ran stack i n d ran entry own
  · obtain ⟨b, here, own⟩ := List.mem_flatMap.mp inside
    obtain ⟨i, n, ran⟩ := each_ran _ _ 0 buffs ranBuffs b here
    exact buff_ran stack i n b ran entry own

theorem missing_everywhere (talent attr params : Value) (cons : Numeral) (weapon trees element currentTalent : Value)
    (game : Game) (context : Context) (among : context ∈ contexts game) (captured : Scope) (id : String)
    (missing : (Scope.overlay captured
      (Context.bindingsOf talent attr params cons weapon trees element currentTalent)).lookup id = none) :
    (Scope.overlay captured context.bindings).lookup id = none := by
  simp only [contexts, List.mem_flatMap, List.mem_map] at among
  obtain ⟨truthy, -, arrayTables, -, count, -, rfl⟩ := among
  have keys : ∀ id, (Context.bindingsOf talent attr params cons weapon trees element currentTalent).any (·.1 == id) =
      (Context.zero game truthy arrayTables ⟨count, none⟩).bindings.any (·.1 == id) := fun id => rfl
  simp only [Scope.overlay, List.lookup_append, Option.or_eq_none_iff, keys] at missing ⊢
  refine ⟨?_, missing.2⟩
  simpa [Context.bindingsOf, Context.zero] using missing.1

/-- An entry point of a script that has passed the gate misses a name only if none of its rehearsals reads that, and
makes a bad call only if none of its rehearsals makes it, or if it is a call without arguments of a helper for which the
interface asks for one. That holds whatever the data are, for every engine that keeps to the interface. -/
theorem passed_script_fails_unrehearsed (stack : Stack) (text : String) (passes : validate stack text = .ok ()) :
    ∃ loaded, load stack text = .ok loaded ∧ ∀ entry ∈ loaded.entries,
      ∀ (engine : Engine) (talent attr params : Value) (cons : Numeral) (weapon trees element currentTalent : Value)
        (marks : Nat), engine.Conforms →
      let context : Context :=
        ⟨engine, Context.bindingsOf talent attr params cons weapon trees element currentTalent, marks⟩
      (∀ id, (context.invoke entry.1 entry.2).1 = .error (.undefinedName id) →
        context.Reads entry id ∧ ∀ rehearsal ∈ rehearsals loaded, ¬rehearsal.Reads entry id) ∧
      ∀ h, (context.invoke entry.1 entry.2).1 = .error (.badArity h) →
        ∃ count, context.Calls entry h count ∧
          (h ∈ Helper.lenient ∧ count = 0 ∨ ∀ rehearsal ∈ rehearsals loaded, ¬rehearsal.Calls entry h count) := by
  obtain ⟨loaded, loads, runs⟩ := passed_entry_runs stack text passes
  refine ⟨loaded, loads, fun entry member engine talent attr params cons weapon trees element currentTalent marks conforms => ?_⟩
  refine ⟨fun id failed => ?_, fun h failed => ?_⟩
  · obtain ⟨reads, missing⟩ := Context.missing_name_read conforms.named id failed
    refine ⟨reads, fun rehearsal among rehearsed => ?_⟩
    obtain ⟨v, ran⟩ := runs rehearsal among entry member
    obtain ⟨w, found⟩ := Context.read_name_bound v ran id rehearsed
    obtain ⟨plain, chosen, rfl⟩ := List.mem_map.mp among
    rw [missing_everywhere _ _ _ _ _ _ _ _ loaded.game plain chosen entry.2 id missing] at found
    cases found
  · obtain ⟨count, calls, refused⟩ := Context.refused_call_made conforms h failed
    refine ⟨count, calls, refused.imp_right fun refused rehearsal among rehearsed => ?_⟩
    obtain ⟨v, ran⟩ := runs rehearsal among entry member
    obtain ⟨plain, chosen, rfl⟩ := List.mem_map.mp among
    simp only [contexts, List.mem_flatMap, List.mem_map] at chosen
    obtain ⟨truthy, -, arrayTables, -, count, -, rfl⟩ := chosen
    rw [Context.made_call_accepted loaded.game _ _ v ran h _ rehearsed] at refused
    cases refused

def unrehearsedScript : String := String.join [
  "game = \"gs\"\ncreatedBy = \"x\"\nmainAttr = \"atk\"\n",
  "defDmgIdx = 0\ndefDmgKey = \"e\"\nbuffs = []\ndetails = [",
  "\x7btitle: \"A\", dmg: => cons == 3 ? nope : dmg(1)\x7d,",
  "\x7btitle: \"B\", dmg: => cons == 3 ? num(1, 2) : dmg(1)\x7d,",
  "\x7btitle: \"C\", dmg: => dmg(calc())\x7d,\x7btitle: \"D\", dmg: => dmg()\x7d,",
  "\x7btitle: \"E\", dmg: => dmg.basic()\x7d,\x7btitle: \"F\", dmg: => heal()\x7d,",
  "\x7btitle: \"G\", dmg: => shield()\x7d,\x7btitle: \"H\", dmg: => reaction()\x7d]\n"]

def strictEngine (game : Game) : Engine where
  answer h args :=
    if Helper.lenient.contains h && args.isEmpty then throw (.badArity h) else (Engine.ofKind .recording game).answer h args

theorem strict_conforms (game : Game) : (strictEngine game).Conforms where
  named := by
    intro h args before id failed
    unfold strictEngine at failed
    dsimp only at failed
    split at failed
    · cases failed
    · exact of_kind_named .recording game h args before id failed
  refuses := by
    intro h args before h' failed
    unfold strictEngine at failed
    dsimp only at failed
    split at failed
    · rename_i bare
      cases failed
      simp only [Bool.and_eq_true, List.contains_iff_mem, List.isEmpty_iff] at bare
      exact ⟨rfl, .inl bare⟩
    · exact (of_kind_conforms .recording game).refuses h args before h' failed

def misstep? : Except Failure Value → Option (String ⊕ Helper)
  | .error (.undefinedName id) => some (.inl id)
  | .error (.badArity h) => some (.inr h)
  | _ => none

def missteps (engine : Engine) : Except GateError LoadedScript → List (Option (String ⊕ Helper))
  | .ok loaded => loaded.details.map fun d =>
    misstep? (Context.invoke ⟨engine, Context.bindingsOf (.record []) (.record []) (.record []) ⟨3, none⟩ (.record [])
      (.record []) (.string "") (.string ""), 0⟩ d.damage.1 d.damage.2).1
  | .error _ => []

theorem unrehearsed_script_passes : validate (.levels 0) unrehearsedScript = .ok () := by
  have passes : (validate (.levels 0) unrehearsedScript).toBool = true := by
    rw [unrehearsedScript,
      lines_validate _ (.cons rfl (.cons rfl (.cons rfl (.cons rfl (.cons rfl (.cons rfl (.cons rfl .nil)))))))]
    decide +kernel
  cases outcome : validate (.levels 0) unrehearsedScript with
  | ok _ => rfl
  | error _ =>
    rw [outcome] at passes
    cases passes

/-- The engine that logs calls inherits the resolving of a stat, and does not stand in for a missing one. -/
theorem unrehearsed_name_missing : validate (.levels 0) unrehearsedScript = .ok () ∧
    missteps (.ofKind .recording .gs) (load (.levels 0) unrehearsedScript) =
      [some (.inl "nope"), some (.inr .num), some (.inr .calc), none, none, none, none, none] ∧
    missteps (strictEngine .gs) (load (.levels 0) unrehearsedScript) =
      [some (.inl "nope"), some (.inr .num), some (.inr .calc), some (.inr .dmg), some (.inr .dmgBasic), some (.inr .heal),
        some (.inr .shield), some (.inr .reaction)] := by
  refine ⟨unrehearsed_script_passes, ?_⟩
  rw [unrehearsedScript, lines_load _ (.cons rfl (.cons rfl (.cons rfl (.cons rfl (.cons rfl (.cons rfl (.cons rfl .nil)))))))]
  decide +kernel

theorem unrehearsed_script_fails : validate (.levels 0) unrehearsedScript = .ok () ∧ (strictEngine .gs).Conforms ∧
    ∃ loaded, load (.levels 0) unrehearsedScript = .ok loaded ∧ ∀ entry ∈ loaded.entries,
      let context : Context := ⟨strictEngine .gs, Context.bindingsOf (.record []) (.record []) (.record []) ⟨3, none⟩
        (.record []) (.record []) (.string "") (.string ""), 0⟩
      (∀ id, (context.invoke entry.1 entry.2).1 = .error (.undefinedName id) →
        context.Reads entry id ∧ ∀ rehearsal ∈ rehearsals loaded, ¬rehearsal.Reads entry id) ∧
      ∀ h, (context.invoke entry.1 entry.2).1 = .error (.badArity h) → ∃ count, context.Calls entry h count ∧
        (h ∈ Helper.lenient ∧ count = 0 ∨ ∀ rehearsal ∈ rehearsals loaded, ¬rehearsal.Calls entry h count) := by
  have conforms := strict_conforms .gs
  obtain ⟨loaded, loads, each⟩ := passed_script_fails_unrehearsed (.levels 0) unrehearsedScript unrehearsed_script_passes
  exact ⟨unrehearsed_script_passes, conforms, loaded, loads, fun entry member => each entry member _ _ _ _ _ _ _ _ _ 0 conforms⟩

end Gate

end DamagePlan.Script
