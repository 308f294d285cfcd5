import DamagePlan.Proofs.Script.Deferral
import DamagePlan.Proofs.Script.Failing

/-!
What an expression reads: its value, its failure and its calls of the engine depend on the names in it alone,
and where all of those are bound no name is missing.
-/
set_option autoImplicit false

namespace DamagePlan.Script

def Agree (names : List String) (scope scope' : Scope) : Prop := ∀ name ∈ names, scope.lookup name = scope'.lookup name

section Agree

variable {names names' : List String} {scope scope' : Scope}

theorem Agree.left (agree : Agree (names ++ names') scope scope') : Agree names scope scope' :=
  fun name member => agree name (List.mem_append_left _ member)

theorem Agree.right (agree : Agree (names ++ names') scope scope') : Agree names' scope scope' :=
  fun name member => agree name (List.mem_append_right _ member)

end Agree

-- Induction on the expression, together with its lists and entries. A deferred body would keep the scope for later;
-- there is none, and that hypothesis is passed down with the names.
mutual
theorem evaluate_agrees (engine : Engine) (scope scope' : Scope) (e : Expr) (plain : e.deferrals = 0)
    (agree : Agree e.names scope scope') : evaluate engine scope e = evaluate engine scope' e := by
  cases e with
  | number _ | string _ | bool _ | null | verbatim _ => rfl
  | name id =>
    have same := agree id List.mem_cons_self
    simp only [evaluate, same]
  | member obj name =>
    have same := evaluate_agrees engine scope scope' obj plain agree
    simp only [evaluate, same]
  | index obj key =>
    simp only [Expr.deferrals, Nat.add_eq_zero_iff] at plain
    have same := evaluate_agrees engine scope scope' obj plain.1 agree.left
    have same' := evaluate_agrees engine scope scope' key plain.2 agree.right
    simp only [evaluate, same, same']
  | call func args =>
    simp only [Expr.deferrals, Nat.add_eq_zero_iff] at plain
    have same := evaluate_agrees engine scope scope' func plain.1 agree.left
    have same' := evaluate_list_agrees engine scope scope' args plain.2 agree.right
    simp only [evaluate, same, same']
  | unary op operand =>
    have same := evaluate_agrees engine scope scope' operand plain agree
    simp only [evaluate, same]
  | binary op left right =>
    simp only [Expr.deferrals, Nat.add_eq_zero_iff] at plain
    have same := evaluate_agrees engine scope scope' left plain.1 agree.left
    have same' := evaluate_agrees engine scope scope' right plain.2 agree.right
    simp only [evaluate, same, same']
  | conditional test consequent alternative =>
    simp only [Expr.deferrals, Nat.add_eq_zero_iff] at plain
    have same := evaluate_agrees engine scope scope' test plain.1.1 agree.left.left
    have same' := evaluate_agrees engine scope scope' consequent plain.1.2 agree.left.right
    have same'' := evaluate_agrees engine scope scope' alternative plain.2 agree.right
    simp only [evaluate, same, same', same'']
  | list items =>
    have same := evaluate_list_agrees engine scope scope' items plain agree
    simp only [evaluate, same]
  | record entries =>
    have same := evaluate_entries_agrees engine scope scope' entries plain agree
    simp only [evaluate, same]
  | deferred body => cases plain

theorem evaluate_list_agrees (engine : Engine) (scope scope' : Scope) (es : List Expr)
    (plain : Expr.deferralsOfList es = 0) (agree : Agree (Expr.namesOfList es) scope scope') :
    evaluateList engine scope es = evaluateList engine scope' es := by
  cases es with
  | nil => rfl
  | cons e es =>
    simp only [Expr.deferralsOfList, Nat.add_eq_zero_iff] at plain
    have same := evaluate_agrees engine scope scope' e plain.1 agree.left
    have same' := evaluate_list_agrees engine scope scope' es plain.2 agree.right
    simp only [evaluateList, same, same']

theorem evaluate_entries_agrees (engine : Engine) (scope scope' : Scope) (entries : List (String × Expr))
    (plain : Expr.deferralsOfEntries entries = 0) (agree : Agree (Expr.namesOfEntries entries) scope scope') :
    evaluateEntries engine scope entries = evaluateEntries engine scope' entries := by
  cases entries with
  | nil => rfl
  | cons entry rest =>
    obtain ⟨key, e⟩ := entry
    simp only [Expr.deferralsOfEntries, Nat.add_eq_zero_iff] at plain
    have same := evaluate_agrees engine scope scope' e plain.1 agree.left
    have same' := evaluate_entries_agrees engine scope scope' rest plain.2 agree.right
    simp only [evaluateEntries, same, same']
end

def Known {α : Type} (x : Except Failure α) : Prop := ∀ id, x ≠ .error (.undefinedName id)

def Named {α : Type} (m : Evaluation α) : Prop := ∀ before, Known (m.run before).1

/-- An engine that does not report missing names of its own. -/
def Engine.Named (engine : Engine) : Prop := ∀ h args, Script.Named (engine.answer h args)

theorem of_kind_named (kind : EngineKind) (game : Game) : (Engine.ofKind kind game).Named :=
  fun h args before id same => ((of_kind_plain kind game h args).failed before _ same).named id rfl

def Bound (names : List String) (scope : Scope) : Prop := ∀ name ∈ names, ∃ v, scope.lookup name = some v

theorem names_of_list_mem (es : List Expr) (e : Expr) (among : e ∈ es) (name : String) (member : name ∈ e.names) :
    name ∈ Expr.namesOfList es := by
  induction es with
  | nil => cases among
  | cons first rest ih =>
    rcases List.mem_cons.mp among with rfl | later
    · exact List.mem_append_left _ member
    · exact List.mem_append_right _ (ih later)

theorem names_of_entries_mem (entries : List (String × Expr)) (entry : String × Expr) (among : entry ∈ entries)
    (name : String) (member : name ∈ entry.2.names) : name ∈ Expr.namesOfEntries entries := by
  induction entries with
  | nil => cases among
  | cons first rest ih =>
    rcases List.mem_cons.mp among with rfl | later
    · exact List.mem_append_left _ member
    · exact List.mem_append_right _ (ih later)

theorem Expr.Within.names {part whole : Expr} (within : Expr.Within part whole) (name : String)
    (member : name ∈ part.names) : name ∈ whole.names := by
  induction within with
  | whole => exact member
  | member _ _ ih | operand _ ih => exact ih
  | object _ ih | function _ ih | left _ ih => exact List.mem_append_left _ ih
  | key _ ih | right _ ih | alternative _ ih => exact List.mem_append_right _ ih
  | test _ ih => exact List.mem_append_left _ (List.mem_append_left _ ih)
  | consequent _ ih => exact List.mem_append_left _ (List.mem_append_right _ ih)
  | argument among _ ih => exact List.mem_append_right _ (names_of_list_mem _ _ among name ih)
  | item among _ ih => exact names_of_list_mem _ _ among name ih
  | entry among _ ih => exact names_of_entries_mem _ _ among name ih

theorem apply_named (engine : Engine) (own : engine.Named) (h : Helper) (args : List Value) (before : Trace) (id : String) :
    ((h.apply engine args).run before).1 ≠ .error (.undefinedName id) := by
  intro failed
  have answers : ∀ h args, Ensures (fun _ => True) (fun e => ∀ id, e ≠ .undefinedName id) (engine.answer h args) :=
    fun h args => ⟨fun _ _ => trivial, fun before e failed id same => own h args before id (same ▸ failed)⟩
  rcases (apply_ensures engine _ answers h args).failed before _ failed with other | plain | overflow | ⟨undefined, _⟩
  · exact absurd rfl (other id)
  · exact absurd rfl (plain.named id)
  · cases overflow
  · cases undefined

theorem falters_named (engine : Engine) (own : engine.Named) (scope : Scope) (part : Expr) (id : String)
    (falters : Falters engine scope part (.undefinedName id)) : part = .name id ∧ scope.lookup id = none := by
  cases falters with
  | name missing => exact ⟨rfl, missing⟩
  | member _ failed => exact absurd rfl ((member_of_fails _ _ _ failed).plain.named id)
  | index _ _ failed => exact absurd rfl ((index_of_fails _ _ _ failed).plain.named id)
  | unary _ failed => exact absurd rfl ((apply_unary_fails _ _ _ failed).plain.named id)
  | binary _ _ failed =>
    rcases apply_binary_fails _ _ _ _ failed with operand | ⟨_, undefined, _⟩
    · exact absurd rfl (operand.plain.named id)
    · cases undefined
  | call _ _ failed => exact absurd failed (apply_named engine own _ _ _ id)

theorem evaluate_named (engine : Engine) (own : engine.Named) (scope : Scope) (e : Expr) (bound : Bound e.names scope) :
    Named (evaluate engine scope e) := by
  intro before id same
  obtain ⟨part, within, falters⟩ := (evaluate_blames engine scope e).failed before _ same
  obtain ⟨rfl, missing⟩ := falters_named engine own scope part id falters
  obtain ⟨v, found⟩ := bound id (within.names id List.mem_cons_self)
  rw [missing] at found
  cases found

theorem context_names_bound (talent attr params : Value) (cons : Numeral) (weapon trees element currentTalent : Value)
    (captured : Scope) (names : List String)
    (known : ∀ name ∈ names, (contextNames.contains name || helperNames.contains name) = true) (name : String)
    (member : name ∈ names) : ∃ v,
      (Context.bindingsOf talent attr params cons weapon trees element currentTalent).lookup name = some v ∧
      (Scope.overlay captured (Context.bindingsOf talent attr params cons weapon trees element currentTalent)).lookup
        name = some v := by
  have found : ∃ v, (Context.bindingsOf talent attr params cons weapon trees element currentTalent).lookup name = some v := by
    -- one case for each of the names, looked up by computation
    have listed : name ∈ contextNames ++ helperNames := by simpa using known name member
    simp only [contextNames, helperNames, List.cons_append, List.nil_append, List.mem_cons, List.not_mem_nil,
      or_false] at listed
    rcases listed with rfl | rfl | rfl | rfl | rfl | rfl | rfl | rfl | rfl | rfl | rfl | rfl | rfl | rfl | rfl | rfl |
      rfl | rfl | rfl | rfl | rfl | rfl <;> exact ⟨_, rfl⟩
  obtain ⟨v, found⟩ := found
  exact ⟨v, found, by simp [Scope.overlay, List.lookup_append, found]⟩

/-- A text that is taken, invoked with the bindings of any context, gives the same outcome whatever scope has been
captured: the same value or failure, and the same trace of calls. It never misses a name. -/
theorem accepted_text_reads_its_context_only (text taken : String) (accepted : acceptedExpression? text = some taken)
    (engine : Engine) (own : engine.Named) (talent attr params : Value) (cons : Numeral)
    (weapon trees element currentTalent : Value) (marks : Nat) :
    ∃ body, parseExpression ("(" ++ taken ++ ")") = .ok body ∧
      let context : Context :=
        ⟨engine, Context.bindingsOf talent attr params cons weapon trees element currentTalent, marks⟩
      ∀ captured, (∀ captured', context.invoke body captured = context.invoke body captured') ∧
        ∀ id, (context.invoke body captured).1 ≠ .error (.undefinedName id) := by
  obtain ⟨body, parsed, plain, known⟩ := accepted_defers_nothing taken (taken_is_context_expression text taken accepted)
  rw [Expr.readsContextOnly, List.all_eq_true] at known
  have bound := context_names_bound talent attr params cons weapon trees element currentTalent
  refine ⟨body, parsed, fun captured => ⟨fun captured' => ?_, ?_⟩⟩
  -- the bindings lie over the captured scope and hide what it holds for these names
  · have agree : Agree body.names
        (Scope.overlay captured (Context.bindingsOf talent attr params cons weapon trees element currentTalent))
        (Scope.overlay captured' (Context.bindingsOf talent attr params cons weapon trees element currentTalent)) := by
      intro name member
      obtain ⟨v, found, here⟩ := bound captured body.names known name member
      obtain ⟨v', found', there⟩ := bound captured' body.names known name member
      rw [here, there, ← found, ← found']
    simp only [Context.invoke, invoke, evaluate_agrees engine _ _ body plain agree]
  · apply evaluate_named engine own _ body
    intro name member
    obtain ⟨v, -, found⟩ := bound captured body.names known name member
    exact ⟨v, found⟩

theorem sample_text_reads_its_context_only :
    acceptedExpression? " cons >= 2 ? dmg(1, \"e\") : heal(0) " = some "cons >= 2 ? dmg(1, \"e\") : heal(0)" ∧
    (Engine.ofKind .recording .gs).Named ∧
    ∃ body, parseExpression ("(" ++ "cons >= 2 ? dmg(1, \"e\") : heal(0)" ++ ")") = .ok body ∧
      let context : Context := ⟨.ofKind .recording .gs,
        Context.bindingsOf .null .null .null .zero .null .null (.string "") (.string ""), 0⟩
      ∀ captured, (∀ captured', context.invoke body captured = context.invoke body captured') ∧
        ∀ id, (context.invoke body captured).1 ≠ .error (.undefinedName id) := by
  have accepted : acceptedExpression? " cons >= 2 ? dmg(1, \"e\") : heal(0) " =
      some "cons >= 2 ? dmg(1, \"e\") : heal(0)" := by decide +kernel
  exact ⟨accepted, of_kind_named _ _, accepted_text_reads_its_context_only _ _ accepted _ (of_kind_named _ _) _ _ _ _ _ _ _ _ _⟩

end DamagePlan.Script
