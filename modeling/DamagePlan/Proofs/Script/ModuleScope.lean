import DamagePlan.Proofs.Json.Fields
import DamagePlan.Proofs.Script.Failing
import DamagePlan.Proofs.Steps
import DamagePlan.Script.Loading

/-!
The module scope of a script: what is evaluated without bindings from outside holds no helper and no stand-in.
-/
set_option autoImplicit false

namespace DamagePlan.Script

inductive Homemade : Value → Prop
  | null : Homemade .null
  | bool (b : Bool) : Homemade (.bool b)
  | number (x : Numeral) : Homemade (.number x)
  | string (s : String) : Homemade (.string s)
  | list {items : List Value} (each : ∀ v ∈ items, Homemade v) : Homemade (.list items)
  | record {fields : List (String × Value)} (each : ∀ field ∈ fields, Homemade field.2) : Homemade (.record fields)
  | closure {body : Expr} {scope : Scope} (each : ∀ binding ∈ scope, Homemade binding.2) : Homemade (.closure body scope)

def HomemadeScope (scope : Scope) : Prop := ∀ binding ∈ scope, Homemade binding.2

theorem homemade_field {fields : List (String × Value)} (each : ∀ field ∈ fields, Homemade field.2) (name : String) :
    Homemade (Value.field fields name) := by
  unfold Value.field
  cases found : fields.lookup name with
  | none => exact .null
  | some v =>
    exact each _ (Fields.found_entry fields name v found)

theorem homemade_element {items : List Value} (each : ∀ v ∈ items, Homemade v) (i : Nat) :
    Homemade ((items[i]?).getD .null) := by
  cases found : items[i]? with
  | none => exact .null
  | some v => exact each v (List.mem_of_getElem? found)

theorem member_of_homemade (obj : Value) (name : String) (v : Value) (own : Homemade obj)
    (made : memberOf obj name = .ok v) : Homemade v := by
  cases own with
  | record each =>
    cases made
    exact homemade_field each name
  | null | bool _ | number _ | closure _ => cases made
  | string s =>
    simp only [memberOf] at made
    split at made <;> cases made
    exact .number _
  | list each =>
    simp only [memberOf] at made
    split at made <;> cases made
    exact .number _

theorem index_of_homemade (obj key v : Value) (own : Homemade obj) (made : indexOf obj key = .ok v) : Homemade v := by
  cases own with
  | null | bool _ | number _ | closure _ => cases made
  | record each =>
    simp only [indexOf] at made
    split at made <;> cases made
    exact homemade_field each _
  | list each =>
    obtain ⟨x, -, made⟩ := bind_ok _ _ _ made
    split at made <;> cases made
    · exact homemade_element each _
    · exact .null
  | string s =>
    obtain ⟨x, -, made⟩ := bind_ok _ _ _ made
    split at made <;> cases made
    · rename_i i _
      cases (s.toList[i]?) with
      | none => exact .null
      | some c => exact .string _
    · exact .null

theorem arithmetic_homemade (f : Float → Float → Except Failure Float) (left right v : Value)
    (made : arithmetic f left right = .ok v) : Homemade v := by
  obtain ⟨x, -, made⟩ := bind_ok _ _ _ made
  obtain ⟨y, -, made⟩ := bind_ok _ _ _ made
  obtain ⟨z, -, made⟩ := bind_ok _ _ _ made
  cases made
  exact .number _

theorem compare_with_homemade (texts : String → String → Bool) (numbers : Float → Float → Bool) (left right v : Value)
    (made : compareWith texts numbers left right = .ok v) : Homemade v := by
  unfold compareWith at made
  split at made
  · cases made
    exact .bool _
  · obtain ⟨x, -, made⟩ := bind_ok _ _ _ made
    obtain ⟨y, -, made⟩ := bind_ok _ _ _ made
    cases made
    exact .bool _

theorem apply_binary_made (op : BinaryOp) (left right v : Value) (made : applyBinary op left right = .ok v) :
    v = left ∨ v = right ∨ Homemade v := by
  cases op with
  | equal | notEqual =>
    cases made
    exact .inr (.inr (.bool _))
  | and =>
    simp only [applyBinary] at made
    cases made
    by_cases truthy : left.isTruthy = true
    · exact .inr (.inl (if_pos truthy))
    · exact .inl (if_neg truthy)
  | or =>
    simp only [applyBinary] at made
    cases made
    by_cases truthy : left.isTruthy = true
    · exact .inl (if_pos truthy)
    · exact .inr (.inl (if_neg truthy))
  | less | lessEqual | greater | greaterEqual =>
    unfold applyBinary at made
    exact .inr (.inr (compare_with_homemade _ _ _ _ _ made))
  | subtract | multiply | divide | remainder =>
    unfold applyBinary at made
    exact .inr (.inr (arithmetic_homemade _ _ _ _ made))
  | add =>
    simp only [applyBinary] at made
    split at made
    · obtain ⟨s, -, made⟩ := bind_ok _ _ _ made
      obtain ⟨t, -, made⟩ := bind_ok _ _ _ made
      cases made
      exact .inr (.inr (.string _))
    · exact .inr (.inr (arithmetic_homemade _ _ _ _ made))

theorem apply_binary_homemade (op : BinaryOp) (left right v : Value) (own : Homemade left) (own' : Homemade right)
    (made : applyBinary op left right = .ok v) : Homemade v := by
  rcases apply_binary_made op left right v made with rfl | rfl | homemade
  · exact own
  · exact own'
  · exact homemade

theorem apply_unary_homemade (op : UnaryOp) (v w : Value) (made : applyUnary op v = .ok w) : Homemade w := by
  cases op with
  | not =>
    cases made
    exact .bool _
  | negate | plus =>
    obtain ⟨x, -, rfl⟩ := map_ok _ _ _ made
    exact .number _

theorem settle_homemade (v : Except Failure Value) (made : ∀ w, v = .ok w → Homemade w) :
    Ensures Homemade (fun _ => True) (settle v) := by
  refine ensures_bind _ _ (ensures_lift v made fun _ _ => trivial) fun w own => ?_
  split
  · exact ensures_bind _ _ (ensures_mark _) fun _ _ => ensures_pure _ (.number _)
  · exact ensures_pure _ own

-- Induction on the expression, together with its lists and entries. A name gives what an earlier assignment has made.
mutual
theorem evaluate_homemade (engine : Engine) (scope : Scope) (own : HomemadeScope scope) (e : Expr) :
    Ensures Homemade (fun _ => True) (evaluate engine scope e) := by
  cases e with
  | number x => exact ensures_pure _ (.number _)
  | string s => exact ensures_pure _ (.string s)
  | bool b => exact ensures_pure _ (.bool b)
  | null => exact ensures_pure _ .null
  | deferred body => exact ensures_pure _ (.closure own)
  | verbatim _ => exact ensures_throw _ trivial
  | name id =>
    cases found : scope.lookup id with
    | some v =>
      simp only [evaluate, found]
      exact ensures_pure v (own _ (Fields.found_entry scope id v found))
    | none =>
      simp only [evaluate, found]
      exact ensures_throw _ trivial
  | member obj name =>
    exact ensures_bind _ _ (evaluate_homemade engine scope own obj) fun v made =>
      ensures_lift _ (fun w => member_of_homemade v name w made) fun _ _ => trivial
  | index obj key =>
    exact ensures_bind _ _ (evaluate_homemade engine scope own obj) fun v made =>
      ensures_bind _ _ (evaluate_homemade engine scope own key) fun k _ =>
        ensures_lift _ (fun w => index_of_homemade v k w made) fun _ _ => trivial
  | call func args =>
    refine ensures_bind _ _ (evaluate_homemade engine scope own func) fun f made =>
      ensures_bind _ _ (evaluate_list_homemade engine scope own args) fun vs _ => ?_
    -- what is called is homemade, so it is nothing that can be called
    cases made <;> exact ensures_throw _ trivial
  | unary op operand =>
    exact ensures_bind _ _ (evaluate_homemade engine scope own operand) fun v _ =>
      settle_homemade _ fun w => apply_unary_homemade op v w
  | binary op left right =>
    have second := evaluate_homemade engine scope own right
    simp only [evaluate]
    refine ensures_bind _ _ (evaluate_homemade engine scope own left) fun v made => ?_
    split
    · split
      · exact second
      · exact ensures_pure v made
    · split
      · exact ensures_pure v made
      · exact second
    · exact ensures_bind _ _ second fun w made' => settle_homemade _ fun u => apply_binary_homemade op v w u made made'
  | conditional test consequent alternative =>
    simp only [evaluate]
    refine ensures_bind _ _ (evaluate_homemade engine scope own test) fun v _ => ?_
    split
    · exact evaluate_homemade engine scope own consequent
    · exact evaluate_homemade engine scope own alternative
  | list items =>
    exact ensures_bind _ _ (evaluate_list_homemade engine scope own items) fun vs each => ensures_pure _ (.list each)
  | record entries =>
    exact ensures_bind _ _ (evaluate_entries_homemade engine scope own entries) fun fields each =>
      ensures_pure _ (.record each)

theorem evaluate_list_homemade (engine : Engine) (scope : Scope) (own : HomemadeScope scope) (es : List Expr) :
    Ensures (fun vs => ∀ v ∈ vs, Homemade v) (fun _ => True) (evaluateList engine scope es) := by
  cases es with
  | nil => exact ensures_pure _ (by simp)
  | cons e es =>
    exact ensures_bind _ _ (evaluate_homemade engine scope own e) fun v made =>
      ensures_bind _ _ (evaluate_list_homemade engine scope own es) fun vs each =>
        ensures_pure _ (List.forall_mem_cons.mpr ⟨made, each⟩)

theorem evaluate_entries_homemade (engine : Engine) (scope : Scope) (own : HomemadeScope scope)
    (entries : List (String × Expr)) : Ensures (fun fields => ∀ field ∈ fields, Homemade field.2) (fun _ => True)
      (evaluateEntries engine scope entries) := by
  cases entries with
  | nil => exact ensures_pure _ (by simp)
  | cons entry rest =>
    obtain ⟨key, e⟩ := entry
    exact ensures_bind _ _ (evaluate_homemade engine scope own e) fun v made =>
      ensures_bind _ _ (evaluate_entries_homemade engine scope own rest) fun fields each =>
        ensures_pure _ (List.forall_mem_cons.mpr ⟨made, each⟩)
end

section Assignments

variable (stack : Stack)

theorem assignments_go_on (scope : Scope) (marks : Nat) (a : Assignment) (rest : List Assignment) (v : Value) (after : Trace)
    (free : ¬scope.any (·.1 == a.name) = true) (room : stack.overrun? scope a.value = none)
    (outcome : (evaluate Context.empty.engine scope a.value).run { marks } = (.ok v, after)) :
    evaluateAssignments stack scope marks (a :: rest) =
      evaluateAssignments stack (scope ++ [(a.name, v)]) after.marks rest := by
  rw [evaluateAssignments, if_neg free, room]
  simp only [outcome]

def Reaches (scope : Scope) (marks : Nat) (all : List Assignment) (scope' : Scope) (e : Expr) : Prop :=
  ∃ earlier a later marks', all = earlier ++ a :: later ∧ a.value = e ∧
    evaluateAssignments stack scope marks earlier = .ok (scope', marks')

/-- What the failure of a module scope goes back to: an expression that is reached, which the stack does not do for, or a
part of which is to blame for what is not caught. -/
def ModuleFault (scope : Scope) (marks : Nat) (all : List Assignment) (g : GateError) : Prop :=
  (∀ e, g = .uncaught e → ∃ scope' value, Reaches stack scope marks all scope' value ∧ HomemadeScope scope' ∧
    e.failureClass ≠ .evaluation ∧ Blamed Context.empty.engine scope' value e) ∧
  ∀ report, g = .overrun report → ∃ scope' value, Reaches stack scope marks all scope' value ∧
    stack.overrun? scope' value = some report

theorem static_fault_elsewhere (scope : Scope) (marks : Nat) (all : List Assignment) (fault : StaticFault) :
    ModuleFault stack scope marks all (.static fault) := ⟨nofun, nofun⟩

theorem ModuleFault.earlier {scope scope' : Scope} {marks marks' : Nat} {a : Assignment} {rest : List Assignment}
    {g : GateError} (steps : ∀ more, evaluateAssignments stack scope marks (a :: more) =
      evaluateAssignments stack scope' marks' more) (fault : ModuleFault stack scope' marks' rest g) :
    ModuleFault stack scope marks (a :: rest) g := by
  have reached : ∀ {scope'' value}, Reaches stack scope' marks' rest scope'' value →
      Reaches stack scope marks (a :: rest) scope'' value := by
    rintro scope'' value ⟨earlier, a', later, marks'', rfl, same, reached⟩
    exact ⟨a :: earlier, a', later, marks'', rfl, same, (steps earlier).trans reached⟩
  refine ⟨fun e same => ?_, fun report same => ?_⟩
  · obtain ⟨scope'', value, there, rest⟩ := fault.1 e same
    exact ⟨scope'', value, reached there, rest⟩
  · obtain ⟨scope'', value, there, overrun⟩ := fault.2 report same
    exact ⟨scope'', value, reached there, overrun⟩

-- Induction on the assignments; the scope stays homemade from each to the next.
theorem assignments_fail (all : List Assignment) : ∀ scope marks, HomemadeScope scope →
    Fails (ModuleFault stack scope marks all) (evaluateAssignments stack scope marks all) := by
  induction all with
  | nil =>
    intro scope marks own
    exact fails_ok _
  | cons a rest ih =>
    intro scope marks own
    have here : Reaches stack scope marks (a :: rest) scope a.value := ⟨[], a, rest, marks, rfl, rfl, rfl⟩
    by_cases taken : scope.any (·.1 == a.name) = true
    · rw [evaluateAssignments, if_pos taken]
      exact fails_error _ (static_fault_elsewhere stack _ _ _ _)
    cases room : stack.overrun? scope a.value with
    | some report =>
      rw [evaluateAssignments, if_neg taken, room]
      exact fails_error _ ⟨nofun, fun report' same => by cases same; exact ⟨scope, a.value, here, room⟩⟩
    | none =>
      cases outcome : (evaluate Context.empty.engine scope a.value).run { marks } with
      | mk result after =>
        cases result with
        | ok v =>
          have made : Homemade v := (evaluate_homemade _ scope own a.value).returned v ⟨_, by rw [outcome]⟩
          have own' : HomemadeScope (scope ++ [(a.name, v)]) := by
            intro binding member
            rcases List.mem_append.mp member with earlier | new
            · exact own binding earlier
            · obtain rfl := List.mem_singleton.mp new
              exact made
          have steps := fun more => assignments_go_on stack scope marks a more v after taken room outcome
          rw [steps rest]
          exact (ih _ _ own').mono fun g fault => fault.earlier stack steps
        | error e =>
          have blamed : Blamed Context.empty.engine scope a.value e :=
            (evaluate_blames _ scope a.value).failed _ e (by rw [outcome])
          rw [evaluateAssignments, if_neg taken, room]
          simp only [outcome]
          split
          · exact fails_error _ (static_fault_elsewhere stack _ _ _ _)
          · rename_i other
            exact fails_error _
              ⟨fun e' same => by cases same; exact ⟨scope, a.value, here, own, other, blamed⟩, nofun⟩

theorem module_fault_undefined (scope : Scope) (marks : Nat) (all : List Assignment) (e : Failure)
    (fault : ModuleFault stack scope marks all (.uncaught e)) : ∃ scope' value part,
      Reaches stack scope marks all scope' value ∧ Expr.Within part value ∧ HasNoValue Context.empty.engine scope' part := by
  obtain ⟨scope', value, reached, own, kind, part, within, falters⟩ := fault.1 e rfl
  refine ⟨scope', value, part, reached, within, ?_⟩
  rcases falters_class _ (of_kind_plain _ _) scope' part e falters with plain | undefined | ⟨_, func, args, h, rfl, called⟩
  · exact absurd plain kind
  · exact undefined
  · cases (evaluate_homemade _ scope' own func).returned _ called

end Assignments

end DamagePlan.Script
