import DamagePlan.Proofs.Script.Outcomes

/-!
Where evaluation fails: a failure of a whole expression is one that a single part of it fails with in its own step.
-/
set_option autoImplicit false

namespace DamagePlan.Script

inductive Expr.Within (part : Expr) : Expr → Prop
  | whole : Within part part
  | member {obj : Expr} (name : String) (inner : Within part obj) : Within part (.member obj name)
  | object {obj key : Expr} (inner : Within part obj) : Within part (.index obj key)
  | key {obj key : Expr} (inner : Within part key) : Within part (.index obj key)
  | function {func : Expr} {args : List Expr} (inner : Within part func) : Within part (.call func args)
  | argument {func arg : Expr} {args : List Expr} (among : arg ∈ args) (inner : Within part arg) :
      Within part (.call func args)
  | operand {op : UnaryOp} {operand : Expr} (inner : Within part operand) : Within part (.unary op operand)
  | left {op : BinaryOp} {left right : Expr} (inner : Within part left) : Within part (.binary op left right)
  | right {op : BinaryOp} {left right : Expr} (inner : Within part right) : Within part (.binary op left right)
  | test {test consequent alternative : Expr} (inner : Within part test) :
      Within part (.conditional test consequent alternative)
  | consequent {test consequent alternative : Expr} (inner : Within part consequent) :
      Within part (.conditional test consequent alternative)
  | alternative {test consequent alternative : Expr} (inner : Within part alternative) :
      Within part (.conditional test consequent alternative)
  | item {items : List Expr} {item : Expr} (among : item ∈ items) (inner : Within part item) : Within part (.list items)
  | entry {entries : List (String × Expr)} {entry : String × Expr} (among : entry ∈ entries)
      (inner : Within part entry.2) : Within part (.record entries)

inductive Falters (engine : Engine) (scope : Scope) : Expr → Failure → Prop
  | name {id : String} (missing : scope.lookup id = none) : Falters engine scope (.name id) (.undefinedName id)
  | member {obj : Expr} {name : String} {v : Value} {e : Failure} (object : Yields (evaluate engine scope obj) v)
      (failed : memberOf v name = .error e) : Falters engine scope (.member obj name) e
  | index {obj key : Expr} {v k : Value} {e : Failure} (object : Yields (evaluate engine scope obj) v)
      (place : Yields (evaluate engine scope key) k) (failed : indexOf v k = .error e) :
      Falters engine scope (.index obj key) e
  | call {func : Expr} {args : List Expr} {h : Helper} {vs : List Value} {before : Trace} {e : Failure}
      (called : Yields (evaluate engine scope func) (.helper h)) (given : Yields (evaluateList engine scope args) vs)
      (failed : ((h.apply engine vs).run before).1 = .error e) : Falters engine scope (.call func args) e
  | notCallable {func : Expr} {args : List Expr} {v : Value} (called : Yields (evaluate engine scope func) v) :
      Falters engine scope (.call func args) (.notCallable v.describe)
  | unary {op : UnaryOp} {operand : Expr} {v : Value} {e : Failure} (value : Yields (evaluate engine scope operand) v)
      (failed : applyUnary op v = .error e) : Falters engine scope (.unary op operand) e
  | binary {op : BinaryOp} {left right : Expr} {v w : Value} {e : Failure} (first : Yields (evaluate engine scope left) v)
      (second : Yields (evaluate engine scope right) w) (failed : applyBinary op v w = .error e) :
      Falters engine scope (.binary op left right) e
  | verbatim {text : String} : Falters engine scope (.verbatim text) .verbatimText

def Blamed (engine : Engine) (scope : Scope) (whole : Expr) (e : Failure) : Prop :=
  ∃ part, Expr.Within part whole ∧ Falters engine scope part e

theorem Blamed.up {engine : Engine} {scope : Scope} {inner whole : Expr} {e : Failure}
    (blamed : Blamed engine scope inner e) (inside : ∀ part, Expr.Within part inner → Expr.Within part whole) :
    Blamed engine scope whole e := by
  obtain ⟨part, within, falters⟩ := blamed
  exact ⟨part, inside part within, falters⟩

-- Induction on the expression, together with its lists and entries. Each operand's failures are passed up, and its
-- value, which it yields, is what the own step goes on with.
mutual
theorem evaluate_blames (engine : Engine) (scope : Scope) (e : Expr) :
    Ensures (fun _ => True) (Blamed engine scope e) (evaluate engine scope e) := by
  have part : ∀ inner : Expr, Ensures (fun _ => True) (Blamed engine scope inner) (evaluate engine scope inner) →
      (∀ part, Expr.Within part inner → Expr.Within part e) →
        Ensures (Yields (evaluate engine scope inner)) (Blamed engine scope e) (evaluate engine scope inner) :=
    fun inner ensures inside => (ensures.widen fun _ blamed => blamed.up inside).yields
  cases e with
  | number _ | string _ | bool _ | null | deferred _ => exact ensures_pure _ trivial
  | verbatim _ => exact ensures_throw _ ⟨_, .whole, .verbatim⟩
  | name id =>
    cases found : scope.lookup id with
    | some v =>
      simp only [evaluate, found]
      exact ensures_pure v trivial
    | none =>
      simp only [evaluate, found]
      exact ensures_throw _ ⟨_, .whole, .name found⟩
  | member obj name =>
    refine ensures_bind _ _ (part obj (evaluate_blames engine scope obj) fun _ => .member name) fun v object => ?_
    exact ensures_lift _ (fun _ _ => trivial) fun f failed => ⟨_, .whole, .member object failed⟩
  | index obj key =>
    refine ensures_bind _ _ (part obj (evaluate_blames engine scope obj) fun _ => .object) fun v object => ?_
    refine ensures_bind _ _ (part key (evaluate_blames engine scope key) fun _ => .key) fun k place => ?_
    exact ensures_lift _ (fun _ _ => trivial) fun f failed => ⟨_, .whole, .index object place failed⟩
  | call func args =>
    have given := (evaluate_list_blames engine scope args).widen fun f =>
      show _ → Blamed engine scope (.call func args) f by
        rintro ⟨arg, among, blamed⟩
        exact blamed.up fun _ => .argument among
    refine ensures_bind _ _ (part func (evaluate_blames engine scope func) fun _ => .function) fun f called => ?_
    refine ensures_bind _ _ given.yields fun vs values => ?_
    split
    · exact ⟨fun _ _ => trivial, fun before f failed => ⟨_, .whole, .call called values failed⟩⟩
    · exact ensures_pure _ trivial
    · exact ensures_throw _ ⟨_, .whole, .notCallable called⟩
  | unary op operand =>
    refine ensures_bind _ _ (part operand (evaluate_blames engine scope operand) fun _ => .operand) fun v value => ?_
    exact ensures_settle _ fun f failed => ⟨_, .whole, .unary value failed⟩
  | binary op left right =>
    have second := part right (evaluate_blames engine scope right) fun _ => .right
    simp only [evaluate]
    refine ensures_bind _ _ (part left (evaluate_blames engine scope left) fun _ => .left) fun v first => ?_
    -- the right side of an and or an or is the whole result, or is left out
    split
    · split
      · exact second.mono (fun _ _ => trivial) fun _ => id
      · exact ensures_pure v trivial
    · split
      · exact ensures_pure v trivial
      · exact second.mono (fun _ _ => trivial) fun _ => id
    · exact ensures_bind _ _ second fun w value => ensures_settle _ fun f failed => ⟨_, .whole, .binary first value failed⟩
  | conditional test consequent alternative =>
    simp only [evaluate]
    refine ensures_bind _ _ (part test (evaluate_blames engine scope test) fun _ => .test) fun v _ => ?_
    split
    · exact (part consequent (evaluate_blames engine scope consequent) fun _ => .consequent).mono (fun _ _ => trivial)
        fun _ => id
    · exact (part alternative (evaluate_blames engine scope alternative) fun _ => .alternative).mono (fun _ _ => trivial)
        fun _ => id
  | list items =>
    refine ensures_bind _ _ ((evaluate_list_blames engine scope items).widen ?_) fun vs _ => ensures_pure _ trivial
    rintro f ⟨item, among, blamed⟩
    exact blamed.up fun _ => .item among
  | record entries =>
    refine ensures_bind _ _ ((evaluate_entries_blames engine scope entries).widen ?_) fun fields _ =>
      ensures_pure _ trivial
    rintro f ⟨entry, among, blamed⟩
    exact blamed.up fun _ => .entry among

theorem evaluate_list_blames (engine : Engine) (scope : Scope) (es : List Expr) :
    Ensures (fun _ => True) (fun f => ∃ e ∈ es, Blamed engine scope e f) (evaluateList engine scope es) := by
  cases es with
  | nil => exact ensures_pure _ trivial
  | cons e es =>
    have first := (evaluate_blames engine scope e).widen fun f blamed =>
      show ∃ e' ∈ e :: es, Blamed engine scope e' f from ⟨e, List.mem_cons_self, blamed⟩
    refine ensures_bind _ _ first fun v _ =>
      ensures_bind _ _ ((evaluate_list_blames engine scope es).widen ?_) fun vs _ => ensures_pure _ trivial
    rintro f ⟨e', among, blamed⟩
    exact ⟨e', List.mem_cons_of_mem _ among, blamed⟩

theorem evaluate_entries_blames (engine : Engine) (scope : Scope) (entries : List (String × Expr)) :
    Ensures (fun _ => True) (fun f => ∃ entry ∈ entries, Blamed engine scope entry.2 f)
      (evaluateEntries engine scope entries) := by
  cases entries with
  | nil => exact ensures_pure _ trivial
  | cons entry rest =>
    obtain ⟨key, e⟩ := entry
    have first := (evaluate_blames engine scope e).widen fun f blamed =>
      show ∃ entry ∈ (key, e) :: rest, Blamed engine scope entry.2 f from ⟨(key, e), List.mem_cons_self, blamed⟩
    refine ensures_bind _ _ first fun v _ =>
      ensures_bind _ _ ((evaluate_entries_blames engine scope rest).widen ?_) fun vs _ => ensures_pure _ trivial
    rintro f ⟨entry, among, blamed⟩
    exact ⟨entry, List.mem_cons_of_mem _ among, blamed⟩
end

/-- An expression whose own step has no value: a remainder of an infinite dividend, a pick at a position or a rounding
to as many digits as is not a number. -/
inductive HasNoValue (engine : Engine) (scope : Scope) : Expr → Prop
  | remainder {left right : Expr} {v w : Value} (dividend : Yields (evaluate engine scope left) v)
      (divisor : Yields (evaluate engine scope right) w) (none : NoRemainder v w) :
      HasNoValue engine scope (.binary .remainder left right)
  | call {func : Expr} {args : List Expr} {h : Helper} {vs : List Value}
      (called : Yields (evaluate engine scope func) (.helper h)) (given : Yields (evaluateList engine scope args) vs)
      (none : h.Undefined vs) : HasNoValue engine scope (.call func args)

theorem falters_class (engine : Engine) (own : ∀ h args, Ensures (fun _ => True) Failure.IsPlain (engine.answer h args))
    (scope : Scope) (part : Expr) (e : Failure) (falters : Falters engine scope part e) :
    e.failureClass = .evaluation ∨ HasNoValue engine scope part ∨
      e.failureClass = .overflow ∧ ∃ func args h, part = .call func args ∧ Yields (evaluate engine scope func) (.helper h) := by
  cases falters with
  | name _ | notCallable _ | verbatim => exact .inl rfl
  | member _ failed => exact .inl (member_of_fails _ _ e failed).plain.evaluation
  | index _ _ failed => exact .inl (index_of_fails _ _ e failed).plain.evaluation
  | unary _ failed => exact .inl (apply_unary_fails _ _ e failed).plain.evaluation
  | binary first second failed =>
    rcases apply_binary_fails _ _ _ e failed with operand | ⟨rfl, rfl, none⟩
    · exact .inl operand.plain.evaluation
    · exact .inr (.inl (.remainder first second none))
  | call called given failed =>
    rcases (apply_ensures engine _ own _ _).failed _ e failed with plain | plain | overflow | ⟨rfl, none⟩
    · exact .inl plain.evaluation
    · exact .inl plain.evaluation
    · exact .inr (.inr ⟨overflow, _, _, _, rfl, called⟩)
    · exact .inr (.inl (.call called given none))

end DamagePlan.Script
