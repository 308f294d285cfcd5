import DamagePlan.Proofs.Steps
import DamagePlan.Script.Context

/-!
What evaluations come to: the values they return and the failures they end in, from the single steps up.
-/
set_option autoImplicit false

namespace DamagePlan.Script

section Outcomes

variable {α β : Type} {P P' : Failure → Prop} {Q Q' : α → Prop} {R : β → Prop}

def Yields (m : Evaluation α) (a : α) : Prop := ∃ before, (m.run before).1 = .ok a

structure Ensures (Q : α → Prop) (P : Failure → Prop) (m : Evaluation α) : Prop where
  returned : ∀ a, Yields m a → Q a
  failed : ∀ before, Fails P (m.run before).1

theorem run_bind_ok (m : Evaluation α) (f : α → Evaluation β) (before after : Trace) (a : α)
    (first : m.run before = (.ok a, after)) : (m >>= f).run before = (f a).run after := by
  simp only [Evaluation.run, ExceptT.run_bind, StateT.run_bind] at first ⊢
  rw [first]
  rfl

theorem run_bind_error (m : Evaluation α) (f : α → Evaluation β) (before after : Trace) (e : Failure)
    (first : m.run before = (.error e, after)) : (m >>= f).run before = (.error e, after) := by
  simp only [Evaluation.run, ExceptT.run_bind, StateT.run_bind] at first ⊢
  rw [first]
  rfl

theorem ensures_pure (a : α) (holds : Q a) : Ensures Q P (pure a) where
  returned a' yields := by
    obtain ⟨before, same⟩ := yields
    cases same
    exact holds
  failed before := fails_ok a

theorem ensures_throw (e : Failure) (holds : P e) : Ensures Q P (throw e) where
  returned a yields := by
    obtain ⟨before, same⟩ := yields
    cases same
  failed before := fails_error e holds

theorem ensures_lift (x : Except Failure α) (made : ∀ a, x = .ok a → Q a) (fails : Fails P x) :
    Ensures Q P (Evaluation.lift x) := by
  cases x with
  | ok a => exact ensures_pure a (made a rfl)
  | error e => exact ensures_throw e (fails e rfl)

theorem ensures_bind (m : Evaluation α) (f : α → Evaluation β) (first : Ensures Q P m)
    (second : ∀ a, Q a → Ensures R P (f a)) : Ensures R P (m >>= f) := by
  constructor
  · rintro b ⟨before, same⟩
    cases outcome : m.run before with
    | mk result after =>
      cases result with
      | ok a =>
        rw [run_bind_ok m f before after a outcome] at same
        exact (second a (first.returned a ⟨before, by rw [outcome]⟩)).returned b ⟨after, same⟩
      | error e =>
        rw [run_bind_error m f before after e outcome] at same
        cases same
  · intro before e same
    cases outcome : m.run before with
    | mk result after =>
      cases result with
      | ok a =>
        rw [run_bind_ok m f before after a outcome] at same
        exact (second a (first.returned a ⟨before, by rw [outcome]⟩)).failed after e same
      | error e' =>
        rw [run_bind_error m f before after e' outcome] at same
        cases same
        exact first.failed before e (by rw [outcome])

theorem Ensures.mono {m : Evaluation α} (ensures : Ensures Q P m) (weaker : ∀ a, Q a → Q' a)
    (weaker' : ∀ e, P e → P' e) : Ensures Q' P' m :=
  ⟨fun a yields => weaker a (ensures.returned a yields), fun before => (ensures.failed before).mono weaker'⟩

theorem Ensures.widen {m : Evaluation α} (ensures : Ensures Q P m) (weaker : ∀ e, P e → P' e) : Ensures Q P' m :=
  ensures.mono (fun _ => id) weaker

theorem Ensures.yields {m : Evaluation α} (ensures : Ensures Q P m) : Ensures (Yields m) P m :=
  ⟨fun _ yields => yields, ensures.failed⟩

theorem ensures_mark (x : Numeral) : Ensures (fun _ => True) P (Evaluation.mark x) := by
  refine ⟨fun _ _ => trivial, fun before => ?_⟩
  unfold Evaluation.mark
  split <;> exact fails_ok _

theorem ensures_log (entry : List Value) : Ensures (fun _ => True) P (Evaluation.log entry) :=
  ⟨fun _ _ => trivial, fun _ => fails_ok _⟩

theorem ensures_settle (v : Except Failure Value) (fails : Fails P v) : Ensures (fun _ => True) P (settle v) := by
  refine ensures_bind _ _ (ensures_lift (Q := fun _ => True) v (fun _ _ => trivial) fails) fun v _ => ?_
  split
  · exact ensures_bind _ _ (ensures_mark _) fun _ _ => ensures_pure _ trivial
  · exact ensures_pure _ trivial

theorem ensures_number (x : Except Failure Numeral) (fails : Fails P x) :
    Ensures (fun _ => True) P (Evaluation.number x) :=
  ensures_bind _ _ (ensures_lift (Q := fun _ => True) x (fun _ _ => trivial) fails) fun x _ =>
    ensures_bind _ _ (ensures_mark x) fun _ _ => ensures_pure _ trivial

end Outcomes

def Failure.isPlain : Failure → Bool
  | .undefinedName _ => false
  | e => e.failureClass = .evaluation

def Failure.IsPlain (e : Failure) : Prop := e.isPlain = true

theorem Failure.IsPlain.evaluation {e : Failure} (plain : e.IsPlain) : e.failureClass = .evaluation := by
  cases e <;> first | rfl | cases plain

theorem Failure.IsPlain.named {e : Failure} (plain : e.IsPlain) (id : String) : e ≠ .undefinedName id := by
  rintro rfl
  cases plain

def Failure.isOperand : Failure → Bool
  | .badArity _ => false
  | e => e.isPlain

def Failure.IsOperand (e : Failure) : Prop := e.isOperand = true

theorem Failure.IsOperand.plain {e : Failure} (operand : e.IsOperand) : e.IsPlain := by
  cases e <;> first | exact operand | cases operand

theorem Failure.IsOperand.arity {e : Failure} (operand : e.IsOperand) (h : Helper) : e ≠ .badArity h := by
  rintro rfl
  cases operand

theorem to_number_fails (v : Value) : Fails Failure.IsOperand v.toNumber := by
  intro e failed
  unfold Value.toNumber at failed
  split at failed <;> try cases failed
  · split at failed
    · cases failed
    · split at failed <;> cases failed
      rfl
  · rfl

theorem to_text_fails (v : Value) : Fails Failure.IsOperand v.toText := by
  intro e failed
  unfold Value.toText at failed
  split at failed <;> cases failed
  rfl

theorem member_of_fails (obj : Value) (name : String) : Fails Failure.IsOperand (memberOf obj name) := by
  intro e failed
  unfold memberOf at failed
  split at failed <;> try cases failed
  · split at failed <;> cases failed
    rfl
  · split at failed <;> cases failed
    rfl
  · split at failed <;> cases failed
    rfl
  · rfl

theorem index_of_fails (obj key : Value) : Fails Failure.IsOperand (indexOf obj key) := by
  have positioned : ∀ f : Numeral → Except Failure Value, (∀ x, ∃ v, f x = .ok v) →
      Fails Failure.IsOperand (key.toNumber >>= f) := by
    intro f total
    refine fails_bind _ _ (to_number_fails key) fun x _ => ?_
    obtain ⟨v, made⟩ := total x
    rw [made]
    exact fails_ok v
  unfold indexOf
  split
  · exact fails_ok _
  · split
    · exact fails_ok _
    · exact fails_error _ rfl
  · apply positioned
    intro x
    split <;> exact ⟨_, rfl⟩
  · apply positioned
    intro x
    split <;> exact ⟨_, rfl⟩
  · exact fails_error _ rfl

theorem compare_with_fails (texts : String → String → Bool) (numbers : Float → Float → Bool) (v w : Value) :
    Fails Failure.IsOperand (compareWith texts numbers v w) := by
  unfold compareWith
  split
  · exact fails_ok _
  · exact fails_bind _ _ (to_number_fails _) fun _ _ => fails_bind _ _ (to_number_fails _) fun _ _ => fails_ok _

theorem arithmetic_fails (f : Float → Float → Float) (v w : Value) :
    Fails Failure.IsOperand (arithmetic (fun x y => .ok (f x y)) v w) :=
  fails_bind _ _ (to_number_fails v) fun _ _ => fails_bind _ _ (to_number_fails w) fun _ _ => fails_ok _

theorem apply_unary_fails (op : UnaryOp) (v : Value) : Fails Failure.IsOperand (applyUnary op v) := by
  cases op with
  | not => exact fails_ok _
  | negate | plus => exact fails_map _ _ (to_number_fails v)

structure NoRemainder (v w : Value) : Prop where
  dividend : ∃ x negative, v.toNumber = .ok x ∧ Decimal.Binary.ofFloat x.value = .infinite negative
  divisor : ∃ y, w.toNumber = .ok y ∧ (y.value == 0) = false ∧ Decimal.Binary.ofFloat y.value ≠ .nan

theorem remainder_fails (x y : Float) (e : Failure) (failed : remainder x y = .error e) : e = .infiniteDividend ∧
    (∃ negative, Decimal.Binary.ofFloat x = .infinite negative) ∧ (y == 0) = false ∧
      Decimal.Binary.ofFloat y ≠ .nan := by
  unfold remainder at failed
  by_cases zero : (y == 0) = true
  · rw [if_pos zero] at failed
    cases failed
  · rw [if_neg zero] at failed
    split at failed
    · cases failed
    · rename_i none
      cases failed
      unfold Decimal.remainder? at none
      split at none <;> try cases none
      rename_i shown notNan
      exact ⟨rfl, ⟨_, shown⟩, by simpa using zero, notNan⟩

theorem apply_binary_fails (op : BinaryOp) (v w : Value) :
    Fails (fun e => e.IsOperand ∨ op = .remainder ∧ e = .infiniteDividend ∧ NoRemainder v w) (applyBinary op v w) := by
  cases op with
  | equal | notEqual | and | or => exact fails_ok _
  | less | lessEqual | greater | greaterEqual =>
    unfold applyBinary
    exact (compare_with_fails _ _ v w).mono fun _ => .inl
  | subtract | multiply | divide => exact (arithmetic_fails _ v w).mono fun _ => .inl
  | add =>
    unfold applyBinary
    dsimp only
    split
    · exact fails_bind _ _ ((to_text_fails v).mono fun _ => .inl) fun _ _ =>
        fails_bind _ _ ((to_text_fails w).mono fun _ => .inl) fun _ _ => fails_ok _
    · exact (arithmetic_fails _ v w).mono fun _ => .inl
  | remainder =>
    refine fails_bind _ _ ((to_number_fails v).mono fun _ => .inl) fun x number =>
      fails_bind _ _ ((to_number_fails w).mono fun _ => .inl) fun y number' =>
        fails_bind _ _ (fun e failed => ?_) fun _ _ => fails_ok _
    obtain ⟨rfl, ⟨negative, infinite⟩, proper, defined⟩ := remainder_fails x.value y.value e failed
    exact .inr ⟨rfl, rfl, ⟨x, negative, number, infinite⟩, y, number', proper, defined⟩

namespace Helper

theorem to_integer_fails (x : Float) : Fails (fun e => e = .infiniteInteger ∨
    e = .notANumberInteger ∧ Decimal.Binary.ofFloat x = .nan) (toInteger x) := by
  intro e failed
  unfold toInteger at failed
  split at failed <;> cases failed
  · rename_i nan
    exact .inr ⟨rfl, nan⟩
  · exact .inl rfl

def NoInteger (v : Value) : Prop := ∃ x, v.toNumber = .ok x ∧ Decimal.Binary.ofFloat x.value = .nan

def Unsettled (v : Value) (e : Failure) : Prop :=
  e.IsOperand ∨ e.failureClass = .overflow ∨ e = .notANumberInteger ∧ NoInteger v

theorem integer_of_fails (v : Value) : Fails (Unsettled v) (do toInteger (← v.toNumber).value) := by
  refine fails_bind _ _ ((to_number_fails v).mono fun _ => .inl) fun x number e failed => ?_
  rcases to_integer_fails x.value e failed with rfl | ⟨rfl, nan⟩
  · exact .inr (.inl rfl)
  · exact .inr (.inr ⟨rfl, x, number, nan⟩)

theorem numbers_of_fails (vs : List Value) : Fails Failure.IsOperand (numbersOf vs) := by
  induction vs with
  | nil => exact fails_ok _
  | cons v vs ih => exact fails_bind _ _ (to_number_fails v) fun _ _ => fails_bind _ _ ih fun _ _ => fails_ok _

theorem best_of_fails (h : Helper) (better : Float → Float → Bool) (vs : List Value) :
    Fails Failure.IsOperand (bestOf h better vs) := by
  refine fails_bind _ _ (numbers_of_fails vs) fun xs _ => ?_
  cases xs with
  | nil => exact fails_error _ rfl
  | cons x xs => exact fails_ok _

theorem pick_from_fails (v position : Value) :
    Fails (fun e => Unsettled position e ∧ ∃ items, v = .list items) (pickFrom v position) := by
  intro e failed
  unfold pickFrom at failed
  split at failed
  · rename_i items
    refine ⟨?_, items, rfl⟩
    revert e
    refine fails_bind _ _ ((to_number_fails position).mono fun _ => .inl) fun x number => ?_
    refine fails_bind _ _ (fun e failed => ?_) fun i _ => ?_
    · exact integer_of_fails position e (by rw [number]; exact failed)
    · split <;> exact fails_ok _
  · cases failed

theorem round_to_fails (v digits : Value) : Fails (Unsettled digits) (roundTo v digits) := by
  refine fails_bind _ _ ((to_number_fails v).mono fun _ => .inl) fun x _ =>
    fails_bind _ _ ((to_number_fails digits).mono fun _ => .inl) fun y number => fails_bind _ _ (fun e failed => ?_)
      fun places _ => ?_
  · exact integer_of_fails digits e (by rw [number]; exact failed)
  · split
    · exact fails_ok _
    · exact fails_error _ (.inr (.inl rfl))

theorem total_fails (v : Value) : Fails Failure.IsOperand (total v) := by
  unfold total
  split
  · exact fails_bind _ _ (to_number_fails _) fun _ _ => fails_bind _ _ (to_number_fails _) fun _ _ =>
      fails_bind _ _ (to_number_fails _) fun _ _ => fails_ok _
  · exact to_number_fails _

theorem ratio_fails (game : Game) (v : Value) : Fails Failure.IsOperand (ratio game v) := by
  refine fails_bind _ _ (to_number_fails _) fun x _ => ?_
  cases game <;> exact fails_ok _

inductive Undefined : Helper → List Value → Prop
  | pick (items : List Value) (position : Value) (none : NoInteger position) : Undefined .pick [.list items, position]
  | round (v digits : Value) (none : NoInteger digits) : Undefined .round [v, digits]

theorem second_given (args : List Value) (few : accepts (1, some 2) args.length = true)
    (undefined : NoInteger ((args[1]?).getD (.number .zero))) : ∃ v w, args = [v, w] ∧ NoInteger w := by
  have zero : ¬NoInteger (.number .zero) := by
    rintro ⟨x, number, nan⟩
    cases number
    revert nan
    decide
  cases args with
  | nil => cases few
  | cons v args =>
    cases args with
    | nil => exact absurd undefined zero
    | cons w args =>
      cases args with
      | nil => exact ⟨v, w, rfl, undefined⟩
      | cons u args => simp [accepts] at few

def FailsWith (h : Helper) (args : List Value) (e : Failure) : Prop :=
  e.IsPlain ∨ e.failureClass = .overflow ∨ e = .notANumberInteger ∧ Undefined h args

end Helper

theorem apply_ensures (engine : Engine) (P : Failure → Prop) (own : ∀ h args, Ensures (fun _ => True) P (engine.answer h args))
    (h : Helper) (args : List Value) :
    Ensures (fun _ => True) (fun e => P e ∨ h.FailsWith args e) (h.apply engine args) := by
  have operand : ∀ {α : Type} {x : Except Failure α}, Fails Failure.IsOperand x →
      Fails (fun e => P e ∨ h.FailsWith args e) x := fun fails => fails.mono fun _ holds => .inr (.inl holds.plain)
  unfold Helper.apply
  by_cases bad : (!h.isEngaged && !Helper.accepts h.arity args.length) = true
  · rw [if_pos bad]
    exact ensures_throw _ (.inr (.inl rfl))
  rw [if_neg bad]
  cases h with
  | num | sum => exact ensures_pure _ trivial
  | isList => dsimp only; split <;> exact ensures_pure _ trivial
  | min | max => exact ensures_number _ (operand (Helper.best_of_fails _ _ _))
  | pick =>
    have few : Helper.accepts (1, some 2) args.length = true := by simpa [Helper.isEngaged, Helper.arity] using bad
    refine ensures_lift _ (fun _ _ => trivial) ((Helper.pick_from_fails _ _).mono ?_)
    rintro e ⟨unsettled, items, listed⟩
    refine .inr (unsettled.imp Failure.IsOperand.plain (Or.imp_right ?_))
    rintro ⟨rfl, none⟩
    obtain ⟨v, position, rfl, none⟩ := Helper.second_given args few none
    obtain rfl : v = .list items := listed
    exact ⟨rfl, .pick items position none⟩
  | round =>
    have few : Helper.accepts (1, some 2) args.length = true := by simpa [Helper.isEngaged, Helper.arity] using bad
    refine ensures_number _ ((Helper.round_to_fails _ _).mono fun e unsettled => ?_)
    refine .inr (unsettled.imp Failure.IsOperand.plain (Or.imp_right ?_))
    rintro ⟨rfl, none⟩
    obtain ⟨v, digits, rfl, none⟩ := Helper.second_given args few none
    exact ⟨rfl, .round v digits none⟩
  -- all other helpers are answered by the engine
  | _ => exact (own _ args).widen fun _ => .inl

theorem of_kind_plain (kind : EngineKind) (game : Game) (h : Helper) (args : List Value) :
    Ensures (fun _ => True) Failure.IsPlain ((Engine.ofKind kind game).answer h args) := by
  have plain : ∀ {α : Type} {x : Except Failure α}, Fails Failure.IsOperand x → Fails Failure.IsPlain x :=
    fun fails => fails.mono fun _ => Failure.IsOperand.plain
  unfold Engine.ofKind
  dsimp only
  split
  · exact ensures_throw _ rfl
  · split
    · exact ensures_number _ (plain (Helper.total_fails _))
    · exact ensures_number _ (plain (Helper.ratio_fails _ _))
    · have first : Ensures (fun _ => True) Failure.IsPlain (Evaluation.lift (Helper.argument args 0).toNumber) :=
        ensures_lift _ (fun _ _ => trivial) (plain (to_number_fails _))
      unfold Helper.engage
      split
      · exact ensures_pure _ trivial
      · exact ensures_bind _ _ (ensures_log _) fun _ _ => ensures_pure _ trivial
      · exact ensures_bind _ _ first fun _ _ => ensures_pure _ trivial
      · exact ensures_bind _ _ first fun _ _ => ensures_bind _ _ (ensures_mark _) fun _ _ =>
          ensures_bind _ _ (ensures_log _) fun _ _ => ensures_pure _ trivial

end DamagePlan.Script
