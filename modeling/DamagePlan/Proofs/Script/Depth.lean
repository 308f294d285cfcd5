import DamagePlan.Proofs.Script.Phrase

/-!
More room for nesting never changes what is read: it only turns failures for lack of depth into readings.
-/
set_option autoImplicit false

namespace DamagePlan.Script.Parser

def FailsDeep {α : Type} (result : Except SyntaxError α) : Prop := ∃ pos, result = .error ⟨.nestedTooDeeply, pos⟩

def Refines {α : Type} (p q : Parser α) : Prop := ∀ tokens, p tokens = q tokens ∨ FailsDeep (p tokens)

theorem refines_refl {α : Type} (p : Parser α) : Refines p p := fun _ => .inl rfl

theorem refines_trans {α : Type} {p q r : Parser α} (first : Refines p q) (second : Refines q r) : Refines p r := by
  intro tokens
  rcases first tokens with same | deep
  · rw [same]
    exact second tokens
  · exact .inr deep

theorem too_deep_refines (q : Parser Expr) : Refines tooDeep q := fun _ => .inr ⟨_, rfl⟩

@[elab_as_elim] theorem Refines.elim {α : Type} {p q : Parser α}
    {motive : Except SyntaxError (α × List Token) → Except SyntaxError (α × List Token) → Prop} (refines : Refines p q)
    (tokens : List Token) (read : ∀ a rest, motive (.ok (a, rest)) (.ok (a, rest))) (failed : ∀ e, motive (.error e) (.error e))
    (deep : ∀ pos y, motive (.error ⟨.nestedTooDeeply, pos⟩) y) : motive (p tokens) (q tokens) := by
  rcases refines tokens with same | ⟨pos, tooFar⟩
  · rw [same]
    cases q tokens with
    | error e => exact failed e
    | ok result => exact read result.1 result.2
  · rw [tooFar]
    exact deep pos _

theorem Refines.map {α β : Type} {p q : Parser α} (refines : Refines p q) (f : α × List Token → β × List Token) :
    Refines (fun tokens => (p tokens).map f) fun tokens => (q tokens).map f := by
  intro tokens
  dsimp only
  exact refines.elim tokens (fun _ _ => .inl rfl) (fun _ => .inl rfl) fun pos _ => .inr ⟨pos, rfl⟩

section Loops

variable {p q : Parser Expr} (refines : Refines p q)
include refines

theorem chain_from_refines (ops : List (Symbol × BinaryOp)) (rounds : Nat) :
    ∀ left, Refines (chainFrom ops p rounds left) (chainFrom ops q rounds left) := by
  induction rounds with
  | zero => intro left; exact refines_refl _
  | succ rounds ih =>
    intro left tokens
    simp only [chainFrom]
    cases operator? ops tokens with
    | none => exact .inl rfl
    | some found =>
      dsimp only
      exact refines.elim found.2 (fun right rest => ih _ rest) (fun _ => .inl rfl) fun pos _ => .inr ⟨pos, rfl⟩

theorem chain_refines (ops : List (Symbol × BinaryOp)) : Refines (chain ops p) (chain ops q) := by
  intro tokens
  simp only [chain]
  exact refines.elim tokens (fun left rest => chain_from_refines refines ops _ _ rest) (fun _ => .inl rfl)
    fun pos _ => .inr ⟨pos, rfl⟩

theorem binary_refines (levels : List (List (Symbol × BinaryOp))) : Refines (binary p levels) (binary q levels) := by
  induction levels with
  | nil => exact refines
  | cons ops levels ih => exact chain_refines ih ops

theorem arguments_from_refines (rounds : Nat) :
    ∀ before, Refines (argumentsFrom p rounds before) (argumentsFrom q rounds before) := by
  induction rounds with
  | zero => intro before; exact refines_refl _
  | succ rounds ih =>
    intro before tokens
    simp only [argumentsFrom]
    cases symbol? .comma tokens with
    | none => exact .inl rfl
    | some rest =>
      dsimp only
      exact refines.elim rest (fun arg rest => ih _ rest) (fun _ => .inl rfl) fun pos _ => .inr ⟨pos, rfl⟩

theorem arguments_refines : Refines (arguments p) (arguments q) := by
  intro tokens
  simp only [arguments]
  cases symbol? .closeParen tokens with
  | some rest => exact .inl rfl
  | none =>
    dsimp only
    exact refines.elim tokens (fun arg rest => arguments_from_refines refines _ _ rest) (fun _ => .inl rfl)
      fun pos _ => .inr ⟨pos, rfl⟩

theorem postfix_from_refines (rounds : Nat) :
    ∀ obj, Refines (postfixFrom p rounds obj) (postfixFrom q rounds obj) := by
  induction rounds with
  | zero => intro obj; exact refines_refl _
  | succ rounds ih =>
    intro obj tokens
    simp only [postfixFrom]
    split
    · split
      · exact .inl rfl
      · exact ih _ _
    · rename_i pos rest
      refine refines.elim rest (fun key rest => ?_) (fun _ => .inl rfl) fun pos _ => .inr ⟨pos, rfl⟩
      dsimp only
      cases expectSymbol .closeBracket rest with
      | error e => exact .inl rfl
      | ok rest => exact ih _ rest
    · rename_i pos rest
      exact (arguments_refines refines).elim rest (fun args rest => ih _ rest) (fun _ => .inl rfl) fun pos _ => .inr ⟨pos, rfl⟩
    · exact .inl rfl

theorem items_refines (rounds : Nat) : ∀ before, Refines (items p rounds before) (items q rounds before) := by
  induction rounds with
  | zero => intro before; exact refines_refl _
  | succ rounds ih =>
    intro before tokens
    simp only [items]
    cases symbol? .closeBracket tokens with
    | some rest => exact .inl rfl
    | none =>
      dsimp only
      refine refines.elim tokens (fun item rest => ?_) (fun _ => .inl rfl) fun pos _ => .inr ⟨pos, rfl⟩
      dsimp only
      cases symbol? .comma rest with
      | none => exact .inl rfl
      | some rest => exact ih _ rest

theorem entries_refines (rounds : Nat) : ∀ before, Refines (entries p rounds before) (entries q rounds before) := by
  induction rounds with
  | zero => intro before; exact refines_refl _
  | succ rounds ih =>
    intro before tokens
    simp only [entries]
    cases symbol? .closeBrace tokens with
    | some rest => exact .inl rfl
    | none =>
      cases recordKey tokens with
      | error e => exact .inl rfl
      | ok keyed =>
        dsimp only
        split
        · exact .inl rfl
        · cases expectSymbol .colon keyed.2 with
          | error e => exact .inl rfl
          | ok rest =>
            dsimp only
            refine refines.elim rest (fun value rest => ?_) (fun _ => .inl rfl) fun pos _ => .inr ⟨pos, rfl⟩
            dsimp only
            cases symbol? .comma rest with
            | none => exact .inl rfl
            | some rest => exact ih _ rest

theorem primary_refines : Refines (primary p) (primary q) := by
  intro tokens
  simp only [primary]
  split
  · exact .inl rfl
  · exact .inl rfl
  · exact .inl rfl
  · rename_i pos rest
    exact refines.elim rest (fun _ _ => .inl rfl) (fun _ => .inl rfl) fun pos _ => .inr ⟨pos, rfl⟩
  · rename_i pos rest
    exact (items_refines refines (rest.length + 1) []).map _ rest
  · rename_i pos rest
    exact (entries_refines refines (rest.length + 1) []).map _ rest
  · exact .inl rfl

theorem postfixed_refines : Refines (postfixed p) (postfixed q) := by
  intro tokens
  simp only [postfixed]
  exact (primary_refines refines).elim tokens (fun obj rest => postfix_from_refines refines _ _ rest) (fun _ => .inl rfl)
    fun pos _ => .inr ⟨pos, rfl⟩

end Loops

section Levels

variable {p q u v : Parser Expr} (nested : Refines p q) (operand : Refines u v)
include nested operand

theorem unary_over_refines : Refines (unaryOver u p) (unaryOver v q) := by
  intro tokens
  simp only [unaryOver]
  cases unaryOp? tokens with
  | none => exact postfixed_refines nested tokens
  | some found => exact operand.map _ found.2

theorem expr_over_refines : Refines (exprOver p u) (exprOver q v) := by
  intro tokens
  simp only [exprOver]
  cases symbol? .arrow tokens with
  | some rest => exact nested.map _ rest
  | none =>
    dsimp only
    refine (binary_refines operand binaryLevels).elim tokens (fun test rest => ?_) (fun _ => .inl rfl)
      fun pos _ => .inr ⟨pos, rfl⟩
    dsimp only
    cases symbol? .question rest with
    | none => exact .inl rfl
    | some rest =>
      dsimp only
      refine nested.elim rest (fun consequent rest => ?_) (fun _ => .inl rfl) fun pos _ => .inr ⟨pos, rfl⟩
      dsimp only
      cases expectSymbol .colon rest with
      | error e => exact .inl rfl
      | ok rest => exact nested.map _ rest

end Levels

theorem levels_refine (d : Nat) : Refines (exprAt d) (exprAt (d + 1)) ∧ Refines (unaryAt d) (unaryAt (d + 1)) := by
  induction d with
  | zero =>
    refine ⟨too_deep_refines _, ?_⟩
    rw [unary_at_eq 0, unary_at_eq 1]
    exact unary_over_refines (too_deep_refines _) (too_deep_refines _)
  | succ d ih =>
    have deeper : Refines (exprAt (d + 1)) (exprAt (d + 2)) := by
      rw [expr_at_succ d, expr_at_succ (d + 1)]
      exact expr_over_refines ih.1 ih.2
    refine ⟨deeper, ?_⟩
    rw [unary_at_eq (d + 1), unary_at_eq (d + 2)]
    exact unary_over_refines deeper ih.2

theorem expr_at_refines (d more : Nat) : Refines (exprAt d) (exprAt (d + more)) := by
  induction more with
  | zero => exact refines_refl _
  | succ more ih => exact refines_trans ih (levels_refine (d + more)).1

theorem Phrase.reads_or_deep {ls : List Lexeme} {e : Expr} {q : Int} {n : Nat} (phrase : Phrase ls e q n) (d : Nat)
    (tokens rest : List Token) (carried : Carries tokens ls) (free : pullOf rest < 0) :
    exprAt d (tokens ++ rest) = .ok (e, rest) ∨ FailsDeep (exprAt d (tokens ++ rest)) := by
  have deeper := phrase.expr (d + n) tokens rest (Nat.le_add_left n d) carried free
  rcases expr_at_refines d (n + 1) (tokens ++ rest) with same | deep
  · rw [← Nat.add_assoc, deeper] at same
    exact .inl same
  · exact .inr deep

end DamagePlan.Script.Parser
