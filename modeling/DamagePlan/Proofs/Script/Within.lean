import DamagePlan.Proofs.Script.Language

/-!
The parser stays within the tokens: it looks at no token behind the end token, it hands on a part of the tokens that still
has the end token, and every fault is at one of the tokens.
-/
set_option autoImplicit false

namespace DamagePlan.Script.Parser

inductive Anchored : List Token → Prop
  | last (pos : Nat) : Anchored [⟨.eof, pos⟩]
  | more {l : Lexeme} {pos : Nat} {rest : List Token} (earlier : l ≠ .eof) (following : Anchored rest) :
      Anchored (⟨l, pos⟩ :: rest)

def FaultAt (tokens : List Token) (e : SyntaxError) : Prop := ∃ token ∈ tokens, e.position = token.pos

def Alike {α : Type} (tokens more : List Token) (x y : Except SyntaxError (α × List Token)) : Prop :=
  (∃ a rest, x = .ok (a, rest) ∧ y = .ok (a, rest ++ more) ∧ Anchored rest ∧ rest <:+ tokens) ∨
    ∃ e, x = .error e ∧ y = .error e ∧ FaultAt tokens e

def StaysWithin {α : Type} (p : Parser α) : Prop :=
  ∀ tokens more, Anchored tokens → Alike tokens more (p tokens) (p (tokens ++ more))

structure LeftOf (tokens rest : List Token) : Prop where
  anchored : Anchored rest
  suffix : rest <:+ tokens
  shorter : rest.length < tokens.length

theorem left_of_cons {rest : List Token} (token : Token) (anchored : Anchored rest) : LeftOf (token :: rest) rest :=
  ⟨anchored, List.suffix_cons token rest, Nat.lt_succ_self _⟩

theorem LeftOf.within {tokens middle rest : List Token} (left : LeftOf middle rest) (suffix : middle <:+ tokens) :
    LeftOf tokens rest :=
  ⟨left.anchored, left.suffix.trans suffix, left.shorter.trans_le suffix.length_le⟩

theorem LeftOf.further {tokens middle rest : List Token} (left : LeftOf tokens middle) (anchored : Anchored rest)
    (suffix : rest <:+ middle) : LeftOf tokens rest :=
  ⟨anchored, suffix.trans left.suffix, suffix.length_le.trans_lt left.shorter⟩

section Alike

variable {α β : Type} {tokens middle more : List Token} {x y : Except SyntaxError (α × List Token)} {e : SyntaxError}

theorem alike_ok (a : α) (rest : List Token) (anchored : Anchored rest) (suffix : rest <:+ tokens) :
    Alike tokens more (.ok (a, rest)) (.ok (a, rest ++ more)) := .inl ⟨a, rest, rfl, rfl, anchored, suffix⟩

theorem alike_error (fault : FaultAt tokens e) : Alike (α := α) tokens more (.error e) (.error e) := .inr ⟨e, rfl, rfl, fault⟩

theorem FaultAt.within (fault : FaultAt middle e) (suffix : middle <:+ tokens) : FaultAt tokens e := by
  obtain ⟨token, member, place⟩ := fault
  exact ⟨token, suffix.mem member, place⟩

@[elab_as_elim] theorem Alike.elim {motive : Except SyntaxError (α × List Token) → Except SyntaxError (α × List Token) → Prop}
    (alike : Alike tokens more x y)
    (read : ∀ a rest, Anchored rest → rest <:+ tokens → motive (.ok (a, rest)) (.ok (a, rest ++ more)))
    (failed : ∀ e, FaultAt tokens e → motive (.error e) (.error e)) : motive x y := by
  rcases alike with ⟨a, rest, rfl, rfl, anchored, suffix⟩ | ⟨e, rfl, rfl, fault⟩
  · exact read a rest anchored suffix
  · exact failed e fault

theorem Alike.within (alike : Alike middle more x y) (suffix : middle <:+ tokens) : Alike tokens more x y :=
  alike.elim (fun a rest anchored later => alike_ok a rest anchored (later.trans suffix))
    fun _ fault => alike_error (fault.within suffix)

theorem Alike.map (f : α → β) (alike : Alike tokens more x y) :
    Alike tokens more (x.map fun (a, rest) => (f a, rest)) (y.map fun (a, rest) => (f a, rest)) :=
  alike.elim (fun a rest anchored suffix => alike_ok (f a) rest anchored suffix) fun _ fault => alike_error fault

end Alike

section Tokens

variable {tokens : List Token} (anchored : Anchored tokens) (more : List Token)
include anchored

theorem current_within : current (tokens ++ more) = current tokens ∧ current tokens ∈ tokens := by
  cases anchored with
  | last pos => exact ⟨rfl, List.mem_cons_self⟩
  | more earlier following => exact ⟨rfl, List.mem_cons_self⟩

theorem fail_here_within {α : Type} (kind : SyntaxErrorKind) :
    Alike (α := α) tokens more (failHere kind tokens) (failHere kind (tokens ++ more)) := by
  obtain ⟨same, member⟩ := current_within anchored more
  rw [failHere, failHere, same]
  exact alike_error ⟨current tokens, member, rfl⟩

@[elab_as_elim] theorem symbol_within {motive : Option (List Token) → Option (List Token) → Prop} (s : Symbol)
    (absent : motive none none) (taken : ∀ rest, LeftOf tokens rest → motive (some rest) (some (rest ++ more))) :
    motive (symbol? s tokens) (symbol? s (tokens ++ more)) := by
  cases anchored with
  | last pos => exact absent
  | @more l pos rest earlier following =>
    cases l with
    | symbol t =>
      by_cases same : t = s
      · simpa [symbol?, same] using taken rest (left_of_cons _ following)
      · simpa [symbol?, same] using absent
    | _ => exact absent

@[elab_as_elim] theorem expect_symbol_within {motive : Except SyntaxError (List Token) → Except SyntaxError (List Token) → Prop}
    (s : Symbol) (taken : ∀ rest, LeftOf tokens rest → motive (.ok rest) (.ok (rest ++ more)))
    (failed : ∀ e, FaultAt tokens e → motive (.error e) (.error e)) :
    motive (expectSymbol s tokens) (expectSymbol s (tokens ++ more)) := by
  obtain ⟨same, member⟩ := current_within anchored more
  simp only [expectSymbol, same]
  exact symbol_within anchored more s (failed _ ⟨_, member, rfl⟩) taken

theorem closed_within {α : Type} (s : Symbol) (a : α) : Alike tokens more ((expectSymbol s tokens).map (a, ·))
    ((expectSymbol s (tokens ++ more)).map (a, ·)) :=
  expect_symbol_within anchored more s (fun rest left => alike_ok a rest left.anchored left.suffix)
    fun _ fault => alike_error fault

theorem expect_name_within : Alike tokens more (expectName tokens) (expectName (tokens ++ more)) := by
  have failed := fail_here_within anchored more (α := String × Nat) (.expected .ident (current tokens).lexeme)
  cases anchored with
  | last pos => exact failed
  | @more l pos rest earlier following =>
    cases l with
    | ident id => exact alike_ok (id, pos) rest following (List.suffix_cons _ rest)
    | _ => exact failed

theorem record_key_within : Alike tokens more (recordKey tokens) (recordKey (tokens ++ more)) := by
  have failed := fail_here_within anchored more (α := String) (.notARecordKey (current tokens).lexeme)
  cases anchored with
  | last pos => exact failed
  | @more l pos rest earlier following =>
    cases l with
    | ident id => exact alike_ok id rest following (List.suffix_cons _ rest)
    | string s => exact alike_ok s rest following (List.suffix_cons _ rest)
    | _ => exact failed

@[elab_as_elim] theorem operator_within {motive : Option (BinaryOp × List Token) → Option (BinaryOp × List Token) → Prop}
    (ops : List (Symbol × BinaryOp)) (absent : motive none none)
    (taken : ∀ op rest, LeftOf tokens rest → motive (some (op, rest)) (some (op, rest ++ more))) :
    motive (operator? ops tokens) (operator? ops (tokens ++ more)) := by
  cases anchored with
  | last pos => exact absent
  | @more l pos rest earlier following =>
    cases l with
    | symbol s =>
      cases found : ops.lookup s with
      | none => simpa [operator?, found] using absent
      | some op => simpa [operator?, found] using taken op rest (left_of_cons _ following)
    | _ => exact absent

@[elab_as_elim] theorem unary_op_within {motive : Option (UnaryOp × List Token) → Option (UnaryOp × List Token) → Prop}
    (absent : motive none none)
    (taken : ∀ op rest, LeftOf tokens rest → motive (some (op, rest)) (some (op, rest ++ more))) :
    motive (unaryOp? tokens) (unaryOp? (tokens ++ more)) := by
  cases anchored with
  | last pos => exact absent
  | @more l pos rest earlier following =>
    cases l with
    | symbol s =>
      cases s with
      | minus | plus | bang => exact taken _ rest (left_of_cons _ following)
      | _ => exact absent
    | _ => exact absent

theorem skip_newlines_within : skipNewlines (tokens ++ more) = skipNewlines tokens ++ more ∧
    Anchored (skipNewlines tokens) ∧ skipNewlines tokens <:+ tokens := by
  induction anchored with
  | last pos => exact ⟨rfl, .last pos, List.suffix_refl _⟩
  | @more l pos rest earlier following ih =>
    cases l with
    | newline => exact ⟨ih.1, ih.2.1, ih.2.2.trans (List.suffix_cons _ rest)⟩
    | eof => exact absurd rfl earlier
    | _ => exact ⟨rfl, .more earlier following, List.suffix_refl _⟩

theorem anchored_some : 0 < tokens.length := by
  cases anchored <;> exact Nat.succ_pos _

end Tokens

-- Every round that goes on has taken a token, and none takes the end token: with a round for each token a loop does not run
-- out of them, however many more there are.
theorem loop_within {α β : Type} (loop : Nat → β → Parser α)
    (round : ∀ rounds rounds' before tokens more, Anchored tokens →
      (∀ before' rest, LeftOf tokens rest →
        Alike tokens more (loop rounds before' rest) (loop rounds' before' (rest ++ more))) →
      Alike tokens more (loop (rounds + 1) before tokens) (loop (rounds' + 1) before (tokens ++ more)))
    (rounds : Nat) : ∀ rounds' before tokens more, Anchored tokens → tokens.length ≤ rounds → tokens.length ≤ rounds' →
      Alike tokens more (loop rounds before tokens) (loop rounds' before (tokens ++ more)) := by
  induction rounds with
  | zero => intro _ _ _ _ anchored enough; exact absurd (anchored_some anchored) (Nat.not_lt.mpr enough)
  | succ rounds ih =>
    intro rounds' before tokens more anchored enough enough'
    cases rounds' with
    | zero => exact absurd (anchored_some anchored) (Nat.not_lt.mpr enough')
    | succ rounds' =>
      refine round rounds rounds' before tokens more anchored fun before' rest left => ?_
      have shorter := left.shorter
      exact (ih rounds' before' rest more left.anchored (by omega) (by omega)).within left.suffix

section Loops

variable {nested : Parser Expr} (within : StaysWithin nested)
include within

theorem chain_from_within (ops : List (Symbol × BinaryOp)) (rounds : Nat) : ∀ rounds' left tokens more,
    Anchored tokens → tokens.length ≤ rounds → tokens.length ≤ rounds' →
      Alike tokens more (chainFrom ops nested rounds left tokens) (chainFrom ops nested rounds' left (tokens ++ more)) := by
  refine loop_within (chainFrom ops nested) (fun rounds rounds' left tokens more anchored again => ?_) rounds
  simp only [chainFrom]
  refine operator_within anchored more ops (alike_ok left tokens anchored (List.suffix_refl _)) fun op rest taken => ?_
  dsimp only
  refine (within rest more taken.anchored).elim (fun right later anchored' suffix => ?_) fun e fault => ?_
  · exact again _ later (taken.further anchored' suffix)
  · exact alike_error (fault.within taken.suffix)

theorem chain_within (ops : List (Symbol × BinaryOp)) : StaysWithin (chain ops nested) := by
  intro tokens more anchored
  simp only [chain]
  refine (within tokens more anchored).elim (fun left rest anchored' suffix => ?_) fun e fault => alike_error fault
  exact (chain_from_within within ops _ _ left rest more anchored' (Nat.le_refl _) (by simp)).within suffix

theorem binary_within (ops : List (List (Symbol × BinaryOp))) : StaysWithin (binary nested ops) := by
  induction ops with
  | nil => exact within
  | cons first rest ih => exact chain_within ih first

theorem further_within (rounds : Nat) : ∀ rounds' before tokens more, Anchored tokens → tokens.length ≤ rounds →
    tokens.length ≤ rounds' → Alike tokens more (argumentsFrom nested rounds before tokens)
      (argumentsFrom nested rounds' before (tokens ++ more)) := by
  refine loop_within (argumentsFrom nested) (fun rounds rounds' before tokens more anchored again => ?_) rounds
  simp only [argumentsFrom]
  refine symbol_within anchored more .comma (closed_within anchored more .closeParen before.reverse) fun rest taken => ?_
  dsimp only
  refine (within rest more taken.anchored).elim (fun arg later anchored' suffix => ?_) fun e fault => ?_
  · exact again _ later (taken.further anchored' suffix)
  · exact alike_error (fault.within taken.suffix)

theorem arguments_within : StaysWithin (arguments nested) := by
  intro tokens more anchored
  simp only [arguments]
  refine symbol_within anchored more .closeParen ?_ fun rest taken => alike_ok [] rest taken.anchored taken.suffix
  refine (within tokens more anchored).elim (fun arg rest anchored' suffix => ?_) fun e fault => alike_error fault
  exact (further_within within _ _ [arg] rest more anchored' (Nat.le_succ _) (by simp; omega)).within suffix

theorem postfix_from_within (rounds : Nat) : ∀ rounds' obj tokens more, Anchored tokens → tokens.length ≤ rounds →
    tokens.length ≤ rounds' → Alike tokens more (postfixFrom nested rounds obj tokens)
      (postfixFrom nested rounds' obj (tokens ++ more)) := by
  refine loop_within (postfixFrom nested) (fun rounds rounds' obj tokens more anchored again => ?_) rounds
  have unread : Alike tokens more (.ok (obj, tokens)) (.ok (obj, tokens ++ more)) :=
    alike_ok obj tokens anchored (List.suffix_refl _)
  cases anchored with
  | last pos => exact unread
  | @more l pos rest earlier following =>
    have taken := left_of_cons ⟨l, pos⟩ following
    cases l with
    | symbol s =>
      cases s with
      | dot =>
        simp only [postfixFrom, List.cons_append]
        refine (expect_name_within following more).elim (fun part later anchored' suffix => ?_) fun e fault => ?_
        · exact again _ later (taken.further anchored' suffix)
        · exact alike_error (fault.within taken.suffix)
      | openBracket =>
        simp only [postfixFrom, List.cons_append]
        refine (within rest more following).elim (fun key later anchored' suffix => ?_) fun e fault => ?_
        · dsimp only
          refine expect_symbol_within anchored' more .closeBracket (fun last closed => ?_) fun e fault => ?_
          · exact again _ last (taken.further closed.anchored (closed.suffix.trans suffix))
          · exact alike_error (fault.within (suffix.trans taken.suffix))
        · exact alike_error (fault.within taken.suffix)
      | openParen =>
        simp only [postfixFrom, List.cons_append]
        refine (arguments_within within rest more following).elim (fun args later anchored' suffix => ?_) fun e fault => ?_
        · exact again _ later (taken.further anchored' suffix)
        · exact alike_error (fault.within taken.suffix)
      | _ => exact unread
    | _ => exact unread

theorem items_within (rounds : Nat) : ∀ rounds' before tokens more, Anchored tokens → tokens.length ≤ rounds →
    tokens.length ≤ rounds' → Alike tokens more (items nested rounds before tokens)
      (items nested rounds' before (tokens ++ more)) := by
  refine loop_within (items nested) (fun rounds rounds' before tokens more anchored again => ?_) rounds
  simp only [items]
  refine symbol_within anchored more .closeBracket ?_ fun rest taken =>
    alike_ok before.reverse rest taken.anchored taken.suffix
  refine (within tokens more anchored).elim (fun item later anchored' suffix => ?_) fun e fault => alike_error fault
  dsimp only
  refine symbol_within anchored' more .comma ?_ fun last taken => again _ last (taken.within suffix)
  exact (closed_within anchored' more .closeBracket (item :: before).reverse).within suffix

theorem entries_within (rounds : Nat) : ∀ rounds' before tokens more, Anchored tokens → tokens.length ≤ rounds →
    tokens.length ≤ rounds' → Alike tokens more (entries nested rounds before tokens)
      (entries nested rounds' before (tokens ++ more)) := by
  refine loop_within (entries nested) (fun rounds rounds' before tokens more anchored again => ?_) rounds
  simp only [entries]
  refine symbol_within anchored more .closeBrace ?_ fun rest taken =>
    alike_ok before.reverse rest taken.anchored taken.suffix
  refine (record_key_within anchored more).elim (fun key rest anchored' suffix => ?_) fun e fault => alike_error fault
  dsimp only
  split
  · exact fail_here_within anchored more _
  refine expect_symbol_within anchored' more .colon (fun after colon => ?_) fun e fault => alike_error (fault.within suffix)
  have suffix := colon.suffix.trans suffix
  dsimp only
  refine (within after more colon.anchored).elim (fun value later anchored' suffix' => ?_) fun e fault => ?_
  · have suffix := suffix'.trans suffix
    dsimp only
    refine symbol_within anchored' more .comma ?_ fun last taken => again _ last (taken.within suffix)
    exact (closed_within anchored' more .closeBrace ((key, value) :: before).reverse).within suffix
  · exact alike_error (fault.within suffix)

theorem primary_within : StaysWithin (primary nested) := by
  intro tokens more anchored
  have failed := fail_here_within anchored more (α := Expr) (.unexpectedToken (current tokens).lexeme)
  cases anchored with
  | last pos => exact failed
  | @more l pos rest earlier following =>
    have suffix := List.suffix_cons (⟨l, pos⟩ : Token) rest
    cases l with
    | number x => exact alike_ok (Expr.number x) rest following suffix
    | string s => exact alike_ok (Expr.string s) rest following suffix
    | ident id => exact alike_ok (ofWord id) rest following suffix
    | symbol s =>
      cases s with
      | openParen =>
        simp only [primary, List.cons_append]
        refine (within rest more following).elim (fun inner later anchored' suffix' => ?_) fun e fault => ?_
        · exact (closed_within anchored' more .closeParen inner).within (suffix'.trans suffix)
        · exact alike_error (fault.within suffix)
      | openBracket =>
        have read := items_within within (rest.length + 1) ((rest ++ more).length + 1) [] rest more following
          (Nat.le_succ _) (by simp; omega)
        exact (read.map Expr.list).within suffix
      | openBrace =>
        have read := entries_within within (rest.length + 1) ((rest ++ more).length + 1) [] rest more following
          (Nat.le_succ _) (by simp; omega)
        exact (read.map Expr.record).within suffix
      | _ => exact failed
    | newline => exact failed
    | eof => exact failed

theorem postfixed_within : StaysWithin (postfixed nested) := by
  intro tokens more anchored
  simp only [postfixed]
  refine (primary_within within tokens more anchored).elim (fun obj rest anchored' suffix => ?_) fun e fault => ?_
  · exact (postfix_from_within within _ _ obj rest more anchored' (Nat.le_succ _) (by simp; omega)).within suffix
  · exact alike_error fault

end Loops

section Levels

variable {nested operand : Parser Expr} (within : StaysWithin nested) (within' : StaysWithin operand)
include within within'

theorem unary_over_within : StaysWithin (unaryOver operand nested) := by
  intro tokens more anchored
  simp only [unaryOver]
  refine unary_op_within anchored more (postfixed_within within tokens more anchored) fun op rest taken => ?_
  exact ((within' rest more taken.anchored).map (Expr.unary op)).within taken.suffix

theorem expr_over_within : StaysWithin (exprOver nested operand) := by
  intro tokens more anchored
  simp only [exprOver]
  refine symbol_within anchored more .arrow ?_ fun rest arrow =>
    ((within rest more arrow.anchored).map Expr.deferred).within arrow.suffix
  refine (binary_within within' binaryLevels tokens more anchored).elim (fun test rest anchored' suffix => ?_) fun e fault =>
    alike_error fault
  dsimp only
  refine symbol_within anchored' more .question (alike_ok test rest anchored' suffix) fun after mark => ?_
  have suffix := mark.suffix.trans suffix
  dsimp only
  refine (within after more mark.anchored).elim (fun consequent later anchored' suffix' => ?_) fun e fault =>
    alike_error (fault.within suffix)
  have suffix := suffix'.trans suffix
  dsimp only
  refine expect_symbol_within anchored' more .colon (fun last colon => ?_) fun e fault => alike_error (fault.within suffix)
  exact ((within last more colon.anchored).map (Expr.conditional test consequent)).within (colon.suffix.trans suffix)

end Levels

theorem levels_within (depth : Nat) : StaysWithin (levels depth).1 ∧ StaysWithin (levels depth).2 := by
  have tooDeep_within : StaysWithin tooDeep := fun tokens more anchored => fail_here_within anchored more _
  induction depth with
  | zero => exact ⟨tooDeep_within, unary_over_within tooDeep_within tooDeep_within⟩
  | succ depth ih =>
    have whole := expr_over_within ih.1 ih.2
    exact ⟨whole, unary_over_within whole ih.2⟩

theorem expr_within : StaysWithin expr := (levels_within maxDepth).1

theorem at_end_within {tokens : List Token} (anchored : Anchored tokens) (more : List Token) :
    atEnd (tokens ++ more) = atEnd tokens := by
  rw [atEnd, (current_within anchored more).1]
  rfl

theorem name_place_within {tokens : List Token} {name : String} {pos : Nat} {rest : List Token}
    (read : expectName tokens = .ok ((name, pos), rest)) (kind : SyntaxErrorKind) : FaultAt tokens ⟨kind, pos⟩ := by
  rw [expect_name_ok tokens rest name pos read]
  exact ⟨_, List.mem_cons_self, rfl⟩

theorem assignments_within (rounds : Nat) : ∀ rounds' before tokens more, Anchored tokens → tokens.length ≤ rounds →
    tokens.length ≤ rounds' → Alike tokens more (assignments rounds before tokens)
      (assignments rounds' before (tokens ++ more)) := by
  refine loop_within assignments (fun rounds rounds' before tokens more anchored again => ?_) rounds
  simp only [assignments, at_end_within anchored more]
  split
  · exact alike_ok before.reverse tokens anchored (List.suffix_refl _)
  rcases expect_name_within anchored more with ⟨⟨name, pos⟩, rest, here, there, anchored', suffix⟩ | ⟨e, here, there, fault⟩
  · simp only [here, there]
    split
    · exact alike_error (name_place_within here _)
    refine expect_symbol_within anchored' more .assign (fun after assign => ?_) fun e fault => alike_error (fault.within suffix)
    have assign := assign.within suffix
    dsimp only
    refine (expr_within after more assign.anchored).elim (fun value last anchored' suffix' => ?_) fun e fault =>
      alike_error (fault.within assign.suffix)
    have taken := assign.further anchored' suffix'
    have failed := fail_here_within anchored' more (α := List Assignment) (.expected .newline (current last).lexeme)
    cases anchored' with
    | last endPos => exact alike_ok _ _ (.last endPos) taken.suffix
    | @more l endPos tail earlier following =>
      cases l with
      | newline =>
        obtain ⟨same, anchored', skipped⟩ := skip_newlines_within following more
        simp only [List.cons_append, same]
        exact again _ _ (taken.further anchored' (skipped.trans (List.suffix_cons _ tail)))
      | eof => exact absurd rfl earlier
      | _ => exact failed.within taken.suffix
  · simp only [here, there]
    exact alike_error fault

theorem lined_anchored {begun : Bool} {tokens : List Token} (lined : Lined begun (lexemes tokens)) : Anchored tokens := by
  induction tokens generalizing begun with
  | nil => cases lined
  | cons token tokens ih =>
    obtain ⟨l, pos⟩ := token
    by_cases final : l = .eof
    · subst final
      obtain rfl : tokens = [] := List.map_eq_nil_iff.mp lined.after_end.2
      exact .last pos
    · by_cases newline : l = .newline
      · subst newline
        exact .more final (ih lined.after_newline)
      · exact .more final (ih (lined.after_lexeme ⟨by simpa using Ne.symm newline, by simpa using Ne.symm final⟩))

/-- A parser keeps to tokens: with others behind them it comes to the same, it leaves a part of them that still has a token,
and every fault is at one of them. -/
structure KeepsTo {α : Type} (p : Parser α) (tokens : List Token) : Prop where
  blind : ∀ more, p (tokens ++ more) = (p tokens).map fun (a, rest) => (a, rest ++ more)
  leaves : ∀ a rest, p tokens = .ok (a, rest) → rest ≠ [] ∧ rest <:+ tokens
  faults : ∀ e, p tokens = .error e → ∃ token ∈ tokens, e.position = token.pos

theorem alike_keeps {α : Type} {p : Parser α} {tokens : List Token}
    (alike : ∀ more, Alike tokens more (p tokens) (p (tokens ++ more))) : KeepsTo p tokens where
  blind more := by
    rcases alike more with ⟨a, rest, here, there, -⟩ | ⟨e, here, there, -⟩ <;> rw [here, there] <;> rfl
  leaves a rest read := by
    rcases alike [] with ⟨a', rest', here, -, anchored, suffix⟩ | ⟨e, here, -⟩
    · rw [read] at here
      cases here
      exact ⟨List.ne_nil_of_length_pos (anchored_some anchored), suffix⟩
    · rw [read] at here
      cases here
  faults e failed := by
    rcases alike [] with ⟨a, rest, here, -⟩ | ⟨e', here, -, fault⟩
    · rw [failed] at here
      cases here
    · rw [failed] at here
      cases here
      exact fault

def exprAlone : Parser Expr := fun tokens => (expr tokens).map fun (e, rest) => (e, skipNewlines rest)

theorem parse_expression_alone (text : String) (tokens : List Token) (split : tokenize text = .ok tokens) :
    parseExpression text = (exprAlone tokens).bind fun (e, rest) =>
      if atEnd rest then .ok e else .error ⟨.trailingToken (current rest).lexeme, (current rest).pos⟩ := by
  simp only [parseExpression, split, exprAlone]
  cases read : expr tokens <;> simp only [bind, Except.bind, read] <;> rfl

theorem expr_alone_keeps {tokens : List Token} (anchored : Anchored tokens) : KeepsTo exprAlone tokens := by
  refine alike_keeps fun more => ?_
  rcases expr_within tokens more anchored with ⟨e, rest, here, there, anchored', suffix⟩ | ⟨e, here, there, fault⟩
  · obtain ⟨same, following, skipped⟩ := skip_newlines_within anchored' more
    simp only [exprAlone, here, there, Except.map, same]
    exact alike_ok e _ following (skipped.trans suffix)
  · simp only [exprAlone, here, there]
    exact alike_error fault

def allAssignments (rounds : Nat) : Parser (List Assignment) := fun tokens => assignments rounds [] (skipNewlines tokens)

theorem parse_script_all (text : String) (tokens : List Token) (split : tokenize text = .ok tokens) :
    parseScript text = (allAssignments tokens.length tokens).map fun (all, _) => { assignments := all } := by
  simp only [parseScript, split, allAssignments]
  cases read : assignments tokens.length [] (skipNewlines tokens) <;> simp only [bind, Except.bind, read] <;> rfl

theorem all_assignments_keep {tokens : List Token} (anchored : Anchored tokens) (rounds : Nat)
    (enough : tokens.length ≤ rounds) : KeepsTo (allAssignments rounds) tokens := by
  refine alike_keeps fun more => ?_
  obtain ⟨same, following, skipped⟩ := skip_newlines_within anchored more
  have shorter := skipped.length_le
  simp only [allAssignments, same]
  exact (assignments_within rounds rounds [] _ more following (by omega) (by omega)).within skipped

end DamagePlan.Script.Parser
