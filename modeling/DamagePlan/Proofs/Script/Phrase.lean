import Mathlib.Tactic.IntervalCases
import DamagePlan.Script.Parser

/-!
Phrases: lexemes that the parser reads as one expression, wherever what follows does not pull at it.
-/
set_option autoImplicit false

namespace DamagePlan.Script.Parser

def exprAt (d : Nat) : Parser Expr := (levels d).1

def unaryAt (d : Nat) : Parser Expr := (levels d).2

def operandAt : Nat → Parser Expr
  | 0 => tooDeep
  | d + 1 => unaryAt d

def binaryAt (d p : Nat) : Parser Expr := binary (unaryAt d) (binaryLevels.drop (p - 1))

def opsAt (p : Nat) : List (Symbol × BinaryOp) := (binaryLevels[p - 1]?).getD []

theorem expr_at_succ (d : Nat) : exprAt (d + 1) = exprOver (exprAt d) (unaryAt d) := rfl

theorem unary_at_eq (d : Nat) : unaryAt d = unaryOver (operandAt d) (exprAt d) := by
  cases d <;> rfl

theorem binary_at_eq (d p : Nat) (low : 1 ≤ p) (high : p ≤ 6) :
    binaryAt d p = chain (opsAt p) (binaryAt d (p + 1)) := by
  interval_cases p <;> rfl

def pull : Lexeme → Int
  | .symbol .dot | .symbol .openBracket | .symbol .openParen => 8
  | .symbol .star | .symbol .slash | .symbol .percent => 6
  | .symbol .plus | .symbol .minus => 5
  | .symbol .less | .symbol .lessEqual | .symbol .greater | .symbol .greaterEqual => 4
  | .symbol .equal | .symbol .notEqual => 3
  | .symbol .and => 2
  | .symbol .or => 1
  | .symbol .question => 0
  | _ => -1

def pullOf (tokens : List Token) : Int := pull (current tokens).lexeme

@[simp] theorem pull_of_cons (l : Lexeme) (pos : Nat) (rest : List Token) : pullOf (⟨l, pos⟩ :: rest) = pull l := rfl

theorem ops_lookup_none (p : Nat) (s : Symbol) (low : 1 ≤ p) (high : p ≤ 6) (other : pull (.symbol s) ≠ p) :
    (opsAt p).lookup s = none := by
  interval_cases p <;> cases s <;> first | rfl | exact absurd rfl other

theorem operator_none (p : Nat) (tokens : List Token) (low : 1 ≤ p) (high : p ≤ 6) (other : pullOf tokens ≠ p) :
    operator? (opsAt p) tokens = none := by
  match tokens with
  | [] => rfl
  | ⟨.symbol s, _⟩ :: rest => simp [operator?, ops_lookup_none p s low high other]
  | ⟨.number _, _⟩ :: _ | ⟨.string _, _⟩ :: _ | ⟨.ident _, _⟩ :: _ | ⟨.newline, _⟩ :: _ | ⟨.eof, _⟩ :: _ => rfl

theorem symbol_none (s : Symbol) (tokens : List Token) (other : (current tokens).lexeme ≠ .symbol s) :
    symbol? s tokens = none := by
  match tokens with
  | [] => rfl
  | ⟨.symbol t, _⟩ :: rest =>
    have different : t ≠ s := fun same => other (by rw [same]; rfl)
    simp [symbol?, different]
  | ⟨.number _, _⟩ :: _ | ⟨.string _, _⟩ :: _ | ⟨.ident _, _⟩ :: _ | ⟨.newline, _⟩ :: _ | ⟨.eof, _⟩ :: _ => rfl

theorem symbol_none_of_pull (s : Symbol) (tokens : List Token) (other : pullOf tokens ≠ pull (.symbol s)) :
    symbol? s tokens = none :=
  symbol_none s tokens fun same => other (by rw [pullOf, same])

@[simp] theorem symbol_cons (s : Symbol) (pos : Nat) (rest : List Token) :
    symbol? s (⟨.symbol s, pos⟩ :: rest) = some rest := by simp [symbol?]

@[simp] theorem expect_symbol_cons (s : Symbol) (pos : Nat) (rest : List Token) :
    expectSymbol s (⟨.symbol s, pos⟩ :: rest) = .ok rest := by simp [expectSymbol]

theorem chain_from_stop (p : Nat) (operand : Parser Expr) (rounds : Nat) (e : Expr) (rest : List Token)
    (low : 1 ≤ p) (high : p ≤ 6) (other : pullOf rest ≠ p) :
    chainFrom (opsAt p) operand rounds e rest = .ok (e, rest) := by
  cases rounds with
  | zero => rfl
  | succ rounds => simp [chainFrom, operator_none p rest low high other]

theorem postfix_from_stop (nested : Parser Expr) (rounds : Nat) (e : Expr) (rest : List Token)
    (other : pullOf rest < 8) : postfixFrom nested rounds e rest = .ok (e, rest) := by
  cases rounds with
  | zero => rfl
  | succ rounds =>
    rw [postfixFrom.eq_def]
    split
    · rename_i same
      cases same
    · rename_i same
      cases same
      split
      · exact absurd other (by simp [pullOf, current, pull])
      · exact absurd other (by simp [pullOf, current, pull])
      · exact absurd other (by simp [pullOf, current, pull])
      · rfl

def Carries (tokens : List Token) (ls : List Lexeme) : Prop := tokens.map (·.lexeme) = ls

theorem append_carries (front back : List Token) (ls ms : List Lexeme) (first : Carries front ls)
    (second : Carries back ms) : Carries (front ++ back) (ls ++ ms) := by
  simp only [Carries] at first second ⊢
  rw [List.map_append, first, second]

theorem carries_append (tokens : List Token) (ls ms : List Lexeme) (carried : Carries tokens (ls ++ ms)) :
    ∃ front back, tokens = front ++ back ∧ Carries front ls ∧ Carries back ms :=
  List.map_eq_append_iff.mp carried

theorem carries_cons (tokens : List Token) (l : Lexeme) (ls : List Lexeme) (carried : Carries tokens (l :: ls)) :
    ∃ pos back, tokens = ⟨l, pos⟩ :: back ∧ Carries back ls := by
  obtain ⟨⟨_, pos⟩, back, rfl, rfl, tail⟩ := List.map_eq_cons_iff.mp carried
  exact ⟨pos, back, rfl, tail⟩

theorem carries_singleton (tokens : List Token) (l : Lexeme) (carried : Carries tokens [l]) :
    ∃ pos, tokens = [⟨l, pos⟩] := by
  obtain ⟨pos, back, rfl, tail⟩ := carries_cons tokens l [] carried
  exact ⟨pos, by rw [List.map_eq_nil_iff.mp tail]⟩

def ReadsAt (p : Nat) (ls : List Lexeme) (e : Expr) (n : Nat) : Prop :=
  ∀ d tokens rest, n ≤ d → Carries tokens ls → pullOf rest < p → binaryAt d p (tokens ++ rest) = .ok (e, rest)

def ChainsAt (p : Nat) (ls : List Lexeme) (e : Expr) (n : Nat) : Prop :=
  ∀ d tokens rest, n ≤ d → Carries tokens ls → pullOf rest ≤ p →
    ∃ rounds, rest.length ≤ rounds ∧
      binaryAt d p (tokens ++ rest) = chainFrom (opsAt p) (binaryAt d (p + 1)) rounds e rest

def Extends (ls : List Lexeme) (e : Expr) (n : Nat) : Prop :=
  ∀ d tokens rest, n ≤ d → Carries tokens ls →
    ∃ rounds, rest.length < rounds ∧
      postfixed (exprAt d) (tokens ++ rest) = postfixFrom (exprAt d) rounds e rest

theorem reads_of_chains (p : Nat) (ls : List Lexeme) (e : Expr) (n : Nat) (low : 1 ≤ p) (high : p ≤ 6)
    (chains : ChainsAt p ls e n) : ReadsAt p ls e n := by
  intro d tokens rest deep carried free
  obtain ⟨rounds, _, read⟩ := chains d tokens rest deep carried (Int.le_of_lt free)
  rw [read, chain_from_stop p _ rounds e rest low high (Int.ne_of_lt free)]

theorem chains_of_reads (p : Nat) (ls : List Lexeme) (e : Expr) (n : Nat) (low : 1 ≤ p) (high : p ≤ 6)
    (reads : ReadsAt (p + 1) ls e n) : ChainsAt p ls e n := by
  intro d tokens rest deep carried free
  have operand := reads d tokens rest deep carried (by push_cast; omega)
  exact ⟨rest.length, Nat.le_refl _, by simp [binary_at_eq d p low high, chain, operand]⟩

theorem unary_at_fails (d : Nat) (l : Lexeme) (pos : Nat) (rest : List Token) (foreign : l = .symbol .arrow) :
    ∃ e, unaryAt d (⟨l, pos⟩ :: rest) = .error e := by
  subst foreign
  exact ⟨_, by rw [unary_at_eq]; rfl⟩

theorem binary_at_fails (d p : Nat) (pos : Nat) (rest : List Token) (low : 1 ≤ p) (high : p ≤ 7) :
    ∃ e, binaryAt d p (⟨.symbol .arrow, pos⟩ :: rest) = .error e := by
  obtain ⟨e, fails⟩ := unary_at_fails d _ pos rest rfl
  refine ⟨e, ?_⟩
  interval_cases p <;> simp [binaryAt, binaryLevels, binary, chain, fails]

theorem reads_no_arrow (p : Nat) (ls : List Lexeme) (e : Expr) (n : Nat) (low : 1 ≤ p) (high : p ≤ 7)
    (reads : ReadsAt p ls e n) (d : Nat) (tokens rest : List Token) (deep : n ≤ d) (carried : Carries tokens ls)
    (free : pullOf rest < p) : symbol? .arrow (tokens ++ rest) = none := by
  apply symbol_none
  intro arrow
  have read := reads d tokens rest deep carried free
  cases whole : tokens ++ rest with
  | nil => rw [whole] at arrow; cases arrow
  | cons token more =>
    obtain ⟨l, pos⟩ := token
    rw [whole] at arrow read
    obtain rfl : l = .symbol .arrow := arrow
    obtain ⟨fault, fails⟩ := binary_at_fails d p pos more low high
    rw [fails] at read
    cases read

/-- Lexemes that are read as `e` wherever an expression of power `q` may stand. -/
structure Phrase (ls : List Lexeme) (e : Expr) (q : Int) (n : Nat) : Prop where
  expr : ∀ d tokens rest, n ≤ d → Carries tokens ls → pullOf rest < 0 →
    exprAt (d + 1) (tokens ++ rest) = .ok (e, rest)
  chains : ∀ p : Nat, 1 ≤ p → p ≤ 6 → (p : Int) ≤ q → ChainsAt p ls e n
  unary : 7 ≤ q → ReadsAt 7 ls e n
  extends_ : 8 ≤ q → Extends ls e n

namespace Phrase

variable {ls ms ks : List Lexeme} {e f g : Expr} {q r s : Int} {n m k : Nat}

theorem expr_of_reads (reads : ReadsAt 1 ls e n) (d : Nat) (tokens rest : List Token) (deep : n ≤ d)
    (carried : Carries tokens ls) (free : pullOf rest < 0) : exprAt (d + 1) (tokens ++ rest) = .ok (e, rest) := by
  have below : pullOf rest < (1 : Nat) := by push_cast; omega
  have plain := reads_no_arrow 1 ls e n (by decide) (by decide) reads d tokens rest deep carried below
  have read : binary (unaryAt d) binaryLevels (tokens ++ rest) = .ok (e, rest) :=
    reads d tokens rest deep carried below
  have stop : symbol? .question rest = none := symbol_none_of_pull _ _ (by simp only [pull]; omega)
  rw [expr_at_succ]
  simp only [exprOver, plain, read, stop]

theorem of_expr (low : q < 1) (reads : ∀ d tokens rest, n ≤ d → Carries tokens ls → pullOf rest < 0 →
    exprAt (d + 1) (tokens ++ rest) = .ok (e, rest)) : Phrase ls e q n where
  expr := reads
  chains p one _ under := by omega
  unary high := by omega
  extends_ high := by omega

theorem chains_below (p : Nat) (high : p ≤ 6) (reads : ReadsAt (p + 1) ls e n) :
    ∀ i, 1 ≤ i → i ≤ p → ChainsAt i ls e n := by
  induction p with
  | zero => intro i one under; omega
  | succ p ih =>
    intro i one under
    have chains := chains_of_reads (p + 1) ls e n (by omega) high reads
    rcases Nat.lt_or_ge i (p + 1) with less | same
    · exact ih (by omega) (reads_of_chains (p + 1) ls e n (by omega) high chains) i one (by omega)
    · obtain rfl : i = p + 1 := by omega
      exact chains

theorem of_chains (p : Nat) (low : 1 ≤ p) (high : p ≤ 6) (chains : ChainsAt p ls e n) : Phrase ls e p n := by
  have reads := reads_of_chains p ls e n low high chains
  obtain ⟨p, rfl⟩ : ∃ i, p = i + 1 := ⟨p - 1, by omega⟩
  have below : ∀ i, 1 ≤ i → i ≤ p + 1 → ChainsAt i ls e n := by
    intro i one under
    rcases Nat.lt_or_ge i (p + 1) with less | same
    · exact chains_below p (by omega) reads i one (by omega)
    · obtain rfl : i = p + 1 := by omega
      exact chains
  exact {
    expr := expr_of_reads (reads_of_chains 1 ls e n (by decide) (by decide) (below 1 (by decide) (by omega)))
    chains := fun i one _ under => below i one (by omega)
    unary := fun tight => by omega
    extends_ := fun tight => by omega }

theorem of_unary (reads : ReadsAt 7 ls e n) : Phrase ls e 7 n where
  expr := expr_of_reads (reads_of_chains 1 ls e n (by decide) (by decide)
    (chains_below 6 (by decide) reads 1 (by decide) (by decide)))
  chains i one high _ := chains_below 6 (by decide) reads i one high
  unary _ := reads
  extends_ tight := by omega

theorem reads_of_extends (extended : Extends ls e n) : ReadsAt 7 ls e n := by
  intro d tokens rest deep carried free
  obtain ⟨rounds, _, read⟩ := extended d tokens rest deep carried
  have stop := postfix_from_stop (exprAt d) rounds e rest (by push_cast at free; omega)
  rw [stop] at read
  have plain : unaryOp? (tokens ++ rest) = none := by
    rw [unaryOp?.eq_def]
    split
    · rename_i same; rw [same] at read; cases read
    · rename_i same; rw [same] at read; cases read
    · rename_i same; rw [same] at read; cases read
    · rfl
  change unaryAt d (tokens ++ rest) = _
  rw [unary_at_eq]
  simp only [unaryOver, plain, read]

theorem of_extends (extended : Extends ls e n) : Phrase ls e 9 n where
  expr := (of_unary (reads_of_extends extended)).expr
  chains i one high _ := (of_unary (reads_of_extends extended)).chains i one high (by omega)
  unary _ := reads_of_extends extended
  extends_ _ := extended

theorem mono (more : n ≤ m) (phrase : Phrase ls e q n) : Phrase ls e q m where
  expr d tokens rest deep := phrase.expr d tokens rest (Nat.le_trans more deep)
  chains p one high under d tokens rest deep := phrase.chains p one high under d tokens rest (Nat.le_trans more deep)
  unary tight d tokens rest deep := phrase.unary tight d tokens rest (Nat.le_trans more deep)
  extends_ tight d tokens rest deep := phrase.extends_ tight d tokens rest (Nat.le_trans more deep)

theorem loosen (less : r ≤ q) (phrase : Phrase ls e q n) : Phrase ls e r n where
  expr := phrase.expr
  chains p one high under := phrase.chains p one high (by omega)
  unary tight := phrase.unary (by omega)
  extends_ tight := phrase.extends_ (by omega)

theorem nested (phrase : Phrase ls e q n) (d : Nat) (tokens rest : List Token) (deep : n + 1 ≤ d)
    (carried : Carries tokens ls) (free : pullOf rest < 0) : exprAt d (tokens ++ rest) = .ok (e, rest) := by
  obtain ⟨d, rfl⟩ : ∃ i, d = i + 1 := ⟨d - 1, by omega⟩
  exact phrase.expr d tokens rest (by omega) carried free

end Phrase

end DamagePlan.Script.Parser
