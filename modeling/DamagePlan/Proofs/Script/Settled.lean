import Mathlib.Data.List.Forall2
import DamagePlan.Proofs.Script.Depth
import DamagePlan.Proofs.Script.Grammar

/-!
Lexemes of which it is open whether they are read: what they are read as if they are, and which faults there may be.
Records whose keys turn out equal are such, and so is whatever may be nested too deeply.
-/
set_option autoImplicit false

namespace DamagePlan.Script

open DamagePlan.Script.Parser (Phrase Carries)
open DamagePlan.Script.Parser.Phrase (IsKey)

namespace Parser

structure IfRead (ls : List Lexeme) (e : Expr) : Prop where
  opens : ∀ tokens rest, Carries tokens ls → pullOf rest < 0 → symbol? .closeBracket (tokens ++ rest) = none
  reads : ∀ d tokens rest r, Carries tokens ls → pullOf rest < 0 → exprAt d (tokens ++ rest) = .ok r → r = (e, rest)

def WasRead (d : Nat) (ls : List Lexeme) (e : Expr) : Prop :=
  ∃ tokens rest, Carries tokens ls ∧ pullOf rest < 0 ∧ exprAt d (tokens ++ rest) = .ok (e, rest)

def EntryIfRead (ls : List Lexeme) (entry : String × Expr) : Prop :=
  ∃ l ms, ls = l :: .symbol .colon :: ms ∧ IsKey l entry.1 ∧ IfRead ms entry.2

def EntryWasRead (d : Nat) (ls : List Lexeme) (entry : String × Expr) : Prop :=
  ∃ l ms, ls = l :: .symbol .colon :: ms ∧ WasRead d ms entry.2

variable {ls : List Lexeme} {e : Expr} {q : Int} {n d : Nat}

theorem expr_of_failed_primary (tokens : List Token) (fault : SyntaxError) (plain : symbol? .arrow tokens = none)
    (operand : unaryOp? tokens = none) (failed : primary (exprAt d) tokens = .error fault) :
    exprAt (d + 1) tokens = .error fault := by
  have fails : unaryAt d tokens = .error fault := by
    rw [unary_at_eq]
    simp only [unaryOver, operand, postfixed, failed]
  simp [expr_at_succ, exprOver, plain, binary, binaryLevels, chain, fails]

theorem expr_of_primary (tokens : List Token) (obj : Expr) (rest : List Token) (plain : symbol? .arrow tokens = none)
    (operand : unaryOp? tokens = none) (here : primary (exprAt d) tokens = .ok (obj, rest)) (free : pullOf rest < 0) :
    exprAt (d + 1) tokens = .ok (obj, rest) := by
  have unary : unaryAt d tokens = .ok (obj, rest) := by
    rw [unary_at_eq]
    simp only [unaryOver, operand, postfixed, here, postfix_from_stop (exprAt d) _ obj rest (by omega)]
  -- no operator of any level follows, so that each level hands on what the next tighter one reads
  have levels : ∀ i ≤ 6, binaryAt d (7 - i) tokens = .ok (obj, rest) := by
    intro i
    induction i with
    | zero => exact fun _ => unary
    | succ i ih =>
      intro few
      have tighter := ih (by omega)
      have stop := chain_from_stop (7 - (i + 1)) (binaryAt d (7 - i)) rest.length obj rest (by omega) (by omega)
        (by omega)
      rw [binary_at_eq d _ (by omega) (by omega), show 7 - (i + 1) + 1 = 7 - i by omega]
      simp only [chain, tighter, stop]
  have loosest : binary (unaryAt d) binaryLevels tokens = .ok (obj, rest) := levels 6 (Nat.le_refl 6)
  have stop : symbol? .question rest = none := symbol_none_of_pull _ _ (by simp only [pull]; omega)
  simp only [expr_at_succ, exprOver, plain, loosest, stop]

theorem primary_of_expr (tokens : List Token) (r : Expr × List Token) (plain : symbol? .arrow tokens = none)
    (operand : unaryOp? tokens = none) (read : exprAt (d + 1) tokens = .ok r) :
    ∃ first, primary (exprAt d) tokens = .ok first ∧ (pullOf first.2 < 0 → r = first) := by
  cases here : primary (exprAt d) tokens with
  | error fault =>
    rw [expr_of_failed_primary tokens fault plain operand here] at read
    cases read
  | ok first =>
    refine ⟨first, rfl, fun free => ?_⟩
    rw [expr_of_primary tokens first.1 first.2 plain operand here free, Except.ok.injEq] at read
    exact read.symm

theorem led_frees (lss : List (List Lexeme)) (closing : Lexeme) (low : pull closing < 0) :
    Phrase.Frees (led lss ++ [closing]) := by
  cases lss with
  | nil => exact Phrase.frees_cons closing low
  | cons ls lss => exact Phrase.frees_cons (.symbol .comma) (by decide)

theorem led_carries (lss : List (List Lexeme)) (closing : Lexeme) (tokens : List Token)
    (carried : Carries tokens (led lss ++ [closing])) : 1 ≤ tokens.length := by
  have length := congrArg List.length carried
  simp at length
  omega

def Spoils (P : SyntaxErrorKind → Prop) (n d : Nat) (fault : SyntaxError) : Prop :=
  P fault.kind ∨ fault.kind = .nestedTooDeeply ∧ d ≤ n

structure Settles (P : SyntaxErrorKind → Prop) (n : Nat) (ls : List Lexeme) (e : Expr) : Prop where
  opens : ∀ tokens rest, Carries tokens ls → pullOf rest < 0 → symbol? .closeBracket (tokens ++ rest) = none
  reads : ∀ d tokens rest, Carries tokens ls → pullOf rest < 0 → exprAt d (tokens ++ rest) = .ok (e, rest) ∨
    ∃ fault, exprAt d (tokens ++ rest) = .error fault ∧ Spoils P n d fault

def EntrySettles (P : SyntaxErrorKind → Prop) (n : Nat) (ls : List Lexeme) (entry : String × Expr) : Prop :=
  ∃ l ms, ls = l :: .symbol .colon :: ms ∧ IsKey l entry.1 ∧ Settles P n ms entry.2

variable {P : SyntaxErrorKind → Prop} {m : Nat}

theorem Spoils.deeper {fault : SyntaxError} (spoils : Spoils P n d fault) : Spoils P (n + 1) (d + 1) fault :=
  spoils.imp_right fun ⟨deep, few⟩ => ⟨deep, Nat.succ_le_succ few⟩

theorem Spoils.mono {fault : SyntaxError} (more : n ≤ m) (spoils : Spoils P n d fault) : Spoils P m d fault :=
  spoils.imp_right fun ⟨deep, few⟩ => ⟨deep, Nat.le_trans few more⟩

theorem Settles.mono (more : n ≤ m) (settles : Settles P n ls e) : Settles P m ls e :=
  { settles with
    reads := fun d tokens rest carried free => (settles.reads d tokens rest carried free).imp_right
      fun ⟨fault, failed, spoils⟩ => ⟨fault, failed, spoils.mono more⟩ }

theorem Settles.if_read (settles : Settles P n ls e) : IfRead ls e where
  opens := settles.opens
  reads d tokens rest r carried free read := by
    rcases settles.reads d tokens rest carried free with here | ⟨fault, failed, -⟩
    · rw [here] at read
      exact (Except.ok.inj read).symm
    · rw [failed] at read
      cases read

theorem IfRead.settles (ifRead : IfRead ls e) : Settles (fun _ => True) 0 ls e where
  opens := ifRead.opens
  reads d tokens rest carried free := by
    cases here : exprAt d (tokens ++ rest) with
    | ok r => exact .inl (congrArg _ (ifRead.reads d tokens rest r carried free here))
    | error fault => exact .inr ⟨fault, rfl, .inl trivial⟩

theorem Phrase.settles (phrase : Phrase ls e q n) : Settles P n ls e where
  opens tokens rest carried free :=
    no_closing _ .closeBracket _ _ _ (.inr (.inl rfl)) (phrase.expr n tokens rest (Nat.le_refl n) carried free)
  reads d tokens rest carried free := by
    rcases phrase.reads_or_deep d tokens rest carried free with read | ⟨pos, deep⟩
    · exact .inl read
    · refine .inr ⟨_, deep, .inr ⟨rfl, Nat.le_of_not_lt fun room => ?_⟩⟩
      rw [phrase.nested d tokens rest room carried free] at deep
      cases deep

theorem Phrase.if_read (phrase : Phrase ls e q n) : IfRead ls e := (phrase.settles (P := fun _ => True)).if_read

theorem items_settle (lss : List (List Lexeme)) (es : List Expr) (parts : List.Forall₂ (Settles P n) lss es) :
    ∀ tokens rest rounds before, Carries tokens (separated lss ++ [.symbol .closeBracket]) → tokens.length ≤ rounds →
      (items (exprAt d) rounds before (tokens ++ rest) = .ok (before.reverse ++ es, rest) ∧
        List.Forall₂ (WasRead d) lss es) ∨
      ∃ fault, items (exprAt d) rounds before (tokens ++ rest) = .error fault ∧ Spoils P n d fault := by
  induction parts with
  | nil =>
    intro tokens rest rounds before carried enough
    obtain ⟨pos, rfl⟩ := carries_singleton tokens _ carried
    obtain ⟨rounds, rfl⟩ : ∃ i, rounds = i + 1 := ⟨rounds - 1, by simp at enough; omega⟩
    exact .inl ⟨by simp [items], .nil⟩
  | @cons ls e lss es part parts ih =>
    intro tokens rest rounds before carried enough
    rw [separated, List.append_assoc] at carried
    obtain ⟨front, back, rfl, first, second⟩ := carries_append tokens _ _ carried
    have free := Phrase.frees_pull (led_frees lss _ (by decide)) back rest second
    have opened := part.opens front (back ++ rest) first free
    have count := led_carries lss _ back second
    obtain ⟨rounds, rfl⟩ : ∃ i, rounds = i + 1 := ⟨rounds - 1, by simp at enough; omega⟩
    simp only [List.append_assoc, items, opened]
    rcases part.reads d front (back ++ rest) first free with here | ⟨fault, failed, spoils⟩
    · have wasRead : WasRead d ls e := ⟨front, back ++ rest, first, free, here⟩
      simp only [here]
      cases parts with
      | nil =>
        obtain ⟨pos, rfl⟩ := carries_singleton back _ second
        have stop : symbol? .comma (⟨.symbol .closeBracket, pos⟩ :: rest) = none := rfl
        exact .inl ⟨by simp [stop, Except.map], .cons wasRead .nil⟩
      | @cons ms g lss es _ _ =>
        have ended : Carries back (.symbol .comma :: (separated (ms :: lss) ++ [.symbol .closeBracket])) := by
          simpa [led, separated] using second
        obtain ⟨pos, back, rfl, more⟩ := carries_cons back _ _ ended
        simp only [List.cons_append, symbol_cons]
        refine (ih back rest rounds (e :: before) more (by simp at enough; omega)).imp_left fun later => ?_
        exact ⟨by rw [later.1]; simp, .cons wasRead later.2⟩
    · exact .inr ⟨fault, by simp only [failed], spoils⟩

theorem entries_settle (lss : List (List Lexeme)) (fields : List (String × Expr))
    (parts : List.Forall₂ (EntrySettles P n) lss fields) : ∀ tokens rest rounds before,
      (¬((before.reverse ++ fields).map (·.1)).Nodup → ∀ key, P (.duplicateRecordKey key)) →
      Carries tokens (separated lss ++ [.symbol .closeBrace]) → tokens.length ≤ rounds →
        (entries (exprAt d) rounds before (tokens ++ rest) = .ok (before.reverse ++ fields, rest) ∧
          List.Forall₂ (EntryWasRead d) lss fields) ∨
        ∃ fault, entries (exprAt d) rounds before (tokens ++ rest) = .error fault ∧ Spoils P n d fault := by
  induction parts with
  | nil =>
    intro tokens rest rounds before _ carried enough
    obtain ⟨pos, rfl⟩ := carries_singleton tokens _ carried
    obtain ⟨rounds, rfl⟩ : ∃ i, rounds = i + 1 := ⟨rounds - 1, by simp at enough; omega⟩
    exact .inl ⟨by simp [entries], .nil⟩
  | @cons ls field lss fields entry parts ih =>
    intro tokens rest rounds before repeated carried enough
    obtain ⟨l, ms, rfl, isKey, part⟩ := entry
    rw [separated, List.append_assoc] at carried
    obtain ⟨keyed, back, rfl, whole, second⟩ := carries_append tokens _ _ carried
    obtain ⟨keyPos, colon, rfl, valued⟩ := carries_cons keyed _ _ whole
    obtain ⟨colonPos, front, rfl, first⟩ := carries_cons colon _ _ valued
    have free := Phrase.frees_pull (led_frees lss _ (by decide)) back rest second
    obtain ⟨rounds, rfl⟩ : ∃ i, rounds = i + 1 := ⟨rounds - 1, by simp at enough; omega⟩
    simp only [List.append_assoc, List.cons_append, entries, Phrase.key_no_symbol l _ _ _ _ isKey,
      Phrase.record_key l _ _ _ isKey, expect_symbol_cons]
    split
    · rename_i taken
      obtain ⟨other, among, same⟩ := List.any_eq_true.mp taken
      refine .inr ⟨_, rfl, .inl (repeated (fun distinct => ?_) field.1)⟩
      rw [List.map_append, List.map_reverse] at distinct
      have there : field.1 ∈ (before.map (·.1)).reverse :=
        List.mem_reverse.mpr (List.mem_map.mpr ⟨other, among, by simpa using same⟩)
      exact (List.nodup_append.mp distinct).2.2 _ there _ List.mem_cons_self rfl
    · rcases part.reads d front (back ++ rest) first free with here | ⟨fault, failed, spoils⟩
      · have wasRead : EntryWasRead d (l :: .symbol .colon :: ms) field :=
          ⟨l, ms, rfl, front, back ++ rest, first, free, here⟩
        simp only [here]
        cases parts with
        | nil =>
          obtain ⟨pos, rfl⟩ := carries_singleton back _ second
          have stop : symbol? .comma (⟨.symbol .closeBrace, pos⟩ :: rest) = none := rfl
          exact .inl ⟨by simp [stop, Except.map], .cons wasRead .nil⟩
        | @cons ks g lss fields _ _ =>
          have ended : Carries back (.symbol .comma :: (separated (ks :: lss) ++ [.symbol .closeBrace])) := by
            simpa [led, separated] using second
          obtain ⟨pos, back, rfl, more⟩ := carries_cons back _ _ ended
          simp only [List.cons_append, symbol_cons]
          refine (ih back rest rounds (field :: before) (by simpa using repeated) more (by simp at enough; omega)).imp_left
            fun later => ?_
          exact ⟨by rw [later.1]; simp, .cons wasRead later.2⟩
      · exact .inr ⟨fault, by simp only [failed], spoils⟩

theorem list_settles (lss : List (List Lexeme)) (es : List Expr) (parts : List.Forall₂ (Settles P n) lss es)
    (tokens rest : List Token) (carried : Carries tokens (.symbol .openBracket :: separated lss ++ [.symbol .closeBracket]))
    (free : pullOf rest < 0) :
    (exprAt (d + 1) (tokens ++ rest) = .ok (.list es, rest) ∧ List.Forall₂ (WasRead d) lss es) ∨
      ∃ fault, exprAt (d + 1) (tokens ++ rest) = .error fault ∧ Spoils P (n + 1) (d + 1) fault := by
  obtain ⟨pos, inside, rfl, within⟩ := carries_cons tokens _ _ carried
  rcases items_settle lss es parts inside rest ((inside ++ rest).length + 1) [] within (by simp; omega) with
    ⟨read, wereRead⟩ | ⟨fault, failed, spoils⟩
  · exact .inl ⟨expr_of_primary _ _ _ rfl rfl (by simp only [List.cons_append, primary, read]; rfl) free, wereRead⟩
  · exact .inr ⟨fault, expr_of_failed_primary _ _ rfl rfl (by simp only [List.cons_append, primary, failed]; rfl), spoils.deeper⟩

theorem record_settles (lss : List (List Lexeme)) (fields : List (String × Expr))
    (repeated : ¬(fields.map (·.1)).Nodup → ∀ key, P (.duplicateRecordKey key))
    (parts : List.Forall₂ (EntrySettles P n) lss fields) (tokens rest : List Token)
    (carried : Carries tokens (.symbol .openBrace :: separated lss ++ [.symbol .closeBrace])) (free : pullOf rest < 0) :
    (exprAt (d + 1) (tokens ++ rest) = .ok (.record fields, rest) ∧ List.Forall₂ (EntryWasRead d) lss fields) ∨
      ∃ fault, exprAt (d + 1) (tokens ++ rest) = .error fault ∧ Spoils P (n + 1) (d + 1) fault := by
  obtain ⟨pos, inside, rfl, within⟩ := carries_cons tokens _ _ carried
  rcases entries_settle lss fields parts inside rest ((inside ++ rest).length + 1) [] repeated within (by simp; omega) with
    ⟨read, wereRead⟩ | ⟨fault, failed, spoils⟩
  · exact .inl ⟨expr_of_primary _ _ _ rfl rfl (by simp only [List.cons_append, primary, read]; rfl) free, wereRead⟩
  · exact .inr ⟨fault, expr_of_failed_primary _ _ rfl rfl (by simp only [List.cons_append, primary, failed]; rfl), spoils.deeper⟩

theorem Settles.list (lss : List (List Lexeme)) (es : List Expr) (parts : List.Forall₂ (Settles P n) lss es) :
    Settles P (n + 1) (.symbol .openBracket :: separated lss ++ [.symbol .closeBracket]) (.list es) where
  opens tokens rest carried _ := by
    obtain ⟨pos, inside, rfl, -⟩ := carries_cons tokens _ _ carried
    rfl
  reads d tokens rest carried free := by
    cases d with
    | zero => exact .inr ⟨_, rfl, .inr ⟨rfl, Nat.zero_le _⟩⟩
    | succ d => exact (list_settles lss es parts tokens rest carried free).imp_left And.left

theorem Settles.record (lss : List (List Lexeme)) (fields : List (String × Expr))
    (repeated : ¬(fields.map (·.1)).Nodup → ∀ key, P (.duplicateRecordKey key))
    (parts : List.Forall₂ (EntrySettles P n) lss fields) :
    Settles P (n + 1) (.symbol .openBrace :: separated lss ++ [.symbol .closeBrace]) (.record fields) where
  opens tokens rest carried _ := by
    obtain ⟨pos, inside, rfl, -⟩ := carries_cons tokens _ _ carried
    rfl
  reads d tokens rest carried free := by
    cases d with
    | zero => exact .inr ⟨_, rfl, .inr ⟨rfl, Nat.zero_le _⟩⟩
    | succ d => exact (record_settles lss fields repeated parts tokens rest carried free).imp_left And.left

theorem list_if_read (lss : List (List Lexeme)) (es : List Expr) (parts : List.Forall₂ IfRead lss es)
    (tokens rest : List Token) (r : Expr × List Token)
    (carried : Carries tokens (.symbol .openBracket :: separated lss ++ [.symbol .closeBracket]))
    (free : pullOf rest < 0) (read : exprAt (d + 1) (tokens ++ rest) = .ok r) :
    r = (.list es, rest) ∧ List.Forall₂ (WasRead d) lss es := by
  rcases list_settles lss es (parts.imp fun _ _ part => part.settles) tokens rest carried free with
    ⟨here, wereRead⟩ | ⟨fault, failed, -⟩
  · rw [here] at read
    exact ⟨(Except.ok.inj read).symm, wereRead⟩
  · rw [failed] at read
    cases read

theorem EntryIfRead.settles {entry : String × Expr} (ifRead : EntryIfRead ls entry) :
    EntrySettles (fun _ => True) 0 ls entry := by
  obtain ⟨l, ms, shape, isKey, part⟩ := ifRead
  exact ⟨l, ms, shape, isKey, part.settles⟩

theorem record_if_read (lss : List (List Lexeme)) (fields : List (String × Expr))
    (parts : List.Forall₂ EntryIfRead lss fields) (tokens rest : List Token) (r : Expr × List Token)
    (carried : Carries tokens (.symbol .openBrace :: separated lss ++ [.symbol .closeBrace]))
    (free : pullOf rest < 0) (read : exprAt (d + 1) (tokens ++ rest) = .ok r) :
    r = (.record fields, rest) ∧ List.Forall₂ (EntryWasRead d) lss fields := by
  rcases record_settles lss fields (fun _ _ => trivial) (parts.imp fun _ _ part => part.settles) tokens rest carried free
    with ⟨here, wereRead⟩ | ⟨fault, failed, -⟩
  · rw [here] at read
    exact ⟨(Except.ok.inj read).symm, wereRead⟩
  · rw [failed] at read
    cases read

end Parser

end DamagePlan.Script
