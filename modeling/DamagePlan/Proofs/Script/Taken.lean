import Mathlib.Data.List.Nodup
import DamagePlan.Proofs.Script.Derivation
import DamagePlan.Proofs.Steps

/-!
What the parser takes for an expression derives from the grammar.
-/
set_option autoImplicit false

namespace DamagePlan.Script.Parser

open Phrase (IsKey)

def Solid (ls : List Lexeme) : Prop := Lexeme.newline ∉ ls ∧ Lexeme.eof ∉ ls

theorem solid_nil : Solid [] := ⟨List.not_mem_nil, List.not_mem_nil⟩

theorem solid_append (ls ms : List Lexeme) (first : Solid ls) (second : Solid ms) : Solid (ls ++ ms) := by
  simp only [Solid, List.mem_append, not_or] at *
  exact ⟨⟨first.1, second.1⟩, first.2, second.2⟩

theorem solid_cons (l : Lexeme) (ls : List Lexeme) (one : Solid [l]) (more : Solid ls) : Solid (l :: ls) :=
  solid_append [l] ls one more

theorem solid_symbol (s : Symbol) : Solid [.symbol s] := ⟨by simp, by simp⟩

def lexemes (tokens : List Token) : List Lexeme := tokens.map (·.lexeme)

def Takes {α : Type} (R : List Lexeme → α → Prop) (tokens rest : List Token) (a : α) : Prop :=
  ∃ front, tokens = front ++ rest ∧ Solid (lexemes front) ∧ R (lexemes front) a

def Faithful {α : Type} (R : List Lexeme → α → Prop) (p : Parser α) : Prop :=
  ∀ tokens a rest, p tokens = .ok (a, rest) → Takes R tokens rest a

def Derived {α : Type} (d : Nat) (form : α → Constituent) (ls : List Lexeme) (a : α) : Prop := Derives d ls (form a)

section Takes

variable {α β γ : Type} {R : List Lexeme → α → Prop} {S : List Lexeme → β → Prop} {T : List Lexeme → γ → Prop}
  {tokens middle rest : List Token} {a : α} {b : β} {c : γ}

theorem takes_cons (l : Lexeme) (pos : Nat) (one : Solid [l]) (more : Takes R tokens rest a)
    (whole : ∀ ls, R ls a → S (l :: ls) b) : Takes S (⟨l, pos⟩ :: tokens) rest b := by
  obtain ⟨front, rfl, solid, related⟩ := more
  exact ⟨⟨l, pos⟩ :: front, rfl, solid_cons l _ one solid, whole _ related⟩

theorem takes_append (first : Takes R tokens middle a) (second : Takes S middle rest b)
    (whole : ∀ ls ms, R ls a → S ms b → T (ls ++ ms) c) : Takes T tokens rest c := by
  obtain ⟨front, rfl, solid, related⟩ := first
  obtain ⟨back, rfl, solid', related'⟩ := second
  refine ⟨front ++ back, (List.append_assoc _ _ _).symm, ?_, ?_⟩
  · rw [lexemes, List.map_append]
    exact solid_append _ _ solid solid'
  · rw [lexemes, List.map_append]
    exact whole _ _ related related'

theorem takes_one (l : Lexeme) (pos : Nat) (one : Solid [l]) (whole : R [l] a) : Takes R (⟨l, pos⟩ :: rest) rest a :=
  ⟨[⟨l, pos⟩], rfl, one, whole⟩

theorem takes_then (l : Lexeme) (pos : Nat) (one : Solid [l]) (first : Takes R tokens (⟨l, pos⟩ :: rest) a)
    (whole : ∀ ls, R ls a → T (ls ++ [l]) c) : Takes T tokens rest c :=
  takes_append first (takes_one (R := fun ls (_ : Unit) => ls = [l]) (a := ()) l pos one rfl)
    fun ls _ related same => same ▸ whole ls related

theorem takes_between (l : Lexeme) (pos : Nat) (one : Solid [l]) (first : Takes R tokens (⟨l, pos⟩ :: middle) a)
    (second : Takes S middle rest b) (whole : ∀ ls ms, R ls a → S ms b → T (ls ++ l :: ms) c) : Takes T tokens rest c := by
  have led : Takes (fun ls b => ∃ ms, ls = l :: ms ∧ S ms b) (⟨l, pos⟩ :: middle) rest b :=
    takes_cons l pos one second fun ms related => ⟨ms, rfl, related⟩
  refine takes_append first led ?_
  rintro ls _ related ⟨ms, rfl, related'⟩
  exact whole ls ms related related'

theorem takes_length (taken : Takes R tokens rest a) : rest.length ≤ tokens.length := by
  obtain ⟨front, rfl, _⟩ := taken
  simp

end Takes

theorem symbol_some (s : Symbol) (tokens rest : List Token) (found : symbol? s tokens = some rest) :
    ∃ pos, tokens = ⟨.symbol s, pos⟩ :: rest := by
  unfold symbol? at found
  split at found
  · split at found
    · rename_i same
      cases found
      exact ⟨_, by rw [same]⟩
    · cases found
  · cases found

theorem expect_symbol_ok (s : Symbol) (tokens rest : List Token) (found : expectSymbol s tokens = .ok rest) :
    ∃ pos, tokens = ⟨.symbol s, pos⟩ :: rest := by
  unfold expectSymbol at found
  split at found
  · rename_i here
    cases found
    exact symbol_some s tokens _ here
  · cases found

theorem closed_ok {α : Type} (s : Symbol) (tokens rest : List Token) (a b : α)
    (read : (expectSymbol s tokens).map (a, ·) = .ok (b, rest)) : b = a ∧ ∃ pos, tokens = ⟨.symbol s, pos⟩ :: rest := by
  obtain ⟨after, found, same⟩ := map_ok _ _ _ read
  cases same
  exact ⟨rfl, expect_symbol_ok s tokens rest found⟩

theorem expect_name_ok (tokens rest : List Token) (id : String) (pos : Nat)
    (found : expectName tokens = .ok ((id, pos), rest)) : tokens = ⟨.ident id, pos⟩ :: rest := by
  unfold expectName at found
  split at found
  · cases found
    rfl
  · cases found

theorem operator_some (p : Nat) (tokens rest : List Token) (op : BinaryOp) (low : 1 ≤ p) (high : p ≤ 6)
    (found : operator? (opsAt p) tokens = some (op, rest)) :
    op.power = p ∧ ∃ pos, tokens = ⟨.symbol op.symbol, pos⟩ :: rest := by
  unfold operator? at found
  split at found
  · rename_i s pos more
    obtain ⟨op', here, same⟩ := Option.map_eq_some_iff.mp found
    cases same
    interval_cases p <;> cases s <;> cases here <;> exact ⟨rfl, pos, rfl⟩
  · cases found

theorem record_key_ok (tokens rest : List Token) (key : String) (found : recordKey tokens = .ok (key, rest)) :
    ∃ l pos, tokens = ⟨l, pos⟩ :: rest ∧ Solid [l] ∧ IsKey l key := by
  unfold recordKey at found
  split at found
  · cases found
    exact ⟨_, _, rfl, ⟨by simp, by simp⟩, .name key⟩
  · cases found
    exact ⟨_, _, rfl, ⟨by simp, by simp⟩, .quoted key⟩
  · cases found

theorem keys_distinct_with (before : List (String × Expr)) (key : String) (value : Expr) (distinct : (before.reverse.map (·.1)).Nodup)
    (absent : ¬ before.any (·.1 == key) = true) : ((((key, value) :: before).reverse).map (·.1)).Nodup := by
  rw [List.map_reverse, List.nodup_reverse] at distinct ⊢
  refine List.nodup_cons.mpr ⟨?_, distinct⟩
  intro member
  obtain ⟨other, among, same⟩ := List.mem_map.mp member
  exact absent (List.any_eq_true.mpr ⟨other, among, by simpa using same⟩)

section Loops

variable {d : Nat} {nested : Parser Expr} (faithful : Faithful (Derived d .nested) nested)
include faithful

-- In each loop every round takes a token, so the rounds last as long as there are tokens.
theorem further_take (rounds : Nat) : ∀ before tokens es rest, tokens.length < rounds →
    argumentsFrom nested rounds before tokens = .ok (es, rest) →
      ∃ more, es = before.reverse ++ more ∧ Takes (Derived d .further) tokens rest more := by
  induction rounds with
  | zero => intro before tokens es rest enough; omega
  | succ rounds ih =>
    intro before tokens es rest enough read
    rw [argumentsFrom] at read
    cases comma : symbol? .comma tokens with
    | none =>
      rw [comma] at read
      obtain ⟨rfl, pos, rfl⟩ := closed_ok _ _ _ _ _ read
      exact ⟨[], by simp, takes_one _ pos (solid_symbol _) .furtherClosed⟩
    | some after =>
      simp only [comma] at read
      obtain ⟨pos, rfl⟩ := symbol_some _ _ _ comma
      split at read
      · cases read
      rename_i arg later here
      have part := faithful _ _ _ here
      have shorter := takes_length part
      obtain ⟨more, rfl, following⟩ := ih _ _ _ _ (by simp at enough; omega) read
      have led : Takes (fun ls es => Derives d (.symbol .comma :: ls) (.further es)) after rest (arg :: more) :=
        takes_append part following fun ls ms one others => .furtherMore one others
      exact ⟨arg :: more, by simp, takes_cons _ pos (solid_symbol _) led fun ls all => all⟩

theorem arguments_take (tokens : List Token) (es : List Expr) (rest : List Token)
    (read : arguments nested tokens = .ok (es, rest)) : Takes (Derived d .arguments) tokens rest es := by
  rw [arguments] at read
  cases close : symbol? .closeParen tokens with
  | some after =>
    rw [close] at read
    cases read
    obtain ⟨pos, rfl⟩ := symbol_some _ _ _ close
    exact takes_one _ pos (solid_symbol _) .argumentsNone
  | none =>
    simp only [close] at read
    split at read
    · cases read
    rename_i arg later here
    obtain ⟨more, rfl, following⟩ := further_take faithful _ _ _ _ _ (Nat.lt_succ_self _) read
    exact takes_append (faithful _ _ _ here) following fun ls ms one others => .argumentsSome one others

theorem items_take (rounds : Nat) : ∀ before tokens es rest, tokens.length < rounds →
    items nested rounds before tokens = .ok (es, rest) →
      ∃ more, es = before.reverse ++ more ∧ Takes (Derived d .items) tokens rest more := by
  induction rounds with
  | zero => intro before tokens es rest enough; omega
  | succ rounds ih =>
    intro before tokens es rest enough read
    rw [items] at read
    cases close : symbol? .closeBracket tokens with
    | some after =>
      rw [close] at read
      cases read
      obtain ⟨pos, rfl⟩ := symbol_some _ _ _ close
      exact ⟨[], by simp, takes_one _ pos (solid_symbol _) .itemsClosed⟩
    | none =>
      simp only [close] at read
      split at read
      · cases read
      rename_i item later here
      have part := faithful _ _ _ here
      have shorter := takes_length part
      cases comma : symbol? .comma later with
      | none =>
        rw [comma] at read
        obtain ⟨rfl, pos, rfl⟩ := closed_ok _ _ _ _ _ read
        exact ⟨[item], by simp, takes_then _ pos (solid_symbol _) part fun ls one => .itemsLast one⟩
      | some after =>
        rw [comma] at read
        obtain ⟨pos, rfl⟩ := symbol_some _ _ _ comma
        obtain ⟨more, rfl, following⟩ := ih _ _ _ _ (by simp at shorter enough; omega) read
        exact ⟨item :: more, by simp,
          takes_between _ pos (solid_symbol _) part following fun ls ms one others => .itemsMore one others⟩

theorem entries_take (rounds : Nat) : ∀ before tokens fields rest, tokens.length < rounds →
    (before.reverse.map (·.1)).Nodup → entries nested rounds before tokens = .ok (fields, rest) →
      ∃ more, fields = before.reverse ++ more ∧ (fields.map (·.1)).Nodup ∧ Takes (Derived d .entries) tokens rest more := by
  induction rounds with
  | zero => intro before tokens fields rest enough; omega
  | succ rounds ih =>
    intro before tokens fields rest enough distinct read
    rw [entries] at read
    cases close : symbol? .closeBrace tokens with
    | some after =>
      rw [close] at read
      cases read
      obtain ⟨pos, rfl⟩ := symbol_some _ _ _ close
      exact ⟨[], by simp, distinct, takes_one _ pos (solid_symbol _) .entriesClosed⟩
    | none =>
      simp only [close] at read
      split at read
      · cases read
      rename_i key later keyed
      obtain ⟨l, pos, rfl, one, isKey⟩ := record_key_ok _ _ _ keyed
      split at read
      · cases read
      rename_i absent
      split at read
      · cases read
      rename_i after colon
      obtain ⟨pos', rfl⟩ := expect_symbol_ok _ _ _ colon
      split at read
      · cases read
      rename_i value last here
      have part := faithful _ _ _ here
      have shorter := takes_length part
      have unique := keys_distinct_with before key value distinct absent
      cases comma : symbol? .comma last with
      | none =>
        rw [comma] at read
        obtain ⟨rfl, endPos, rfl⟩ := closed_ok _ _ _ _ _ read
        refine ⟨[(key, value)], by simp, unique, ?_⟩
        exact takes_cons l pos one (takes_cons _ pos' (solid_symbol _)
          (takes_then _ endPos (solid_symbol _) part fun ls one => .entriesLast isKey one) fun ls all => all) fun ls all => all
      | some final =>
        rw [comma] at read
        obtain ⟨endPos, rfl⟩ := symbol_some _ _ _ comma
        obtain ⟨more, rfl, unique, following⟩ := ih ((key, value) :: before) _ _ _ (by simp at shorter enough; omega) unique read
        refine ⟨(key, value) :: more, by simp, unique, ?_⟩
        exact takes_cons l pos one (takes_cons _ pos' (solid_symbol _)
          (takes_between _ endPos (solid_symbol _) part following fun ls ms one others => .entriesMore isKey one others)
          fun ls all => all) fun ls all => all

theorem primary_take : Faithful (Derived d (.expr 9)) (primary nested) := by
  intro tokens e rest read
  unfold primary at read
  split at read
  · cases read
    exact takes_one _ _ ⟨by simp, by simp⟩ (.number _)
  · cases read
    exact takes_one _ _ ⟨by simp, by simp⟩ (.string _)
  · cases read
    exact takes_one _ _ ⟨by simp, by simp⟩ (.word _)
  · rename_i pos after
    split at read
    · cases read
    rename_i inner later here
    obtain ⟨rfl, pos', rfl⟩ := closed_ok _ _ _ _ _ read
    have closed : Takes (fun ls e => Derives d (.symbol .openParen :: ls) (.expr 9 e)) after rest e :=
      takes_then _ pos' (solid_symbol _) (faithful _ _ _ here) fun ls one => .paren one
    exact takes_cons _ pos (solid_symbol _) closed fun ls all => all
  · rename_i pos after
    obtain ⟨⟨es, later⟩, here, same⟩ := map_ok _ _ _ read
    cases same
    obtain ⟨more, same, taken⟩ := items_take faithful _ _ _ _ _ (Nat.lt_succ_self _) here
    rw [List.reverse_nil, List.nil_append] at same
    exact takes_cons _ pos (solid_symbol _) taken fun ls all => by rw [same]; exact .list all
  · rename_i pos after
    obtain ⟨⟨fields, later⟩, here, same⟩ := map_ok _ _ _ read
    cases same
    obtain ⟨more, same, unique, taken⟩ := entries_take faithful _ _ _ _ _ (Nat.lt_succ_self _) (by simp) here
    rw [List.reverse_nil, List.nil_append] at same
    exact takes_cons _ pos (solid_symbol _) taken fun ls all => .record unique (by rw [same]; exact all)
  · cases read

theorem postfix_from_take (rounds : Nat) : ∀ obj tokens e rest front, Derives d front (.expr 9 obj) →
    postfixFrom nested rounds obj tokens = .ok (e, rest) →
      Takes (fun ls e => Derives d (front ++ ls) (.expr 9 e)) tokens rest e := by
  induction rounds with
  | zero =>
    intro obj tokens e rest front start read
    cases read
    exact ⟨[], rfl, solid_nil, by simpa [lexemes] using start⟩
  | succ rounds ih =>
    intro obj tokens e rest front start read
    rw [postfixFrom.eq_def] at read
    dsimp only at read
    split at read
    · rename_i pos after
      split at read
      · cases read
      rename_i id pos' later named
      obtain rfl := expect_name_ok _ _ _ _ named
      have following := ih _ _ _ _ _ (.member id start) read
      have named : Takes (fun ls e => Derives d (front ++ .symbol .dot :: ls) (.expr 9 e)) (⟨.ident id, pos'⟩ :: later) rest e :=
        takes_cons _ pos' ⟨by simp, by simp⟩ following fun ls all => by simpa using all
      exact takes_cons _ pos (solid_symbol _) named fun ls all => all
    · rename_i pos after
      split at read
      · cases read
      rename_i key later here
      split at read
      · cases read
      rename_i final closing
      obtain ⟨pos', rfl⟩ := expect_symbol_ok _ _ _ closing
      obtain ⟨inside, rfl, solid, one⟩ := faithful _ _ _ here
      obtain ⟨back, rfl, solid', all⟩ := ih _ _ _ _ _ (.index start one) read
      refine ⟨⟨.symbol .openBracket, pos⟩ :: (inside ++ ⟨.symbol .closeBracket, pos'⟩ :: back), by simp, ?_, ?_⟩
      · have closed := solid_cons (.symbol .closeBracket) _ (solid_symbol _) solid'
        simpa [lexemes] using solid_cons (.symbol .openBracket) _ (solid_symbol _) (solid_append _ _ solid closed)
      · simpa [lexemes] using all
    · rename_i pos after
      split at read
      · cases read
      rename_i args later here
      obtain ⟨inside, rfl, solid, all⟩ := arguments_take faithful _ _ _ here
      obtain ⟨back, rfl, solid', whole⟩ := ih _ _ _ _ _ (.call start all) read
      refine ⟨⟨.symbol .openParen, pos⟩ :: (inside ++ back), by simp, ?_, ?_⟩
      · simpa [lexemes] using solid_cons (.symbol .openParen) _ (solid_symbol _) (solid_append _ _ solid solid')
      · simpa [lexemes] using whole
    · cases read
      exact ⟨[], rfl, solid_nil, by simpa [lexemes] using start⟩

theorem postfixed_take : Faithful (Derived d (.expr 9)) (postfixed nested) := by
  intro tokens e rest read
  rw [postfixed] at read
  split at read
  · cases read
  rename_i obj later here
  obtain ⟨front, rfl, solid, start⟩ := primary_take faithful _ _ _ here
  obtain ⟨back, rfl, solid', whole⟩ := postfix_from_take faithful _ _ _ _ _ _ start read
  refine ⟨front ++ back, (List.append_assoc _ _ _).symm, ?_, ?_⟩
  · simpa [lexemes] using solid_append _ _ solid solid'
  · simpa [Derived, lexemes] using whole

end Loops

theorem unary_op_some (tokens rest : List Token) (op : UnaryOp) (found : unaryOp? tokens = some (op, rest)) :
    ∃ pos, tokens = ⟨.symbol op.symbol, pos⟩ :: rest := by
  unfold unaryOp? at found
  split at found <;> cases found <;> exact ⟨_, rfl⟩

theorem unary_over_take {d : Nat} {operand nested : Parser Expr} (faithful : Faithful (Derived d .nested) nested)
    (under : ∀ op, Faithful (fun ls e => Derives d (.symbol op.symbol :: ls) (.expr 7 (.unary op e))) operand) :
    Faithful (Derived d (.expr 7)) (unaryOver operand nested) := by
  intro tokens e rest read
  rw [unaryOver] at read
  cases op? : unaryOp? tokens with
  | none =>
    rw [op?] at read
    obtain ⟨front, rfl, solid, postfixed⟩ := postfixed_take faithful _ _ _ read
    exact ⟨front, rfl, solid, .loosen (by decide) postfixed⟩
  | some found =>
    obtain ⟨op, after⟩ := found
    simp only [op?] at read
    obtain ⟨pos, rfl⟩ := unary_op_some _ _ _ op?
    obtain ⟨⟨below, later⟩, here, same⟩ := map_ok _ _ _ read
    cases same
    exact takes_cons _ pos (solid_symbol _) (under op _ _ _ here) fun ls one => one

theorem chain_from_take {d p : Nat} {operand : Parser Expr} (low : 1 ≤ p) (high : p ≤ 6)
    (faithful : Faithful (Derived d (.expr (p + 1))) operand) (rounds : Nat) :
    ∀ left tokens e rest front, Derives d front (.expr p left) → chainFrom (opsAt p) operand rounds left tokens = .ok (e, rest) →
      Takes (fun ls e => Derives d (front ++ ls) (.expr p e)) tokens rest e := by
  induction rounds with
  | zero =>
    intro left tokens e rest front start read
    cases read
    exact ⟨[], rfl, solid_nil, by simpa [lexemes] using start⟩
  | succ rounds ih =>
    intro left tokens e rest front start read
    rw [chainFrom] at read
    cases op? : operator? (opsAt p) tokens with
    | none =>
      rw [op?] at read
      cases read
      exact ⟨[], rfl, solid_nil, by simpa [lexemes] using start⟩
    | some found =>
      obtain ⟨op, after⟩ := found
      obtain ⟨rfl, pos, rfl⟩ := operator_some p _ _ _ low high op?
      simp only [op?] at read
      split at read
      · cases read
      rename_i right later here
      obtain ⟨inside, rfl, solid, one⟩ := faithful _ _ _ here
      obtain ⟨back, rfl, solid', whole⟩ := ih _ _ _ _ _ (.binary op start one) read
      refine ⟨⟨.symbol op.symbol, pos⟩ :: (inside ++ back), by simp, ?_, ?_⟩
      · simpa [lexemes] using solid_cons (.symbol op.symbol) _ (solid_symbol _) (solid_append _ _ solid solid')
      · simpa [lexemes] using whole

-- From the tightest level to the loosest; the count of levels left goes up as the power goes down.
theorem binary_at_take (d : Nat) (unary : Faithful (Derived d (.expr 7)) (unaryAt d)) (i : Nat) :
    ∀ p, 1 ≤ p → p + i = 7 → Faithful (Derived d (.expr p)) (binaryAt d p) := by
  induction i with
  | zero =>
    intro p _ top
    obtain rfl : p = 7 := top
    exact unary
  | succ i ih =>
    intro p low count tokens e rest read
    have tighter := ih (p + 1) (by omega) (by omega)
    rw [binary_at_eq d p low (by omega), chain] at read
    split at read
    · cases read
    rename_i left later here
    obtain ⟨front, rfl, solid, one⟩ := tighter _ _ _ here
    have first : Derives d (lexemes front) (.expr p left) := .loosen (by push_cast; omega) one
    obtain ⟨back, rfl, solid', whole⟩ := chain_from_take low (by omega) tighter _ _ _ _ _ _ first read
    refine ⟨front ++ back, (List.append_assoc _ _ _).symm, ?_, ?_⟩
    · simpa [lexemes] using solid_append _ _ solid solid'
    · simpa [Derived, lexemes] using whole

theorem expr_over_take (d : Nat) (nested : Faithful (Derived d .nested) (exprAt d))
    (unary : Faithful (Derived d (.expr 7)) (unaryAt d)) :
    Faithful (Derived d (.expr (-1))) (exprAt (d + 1)) := by
  intro tokens e rest read
  rw [expr_at_succ, exprOver] at read
  cases arrow : symbol? .arrow tokens with
  | some after =>
    obtain ⟨pos, rfl⟩ := symbol_some _ _ _ arrow
    simp only [arrow] at read
    obtain ⟨⟨body, later⟩, here, same⟩ := map_ok _ _ _ read
    cases same
    exact takes_cons _ pos (solid_symbol _) (nested _ _ _ here) fun ls one => .deferred one
  | none =>
    simp only [arrow] at read
    split at read
    · cases read
    rename_i test later here
    have tested : Takes (Derived d (.expr 1)) tokens later test :=
      binary_at_take d unary 6 1 (by decide) rfl _ _ _ here
    cases asked : symbol? .question later with
    | none =>
      rw [asked] at read
      cases read
      obtain ⟨front, rfl, solid, one⟩ := tested
      exact ⟨front, rfl, solid, .loosen (by decide) one⟩
    | some after =>
      obtain ⟨pos, rfl⟩ := symbol_some _ _ _ asked
      simp only [asked] at read
      split at read
      · cases read
      rename_i consequent middle chosen
      split at read
      · cases read
      rename_i after colon
      obtain ⟨pos', rfl⟩ := expect_symbol_ok _ _ _ colon
      obtain ⟨⟨alternative, last⟩, otherwise, same⟩ := map_ok _ _ _ read
      cases same
      obtain ⟨front, rfl, solid, whether⟩ := tested
      obtain ⟨inside, rfl, solid', one⟩ := nested _ _ _ chosen
      obtain ⟨back, rfl, solid'', other⟩ := nested _ _ _ otherwise
      refine ⟨front ++ (⟨.symbol .question, pos⟩ :: (inside ++ ⟨.symbol .colon, pos'⟩ :: back)), by simp, ?_, ?_⟩
      · have last := solid_cons (.symbol .colon) _ (solid_symbol _) solid''
        have later := solid_cons (.symbol .question) _ (solid_symbol _) (solid_append _ _ solid' last)
        simpa [lexemes] using solid_append _ _ solid later
      · have whole : Derives d _ (.expr (-1) _) := .loosen (by decide) (.conditional whether one other)
        simpa [Derived, lexemes] using whole

theorem levels_take (d : Nat) : Faithful (Derived d .nested) (exprAt d) ∧ Faithful (Derived d (.expr 7)) (unaryAt d) := by
  induction d with
  | zero =>
    have deep : Faithful (Derived 0 .nested) (exprAt 0) := nofun
    refine ⟨deep, ?_⟩
    rw [unary_at_eq]
    exact unary_over_take deep nofun
  | succ d ih =>
    have expr : Faithful (Derived (d + 1) .nested) (exprAt (d + 1)) := by
      intro tokens e rest read
      obtain ⟨front, rfl, solid, whole⟩ := expr_over_take d ih.1 ih.2 _ _ _ read
      exact ⟨front, rfl, solid, .nested whole⟩
    refine ⟨expr, ?_⟩
    rw [unary_at_eq]
    apply unary_over_take expr
    intro op tokens e rest read
    obtain ⟨front, rfl, solid, operand⟩ := ih.2 _ _ _ read
    exact ⟨front, rfl, solid, .unary op operand⟩

theorem expr_takes (tokens : List Token) (e : Expr) (rest : List Token) (read : Parser.expr tokens = .ok (e, rest)) :
    Takes (Derived 63 (.expr (-1))) tokens rest e :=
  expr_over_take 63 (levels_take 63).1 (levels_take 63).2 tokens e rest read

end DamagePlan.Script.Parser
