import DamagePlan.Proofs.Script.Reading
import DamagePlan.Proofs.Script.Scanned

/-!
The language of the parser: the texts that are read, and what they are read as, by the grammar alone.
-/
set_option autoImplicit false

namespace DamagePlan.Script

open DamagePlan.Script.Parser (Carries Derives Solid atEnd carries_append carries_cons carries_singleton expr_takes
  lexemes pull pullOf skipNewlines solid_append)

inductive Lined : Bool → List Lexeme → Prop
  | finished : Lined false [.eof]
  | newline {ls : List Lexeme} (following : Lined false ls) : Lined true (.newline :: ls)
  | lexeme {begun : Bool} {l : Lexeme} {ls : List Lexeme} (one : Solid [l]) (following : Lined true ls) :
      Lined begun (l :: ls)

theorem Scanned.lined {pos : Nat} {closers : List Symbol} {begun : Bool} {u : List Char} {tokens : List Token}
    (scanned : Scanned pos closers begun u tokens) : Lined begun (lexemes tokens) := by
  induction scanned with
  | ended pos => exact .finished
  | lastLine pos => exact .newline .finished
  | newline later ih => exact .newline ih
  | lexeme opens read step later ih => exact .lexeme (lexeme_closed _ _ _ _ _ _ read).1 ih
  | comment oneLine ends later ih => exact ih
  | idle within later ih => exact ih
  | blank isBlank later ih => exact ih

theorem tokenize_lined (text : String) (tokens : List Token) (split : tokenize text = .ok tokens) :
    Lined false (lexemes tokens) :=
  (tokenize_scanned text tokens split).lined

theorem Lined.after_newline {begun : Bool} {ls : List Lexeme} (lined : Lined begun (.newline :: ls)) : Lined false ls := by
  cases lined with
  | newline following => exact following
  | lexeme one _ => exact absurd List.mem_cons_self one.1

theorem Lined.after_end {begun : Bool} {ls : List Lexeme} (lined : Lined begun (.eof :: ls)) : begun = false ∧ ls = [] := by
  cases lined with
  | finished => exact ⟨rfl, rfl⟩
  | lexeme one _ => exact absurd List.mem_cons_self one.2

theorem Lined.after_lexeme {begun : Bool} {l : Lexeme} {ls : List Lexeme} (lined : Lined begun (l :: ls))
    (one : Solid [l]) : Lined true ls := by
  cases lined with
  | finished => exact absurd List.mem_cons_self one.2
  | newline following => exact absurd List.mem_cons_self one.1
  | lexeme _ following => exact following

theorem Lined.after {begun : Bool} {ls ms : List Lexeme} (lined : Lined begun (ls ++ ms)) (solid : Solid ls) :
    Lined (begun || !ls.isEmpty) ms := by
  induction ls generalizing begun with
  | nil => simpa using lined
  | cons l ls ih =>
    simp only [Solid, List.mem_cons, not_or] at solid
    have following := lined.after_lexeme ⟨by simpa using solid.1.1, by simpa using solid.2.1⟩
    simpa using ih following ⟨solid.1.2, solid.2.2⟩

theorem Lined.skip {tokens : List Token} (lined : Lined false (lexemes tokens)) : skipNewlines tokens = tokens := by
  cases tokens with
  | nil => rfl
  | cons token tokens =>
    obtain ⟨l, pos⟩ := token
    cases l with
    | newline =>
      cases lined with
      | lexeme one _ => exact absurd List.mem_cons_self one.1
    | _ => rfl

theorem Lined.at_end {begun : Bool} {tokens : List Token} (lined : Lined begun (lexemes tokens))
    (done : atEnd tokens = true) : begun = false ∧ lexemes tokens = [.eof] := by
  cases tokens with
  | nil => cases lined
  | cons token tokens =>
    obtain ⟨l, pos⟩ := token
    have isEnd : l = .eof := by
      cases l <;> first | rfl | cases done
    subst isEnd
    obtain ⟨idle, none⟩ := lined.after_end
    exact ⟨idle, by simpa [lexemes] using none⟩

def Expresses (ls : List Lexeme) (e : Expr) : Prop :=
  ∃ ms k, ls = ms ++ (List.replicate k .newline ++ [.eof]) ∧ Derives maxDepth ms (.nested e)

theorem trailing_newlines (k : Nat) : ∀ tokens, lexemes tokens = List.replicate k .newline ++ [.eof] →
    pullOf tokens < 0 ∧ atEnd (skipNewlines tokens) = true := by
  induction k with
  | zero =>
    intro tokens trailing
    obtain ⟨pos, rfl⟩ := carries_singleton tokens _ trailing
    exact ⟨by simp [pull], rfl⟩
  | succ k ih =>
    intro tokens trailing
    obtain ⟨pos, back, rfl, tail⟩ := carries_cons tokens _ _ trailing
    exact ⟨by simp [pull], (ih back tail).2⟩

theorem Lined.trailing {begun : Bool} {tokens : List Token} (lined : Lined begun (lexemes tokens))
    (done : atEnd (skipNewlines tokens) = true) : ∃ k, lexemes tokens = List.replicate k .newline ++ [.eof] := by
  cases tokens with
  | nil => cases lined
  | cons token tokens =>
    obtain ⟨l, pos⟩ := token
    by_cases newline : l = .newline
    · subst newline
      have following : Lined false (lexemes tokens) := lined.after_newline
      -- a newline is never followed by another one, so at most one is there to be skipped
      have last := following.at_end (by rw [← following.skip]; exact done)
      exact ⟨1, by simpa [lexemes] using last.2⟩
    · have here : skipNewlines (⟨l, pos⟩ :: tokens) = ⟨l, pos⟩ :: tokens := by
        cases l <;> first | rfl | exact absurd rfl newline
      rw [here] at done
      exact ⟨0, (lined.at_end done).2⟩

theorem parse_expression_eq (text : String) (tokens : List Token) (split : tokenize text = .ok tokens) (e : Expr) :
    parseExpression text = .ok e ↔
      ∃ rest, Parser.expr tokens = .ok (e, rest) ∧ atEnd (skipNewlines rest) = true := by
  simp only [parseExpression, split]
  constructor
  · intro parsed
    obtain ⟨_, same, parsed⟩ := bind_ok _ _ _ parsed
    cases same
    obtain ⟨⟨value, rest⟩, read, parsed⟩ := bind_ok _ _ _ parsed
    dsimp only at parsed
    by_cases done : atEnd (skipNewlines rest) = true
    · rw [if_pos done] at parsed
      cases parsed
      exact ⟨rest, read, done⟩
    · rw [if_neg done] at parsed
      cases parsed
  · rintro ⟨rest, read, done⟩
    simp only [bind, Except.bind, read, done]
    rfl

theorem expression_sound (text : String) (tokens : List Token) (split : tokenize text = .ok tokens) (e : Expr)
    (parsed : parseExpression text = .ok e) : Expresses (lexemes tokens) e := by
  obtain ⟨rest, read, done⟩ := (parse_expression_eq text tokens split e).mp parsed
  obtain ⟨front, rfl, solid, derived⟩ := expr_takes tokens e rest read
  have lined := tokenize_lined text _ split
  rw [lexemes, List.map_append] at lined
  obtain ⟨k, trailing⟩ := (lined.after solid).trailing done
  refine ⟨lexemes front, k, ?_, .nested derived⟩
  rw [← trailing, lexemes, List.map_append]
  rfl

theorem expression_complete (text : String) (tokens : List Token) (split : tokenize text = .ok tokens) (e : Expr)
    (expresses : Expresses (lexemes tokens) e) : parseExpression text = .ok e := by
  obtain ⟨ms, k, shape, derived⟩ := expresses
  obtain ⟨front, back, rfl, carried, trailing⟩ := carries_append tokens _ _ shape
  obtain ⟨n, shallow, phrase⟩ := derived.read
  obtain ⟨free, done⟩ := trailing_newlines k back trailing
  have read := (expr_reads ms e (-1) n phrase front back carried free).2 (Nat.le_of_lt_succ shallow)
  exact (parse_expression_eq text _ split e).mpr ⟨back, read, done⟩

theorem derives_unique {d d' : Nat} {ls : List Lexeme} {e e' : Expr} (one : Derives d ls (.nested e))
    (other : Derives d' ls (.nested e')) : e = e' := by
  obtain ⟨n, _, phrase⟩ := one.read
  obtain ⟨n', _, phrase'⟩ := other.read
  let tokens : List Token := ls.map fun l => ⟨l, 0⟩
  have carried : Carries tokens ls := by simp [Carries, tokens, Function.comp_def]
  -- both readings are those of one parser that has room enough for either
  have read := phrase.expr (max n n') tokens [] (Nat.le_max_left _ _) carried (by decide)
  have read' := phrase'.expr (max n n') tokens [] (Nat.le_max_right _ _) carried (by decide)
  rw [read] at read'
  cases read'
  rfl

inductive Lists : List Lexeme → List Assignment → Prop
  | done : Lists [.eof] []
  | line {name : String} {e : Expr} {ls rest : List Lexeme} {more : List Assignment} (free : name ∉ keywords)
      (value : Derives maxDepth ls (.nested e)) (following : Lists rest more) :
      Lists (.ident name :: .symbol .assign :: (ls ++ .newline :: rest)) (⟨name, e⟩ :: more)

theorem assignments_list (rounds : Nat) : ∀ before tokens all rest, tokens.length ≤ rounds →
    Lined false (lexemes tokens) → Parser.assignments rounds before tokens = .ok (all, rest) →
      ∃ more, all = before.reverse ++ more ∧ Lists (lexemes tokens) more := by
  induction rounds with
  | zero =>
    intro before tokens all rest enough lined _
    obtain rfl := List.length_eq_zero_iff.mp (Nat.le_zero.mp enough)
    cases lined
  | succ rounds ih =>
    intro before tokens all rest enough lined read
    rw [Parser.assignments] at read
    by_cases done : atEnd tokens = true
    · rw [if_pos done] at read
      cases read
      exact ⟨[], by simp, by rw [(lined.at_end done).2]; exact .done⟩
    rw [if_neg done] at read
    split at read
    · cases read
    rename_i name pos later named
    obtain rfl := Parser.expect_name_ok _ _ _ _ named
    split at read
    · cases read
    rename_i word
    split at read
    · cases read
    rename_i after assign
    obtain ⟨signPos, rfl⟩ := Parser.expect_symbol_ok _ _ _ assign
    split at read
    · cases read
    rename_i value left here
    obtain ⟨front, rfl, solid, derived⟩ := expr_takes _ _ _ here
    have begun : Lined true (lexemes left) := by
      have whole : Lined false ([.ident name, .symbol .assign] ++ lexemes front ++ lexemes left) := by
        simpa [lexemes] using lined
      simpa using whole.after (solid_append _ _ ⟨by simp, by simp⟩ solid)
    cases left with
    | nil => cases begun
    | cons token left =>
      obtain ⟨l, endPos⟩ := token
      by_cases newline : l = .newline
      · subst newline
        have following : Lined false (lexemes left) := begun.after_newline
        dsimp only at read
        rw [following.skip] at read
        obtain ⟨more, rfl, lists⟩ := ih _ _ _ _ (by simp at enough; omega) following read
        refine ⟨⟨name, value⟩ :: more, by simp, ?_⟩
        have free : name ∉ keywords := fun member => word (List.contains_iff_mem.mpr member)
        simpa [lexemes] using Lists.line free (.nested derived) lists
      · have open_ : atEnd (⟨l, endPos⟩ :: left) ≠ true := fun final =>
          absurd (begun.at_end final).1 (by decide)
        cases l <;> simp_all [Parser.failHere]

theorem lists_assigned {ls : List Lexeme} {all : List Assignment} (lists : Lists ls all) :
    ∃ lss, List.Forall₂ (Assigned 63) lss all ∧ ls = lss.flatten ++ [.eof] := by
  induction lists with
  | done => exact ⟨[], .nil, rfl⟩
  | line free value _ ih =>
    obtain ⟨lss, assigned, rfl⟩ := ih
    obtain ⟨n, shallow, phrase⟩ := value.read
    exact ⟨_ :: lss, .cons ⟨free, _, rfl, phrase.mono (Nat.le_of_lt_succ shallow)⟩ assigned, by simp [lineOf]⟩

theorem script_sound (text : String) (tokens : List Token) (split : tokenize text = .ok tokens) (s : Program)
    (parsed : parseScript text = .ok s) : s.header = "" ∧ Lists (lexemes tokens) s.assignments := by
  have lined := tokenize_lined text tokens split
  simp only [parseScript, split] at parsed
  obtain ⟨_, same, parsed⟩ := bind_ok _ _ _ parsed
  cases same
  obtain ⟨⟨all, rest⟩, read, parsed⟩ := bind_ok _ _ _ parsed
  cases parsed
  rw [lined.skip] at read
  obtain ⟨more, same, lists⟩ := assignments_list _ _ _ _ _ (Nat.le_refl _) lined read
  rw [List.reverse_nil, List.nil_append] at same
  exact ⟨rfl, by rw [same]; exact lists⟩

theorem script_complete (text : String) (tokens : List Token) (split : tokenize text = .ok tokens)
    (all : List Assignment) (lists : Lists (lexemes tokens) all) : parseScript text = .ok { assignments := all } := by
  obtain ⟨lss, assigned, shape⟩ := lists_assigned lists
  obtain ⟨front, back, rfl, carried, ending⟩ := carries_append tokens _ _ shape
  obtain ⟨pos, rfl⟩ := carries_singleton back _ ending
  have count := lines_length lss all (assigned.imp fun _ _ ⟨_, ms, shape, _⟩ => ⟨ms, shape⟩) front carried
  have read := assignments_read 63 lss all assigned (Nat.le_refl _) front pos (front ++ [(⟨.eof, pos⟩ : Token)]).length []
    carried (by simp; omega)
  have begins := assigned_begins (P := fun _ => False) lss all (assigned.imp fun _ _ first => first.settling) front pos carried
  rw [List.reverse_nil, List.nil_append] at read
  simp only [parseScript, split, begins, bind, Except.bind, read]
  rfl

theorem reads_exactly_grammar (text : String) (tokens : List Token) (split : tokenize text = .ok tokens) :
    (∀ e, parseExpression text = .ok e ↔ Expresses (lexemes tokens) e) ∧
    ((∀ e, ¬Expresses (lexemes tokens) e) → ∃ fault, parseExpression text = .error fault) ∧
    (∀ s, parseScript text = .ok s ↔ s.header = "" ∧ Lists (lexemes tokens) s.assignments) ∧
    ((∀ all, ¬Lists (lexemes tokens) all) → ∃ fault, parseScript text = .error fault) ∧
    ∀ d d' ls e e', Derives d ls (.nested e) → Derives d' ls (.nested e') → e = e' := by
  refine ⟨fun e => ⟨expression_sound text tokens split e, expression_complete text tokens split e⟩, ?_,
    fun s => ⟨script_sound text tokens split s, ?_⟩, ?_, fun d d' ls e e' => derives_unique⟩
  · intro none
    cases parsed : parseExpression text with
    | error fault => exact ⟨fault, rfl⟩
    | ok e => exact absurd (expression_sound text tokens split e parsed) (none e)
  · rintro ⟨header, lists⟩
    obtain ⟨_, all⟩ := s
    obtain rfl := header
    exact script_complete text tokens split all lists
  · intro none
    cases parsed : parseScript text with
    | error fault => exact ⟨fault, rfl⟩
    | ok s => exact absurd (script_sound text tokens split s parsed).2 (none s.assignments)

theorem product_is_no_script : (∃ tokens, tokenize "a * b" = .ok tokens) ∧
    parseExpression "a * b" = .ok (.binary .multiply (.name "a") (.name "b")) ∧
    ∃ fault, parseScript "a * b" = .error fault := by
  let tokens : List Token := [⟨.ident "a", 0⟩, ⟨.symbol .star, 2⟩, ⟨.ident "b", 4⟩, ⟨.newline, 5⟩, ⟨.eof, 5⟩]
  have split : tokenize "a * b" = .ok tokens := rfl
  obtain ⟨expression, -, -, script, -⟩ := reads_exactly_grammar "a * b" tokens split
  refine ⟨⟨tokens, split⟩, (expression _).mpr ⟨[.ident "a", .symbol .star, .ident "b"], 1, rfl, ?_⟩, script ?_⟩
  · have left : Derives 63 [.ident "a"] (.expr BinaryOp.multiply.power (.name "a")) := .loosen (by decide) (.word "a")
    have right : Derives 63 [.ident "b"] (.expr (BinaryOp.multiply.power + 1) (.name "b")) := .loosen (by decide) (.word "b")
    exact .nested (.loosen (by decide) (.binary .multiply left right))
  · intro all lists
    cases lists

end DamagePlan.Script
