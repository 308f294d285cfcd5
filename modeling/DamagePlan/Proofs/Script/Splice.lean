import Mathlib.Data.List.TakeWhile
import DamagePlan.Script.Acceptance
import DamagePlan.Proofs.Script.Legible
import DamagePlan.Proofs.Script.LexemeText

/-!
A text that is scanned by itself and in parentheses is scanned alike wherever it stands in parentheses.
-/
set_option autoImplicit false

namespace DamagePlan.Script

open Text
open DamagePlan.Script.Parser (Solid solid_nil solid_cons solid_symbol)

theorem lexeme_closed (c : Char) (u after : List Char) (l : Lexeme) (pos n : Nat)
    (read : readLexeme (c :: u) pos = .ok (l, after, n)) : Solid [l] ∧ after.length ≤ u.length ∧
      ∀ rest pos', readLexeme (c :: u ++ ')' :: rest) pos' = .ok (l, after ++ ')' :: rest, n) := by
  obtain ⟨text, split, -, textOf, earlier⟩ := lexeme_text c u after l pos n read
  obtain ⟨d, more, rfl, -⟩ := text_begins textOf earlier
  have count := congrArg List.length split
  simp only [List.length_cons, List.length_append] at count
  refine ⟨text_solid textOf earlier, by omega, fun rest pos' => ?_⟩
  refine lexeme_before_stop c u after [] (')' :: rest) l pos pos' n stopped_nil (stopped_cons ')' rest (by decide)) ?_
  rwa [List.append_nil, List.append_nil]

theorem owed_below (closers below owed : List Symbol) (l : Lexeme) (pos pos' : Nat)
    (step : owedAfter closers l pos = .ok owed) : owedAfter (closers ++ below) l pos' = .ok (owed ++ below) := by
  unfold owedAfter at step ⊢
  cases l with
  | symbol s =>
    dsimp only at step ⊢
    cases opens : s.closer? with
    | some closer =>
      rw [opens] at step
      cases step
      rfl
    | none =>
      rw [opens] at step
      dsimp only at step ⊢
      by_cases closes : s.isCloser = true
      · rw [if_pos closes] at step ⊢
        cases closers with
        | nil => cases step
        | cons first closers =>
          dsimp only at step
          by_cases same : first = s
          · rw [if_pos same] at step
            cases step
            simp [same]
          · rw [if_neg same] at step
            cases step
      · rw [if_neg closes] at step ⊢
        cases step
        rfl
  | _ =>
    cases step
    rfl

def words (tokens : List Token) : List Lexeme :=
  (Parser.lexemes tokens).filter fun
    | .newline | .eof => false
    | _ => true

theorem words_cons (l : Lexeme) (pos : Nat) (tokens : List Token) (one : Solid [l]) :
    words (⟨l, pos⟩ :: tokens) = l :: words tokens := by
  cases l with
  | newline => exact absurd List.mem_cons_self one.1
  | eof => exact absurd List.mem_cons_self one.2
  | _ => rfl

-- From these brackets on, the text with a closing parenthesis after it is scanned alike whatever surrounds it.
-- The closers are those that the text itself still owes; below them is the parenthesis around it, and whatever is open there.
structure Splices (u : List Char) (closers : List Symbol) (ls : List Lexeme) : Prop where
  solid : Solid ls
  scans : ∀ below open_ rest, Scans ⟨closers ++ .closeParen :: below, open_, u ++ ')' :: rest⟩
    (ls ++ [.symbol .closeParen]) ⟨below, true, rest⟩

theorem nothing_splices : Splices [] [] [] where
  solid := solid_nil
  scans below open_ rest := closing_scans .paren below open_ rest

theorem comment_splices (line v : List Char) (closers : List Symbol) (ls : List Lexeme) (oneLine : '\n' ∉ line)
    (splices : Splices ('\n' :: v) closers ls) : Splices ('#' :: (line ++ '\n' :: v)) closers ls where
  solid := splices.solid
  scans below open_ rest := by
    have comment : Scans ⟨closers ++ .closeParen :: below, open_, '#' :: (line ++ ('\n' :: v ++ ')' :: rest))⟩ []
        ⟨closers ++ .closeParen :: below, open_, '\n' :: v ++ ')' :: rest⟩ := .comment line _ oneLine (by simp)
    rw [← List.append_assoc] at comment
    exact comment.trans (splices.scans below open_ rest)

theorem newline_splices (u : List Char) (closers : List Symbol) (ls : List Lexeme) (splices : Splices u closers ls) :
    Splices ('\n' :: u) closers ls where
  solid := splices.solid
  scans below open_ rest :=
    (Scans.inner_newline (u ++ ')' :: rest) (by simp)).trans (splices.scans below open_ rest)

theorem blank_splices (c : Char) (u : List Char) (closers : List Symbol) (ls : List Lexeme)
    (blank : isLayoutBlank c = true) (splices : Splices u closers ls) : Splices (c :: u) closers ls where
  solid := splices.solid
  scans below open_ rest := (Scans.blank c (u ++ ')' :: rest) blank).trans (splices.scans below open_ rest)

theorem lexeme_splices (c : Char) (u after : List Char) (closers owed : List Symbol) (l : Lexeme) (ls : List Lexeme)
    (pos n : Nat) (opens : Scans.opensLexeme c = true) (read : readLexeme (c :: u) pos = .ok (l, after, n))
    (step : owedAfter closers l pos = .ok owed) (splices : Splices after owed ls) : Splices (c :: u) closers (l :: ls) := by
  obtain ⟨one, shorter, closed⟩ := lexeme_closed c u after l pos n read
  refine ⟨solid_cons l ls one splices.solid, fun below open_ rest => ?_⟩
  have first : Scans ⟨closers ++ .closeParen :: below, open_, c :: (u ++ ')' :: rest)⟩ [l]
      ⟨owed ++ .closeParen :: below, true, after ++ ')' :: rest⟩ :=
    .lexeme c _ _ l opens (by simp; omega) (fun pos' => ⟨n, closed rest pos'⟩) fun pos' => owed_below _ _ _ _ _ _ step
  exact first.trans (splices.scans below true rest)

theorem finished_scans (fuel pos : Nat) (closers : List Symbol) (lineOpen : Bool) (tokens : List Token)
    (scanned : scan fuel [] pos closers lineOpen = .ok tokens) : closers = [] ∧ words tokens = [] := by
  cases closers with
  | nil => cases lineOpen <;> cases fuel <;> cases scanned <;> exact ⟨rfl, rfl⟩
  | cons owed closers => cases fuel <;> cases scanned

section Rounds

variable {fuel pos : Nat} {u : List Char} {closers : List Symbol} {lineOpen : Bool} {tokens : List Token}

theorem scan_newline (scanned : scan (fuel + 1) ('\n' :: u) pos closers lineOpen = .ok tokens) :
    ∃ lineOpen' more, scan fuel u (pos + 1) closers lineOpen' = .ok more ∧ words tokens = words more := by
  rw [scan, if_neg (by decide), if_pos (by decide)] at scanned
  split at scanned
  · obtain ⟨more, later, rfl⟩ := map_ok _ _ _ scanned
    exact ⟨false, more, later, rfl⟩
  · exact ⟨lineOpen, tokens, scanned, rfl⟩

theorem scan_blank (c : Char) (sign : c ≠ '#') (newline : c ≠ '\n') (blank : isLayoutBlank c = true)
    (scanned : scan (fuel + 1) (c :: u) pos closers lineOpen = .ok tokens) :
    scan fuel u (pos + 1) closers lineOpen = .ok tokens := by
  simpa [scan, sign, newline, blank] using scanned

theorem scan_lexeme (c : Char) (sign : c ≠ '#') (newline : c ≠ '\n') (solid : ¬isLayoutBlank c = true)
    (scanned : scan (fuel + 1) (c :: u) pos closers lineOpen = .ok tokens) : ∃ l after n owed more,
      readLexeme (c :: u) pos = .ok (l, after, n) ∧ owedAfter closers l pos = .ok owed ∧
        scan fuel after (pos + n) owed true = .ok more ∧ tokens = ⟨l, pos⟩ :: more := by
  rw [scan, if_neg (by simpa using sign), if_neg (by simpa using newline), if_neg solid] at scanned
  split at scanned
  · cases scanned
  · rename_i l after n read
    split at scanned
    · cases scanned
    · rename_i owed step
      obtain ⟨more, later, rfl⟩ := map_ok _ _ _ scanned
      exact ⟨l, after, n, owed, more, read, step, later, rfl⟩

end Rounds

def Closes (u : List Char) (closers : List Symbol) : Prop :=
  ∃ fuel pos lineOpen tokens, u.length < fuel ∧ scan fuel (u ++ [')']) pos (closers ++ [.closeParen]) lineOpen = .ok tokens

theorem closes_step (c : Char) (u v : List Char) (closers owed : List Symbol) (closes : Closes (c :: u) closers)
    (shorter : v.length ≤ u.length)
    (step : ∀ fuel pos lineOpen tokens, scan (fuel + 1) (c :: (u ++ [')'])) pos (closers ++ [.closeParen]) lineOpen =
      .ok tokens → ∃ pos' lineOpen' tokens', scan fuel (v ++ [')']) pos' (owed ++ [.closeParen]) lineOpen' = .ok tokens') :
    Closes v owed := by
  obtain ⟨fuel, pos, lineOpen, tokens, enough, scanned⟩ := closes
  obtain ⟨fuel, rfl⟩ : ∃ i, fuel = i + 1 := ⟨fuel - 1, by omega⟩
  obtain ⟨pos', lineOpen', tokens', scanned'⟩ := step fuel pos lineOpen tokens scanned
  exact ⟨fuel, pos', lineOpen', tokens', by simp at enough; omega, scanned'⟩

theorem closes_comment (u : List Char) (closers : List Symbol) (closes : Closes ('#' :: u) closers) :
    ∃ line v, u = line ++ '\n' :: v ∧ '\n' ∉ line ∧ u.dropWhile (· != '\n') = '\n' :: v ∧ Closes ('\n' :: v) closers := by
  have split := List.takeWhile_append_dropWhile (p := (· != '\n')) (l := u)
  have oneLine : '\n' ∉ u.takeWhile (· != '\n') := fun member => by simpa using List.mem_takeWhile_imp member
  cases left : u.dropWhile (· != '\n') with
  | nil =>
    -- a text that ends in a comment would not close: the comment would run on over the parenthesis
    rw [left, List.append_nil] at split
    rw [split] at oneLine
    have none : '\n' ∉ u ++ [')'] := by simp [oneLine]
    obtain ⟨fuel, pos, lineOpen, tokens, enough, scanned⟩ := closes
    obtain ⟨fuel, rfl⟩ : ∃ i, fuel = i + 1 := ⟨fuel - 1, by omega⟩
    have gone : (u ++ [')']).dropWhile (· != '\n') = [] := by
      rw [List.dropWhile_eq_nil_iff]
      intro d member
      simpa using fun same : d = '\n' => none (same ▸ member)
    simp only [List.cons_append, scan, beq_self_eq_true, if_true, gone] at scanned
    cases closers <;> cases (finished_scans _ _ _ _ _ scanned).1
  | cons d v =>
    obtain rfl : d = '\n' := by
      have first := List.head?_dropWhile_not (· != '\n') u
      simpa [left] using first
    have count := congrArg List.length split
    rw [left] at split count
    refine ⟨_, v, split.symm, oneLine, rfl, ?_⟩
    apply closes_step '#' u ('\n' :: v) closers closers closes (by simp at count ⊢; omega)
    intro fuel pos lineOpen tokens step
    have dropped : (u ++ [')']).dropWhile (· != '\n') = '\n' :: v ++ [')'] := by
      rw [← split, List.append_assoc, List.dropWhile_append_of_pos (fun d member => by
        simpa using fun same : d = '\n' => oneLine (same ▸ member))]
      rfl
    simp only [scan, beq_self_eq_true, if_true, dropped] at step
    exact ⟨_, _, _, step⟩

-- The scan of the text by itself keeps its brackets from closing any around it, and the scan in parentheses keeps
-- a comment from hiding the closing one.
theorem scanned_splices (fuel : Nat) : ∀ u pos closers lineOpen tokens, u.length ≤ fuel →
    scan fuel u pos closers lineOpen = .ok tokens → Closes u closers → Splices u closers (words tokens) := by
  induction fuel with
  | zero =>
    intro u pos closers lineOpen tokens enough scanned closes
    obtain rfl : u = [] := List.length_eq_zero_iff.mp (Nat.le_zero.mp enough)
    obtain ⟨rfl, none⟩ := finished_scans _ _ _ _ _ scanned
    rw [none]
    exact nothing_splices
  | succ fuel ih =>
    intro u pos closers lineOpen tokens enough scanned closes
    cases u with
    | nil =>
      obtain ⟨rfl, none⟩ := finished_scans _ _ _ _ _ scanned
      rw [none]
      exact nothing_splices
    | cons c u =>
      rw [List.length_cons] at enough
      by_cases sign : c = '#'
      · subst sign
        obtain ⟨line, v, rfl, oneLine, left, next⟩ := closes_comment u closers closes
        simp only [scan, beq_self_eq_true, if_true, left] at scanned
        exact comment_splices line v closers _ oneLine (ih _ _ _ _ _ (by simp at enough ⊢; omega) scanned next)
      · by_cases newline : c = '\n'
        · subst newline
          have next : Closes u closers := by
            apply closes_step '\n' u u closers closers closes (Nat.le_refl _)
            intro fuel pos lineOpen tokens step
            obtain ⟨_, _, later, -⟩ := scan_newline step
            exact ⟨_, _, _, later⟩
          obtain ⟨_, more, later, same⟩ := scan_newline scanned
          rw [same]
          exact newline_splices u closers _ (ih _ _ _ _ _ (by omega) later next)
        · by_cases blank : isLayoutBlank c = true
          · have next : Closes u closers := by
              apply closes_step c u u closers closers closes (Nat.le_refl _)
              intro fuel pos lineOpen tokens step
              exact ⟨_, _, _, scan_blank c sign newline blank step⟩
            have later := scan_blank c sign newline blank scanned
            exact blank_splices c u closers _ blank (ih _ _ _ _ _ (by omega) later next)
          · have opens : Scans.opensLexeme c = true := by simp [Scans.opensLexeme, sign, newline, blank]
            obtain ⟨l, after, n, owed, more, read, step, later, rfl⟩ := scan_lexeme c sign newline blank scanned
            obtain ⟨one, shorter, closed⟩ := lexeme_closed c u after l pos n read
            have next : Closes after owed := by
              apply closes_step c u after closers owed closes shorter
              intro fuel' pos' lineOpen' tokens' scanned'
              obtain ⟨l', after', n', owed', more', read', step', later', -⟩ :=
                scan_lexeme c sign newline blank scanned'
              -- both scans read the same lexeme here, so they owe the same brackets after it
              rw [← List.cons_append, closed [] pos'] at read'
              cases read'
              rw [owed_below closers [.closeParen] owed l pos pos' step] at step'
              cases step'
              exact ⟨_, _, _, later'⟩
            rw [words_cons l pos more one]
            exact lexeme_splices c u after closers owed l _ pos n opens read step (ih _ _ _ _ _ (by omega) later next)

theorem parenthesized_spelled (t : List Char) (tokens tokens' : List Token) (alone : tokenizeList t = .ok tokens)
    (within : tokenizeList ('(' :: (t ++ [')'])) = .ok tokens') :
    Solid (.symbol .openParen :: (words tokens ++ [.symbol .closeParen])) ∧
      Spelled ('(' :: (t ++ [')'])) (.symbol .openParen :: (words tokens ++ [.symbol .closeParen])) := by
  have closes : Closes t [] := by
    have opened : readLexeme ('(' :: (t ++ [')'])) 0 = .ok (.symbol .openParen, t ++ [')'], 1) := by
      cases t <;> rfl
    unfold tokenizeList at within
    rw [List.length_cons] at within
    simp only [scan, show ('(' == '#') = false from rfl, show ('(' == '\n') = false from rfl,
      show isLayoutBlank '(' = false from rfl, opened, owedAfter, Symbol.closer?] at within
    cases later : scan (t ++ [')']).length (t ++ [')']) (0 + 1) [.closeParen] true with
    | error e => rw [later] at within; cases within
    | ok more => exact ⟨_, _, _, more, by simp, later⟩
  obtain ⟨solid, scans⟩ := scanned_splices t.length t 0 [] false tokens (Nat.le_refl _) alone closes
  constructor
  · exact solid_cons _ _ (solid_symbol _) (Parser.solid_append _ _ solid (solid_symbol _))
  · intro closers lineOpen rest _
    have inside := scans closers true rest
    have whole := (opening_scans .paren closers lineOpen (t ++ ')' :: rest)).trans inside
    simpa using whole

theorem parenthesized_tokens (t : List Char) (tokens tokens' : List Token) (alone : tokenizeList t = .ok tokens)
    (within : tokenizeList ('(' :: (t ++ [')'])) = .ok tokens') :
    Parser.Carries tokens' (.symbol .openParen :: (words tokens ++ [.symbol .closeParen]) ++ [.newline, .eof]) := by
  have scans := (parenthesized_spelled t tokens tokens' alone within).2 [] false [] apart_nil
  rw [List.append_nil] at scans
  obtain ⟨emitted, tokenized, carried⟩ := scans.tokens_of_end _ true
  -- the lexer is a function: the tokens found by the scans are the given ones
  rw [within, Except.ok.injEq] at tokenized
  exact tokenized ▸ carried

theorem read_whole (front rest tokens : List Token) (newline eof : Nat) (solid : Solid (Parser.lexemes front))
    (solid' : Solid (Parser.lexemes tokens)) (same : front ++ rest = tokens ++ [⟨.newline, newline⟩, ⟨.eof, eof⟩])
    (ended : Parser.atEnd (Parser.skipNewlines rest) = true) : front = tokens := by
  rcases List.append_eq_append_iff.mp same with ⟨more, whole, left⟩ | ⟨more, whole, left⟩
  · cases more with
    | nil => rw [whole, List.append_nil]
    | cons token more =>
      have inside : token.lexeme ∈ Parser.lexemes tokens := List.mem_map_of_mem (by simp [whole])
      obtain ⟨l, pos⟩ := token
      cases l with
      | newline => exact absurd inside solid'.1
      | eof => exact absurd inside solid'.2
      | _ =>
        rw [left] at ended
        cases ended
  · cases more with
    | nil => rw [whole, List.append_nil]
    | cons token more =>
      have inside : token.lexeme ∈ Parser.lexemes front := List.mem_map_of_mem (by simp [whole])
      simp only [List.cons_append, List.cons.injEq] at left
      rw [← left.1] at inside
      exact absurd inside solid.1

theorem accepted_reads (text : String) (accepted : isContextExpression text = true) :
    ∃ tokens e front newline eof, tokenize text = .ok tokens ∧ tokens.any isArrow = false ∧
      parseExpression ("(" ++ text ++ ")") = .ok e ∧ e.readsContextOnly = true ∧
      Parser.Carries front (.symbol .openParen :: (words tokens ++ [.symbol .closeParen])) ∧
      Parser.expr (front ++ [⟨.newline, newline⟩, ⟨.eof, eof⟩]) = .ok (e, [⟨.newline, newline⟩, ⟨.eof, eof⟩]) := by
  have printed : ("(" ++ text ++ ")").toList = '(' :: (text.toList ++ [')']) := by simp
  unfold isContextExpression at accepted
  cases alone : tokenize text with
  | error e => rw [alone] at accepted; cases accepted
  | ok tokens =>
    rw [alone, Bool.and_eq_true] at accepted
    cases parsed : parseExpression ("(" ++ text ++ ")") with
    | error e => rw [parsed] at accepted; cases accepted.2
    | ok e =>
      rw [parsed] at accepted
      have plain : tokens.any isArrow = false := by simpa using accepted.1
      cases within : tokenizeList ('(' :: (text.toList ++ [')'])) with
      | error e => simp [parseExpression, tokenize, printed, within, bind, Except.bind] at parsed
      | ok tokens' =>
        have carried := parenthesized_tokens _ _ _ alone within
        obtain ⟨front, back, rfl, first, ending⟩ := Parser.carries_append tokens' _ _ carried
        obtain ⟨newline, back, rfl, final⟩ := Parser.carries_cons back _ _ ending
        obtain ⟨eof, rfl⟩ := Parser.carries_singleton back _ final
        refine ⟨tokens, e, front, newline, eof, rfl, plain, rfl, accepted.2, first, ?_⟩
        simp only [parseExpression, tokenize, printed, within, bind, Except.bind] at parsed
        cases read : Parser.expr (front ++ [⟨.newline, newline⟩, ⟨.eof, eof⟩]) with
        | error e => rw [read] at parsed; cases parsed
        | ok result =>
          obtain ⟨f, rest⟩ := result
          rw [read] at parsed
          dsimp only at parsed
          split at parsed
          · rename_i ended
            cases parsed
            obtain ⟨taken, same, solid, -⟩ := Parser.expr_takes _ _ _ read
            have firstSolid : Solid (Parser.lexemes front) := by
              rw [Parser.lexemes, first]
              exact (parenthesized_spelled _ _ _ alone within).1
            obtain rfl := read_whole taken rest front newline eof solid firstSolid same.symm ended
            rw [List.append_cancel_left same]
          · cases parsed

theorem accepted_legible (text : String) (accepted : isContextExpression (trim text) = true) :
    ∃ e, parseExpression ("(" ++ trim text ++ ")") = .ok e ∧
      ∀ indent, Legible ((Expr.verbatim text).print indent) e (-1) 63 := by
  obtain ⟨tokens, e, front, newline, eof, alone, -, parsed, -, first, read⟩ := accepted_reads _ accepted
  refine ⟨e, parsed, fun indent => ?_⟩
  obtain ⟨taken, same, -, derived⟩ := Parser.expr_takes _ _ _ read
  rw [← List.append_cancel_right same, Parser.lexemes, first] at derived
  refine ⟨_, ?_, derived.read, fun low => absurd low (by decide)⟩
  cases within : tokenizeList ('(' :: ((trim text).toList ++ [')'])) with
  | error fault =>
    have printed : ("(" ++ trim text ++ ")").toList = '(' :: ((trim text).toList ++ [')']) := by simp
    simp [parseExpression, tokenize, printed, within, bind, Except.bind] at parsed
  | ok tokens' => simpa [Expr.print, trim] using (parenthesized_spelled _ _ _ alone within).2

end DamagePlan.Script
