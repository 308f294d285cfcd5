import DamagePlan.Proofs.Script.Splice

/-!
Scans as a relation, one rule for each thing that may stand at a place in a text, and what it preserves: where tokens
stand, and which brackets are owed between them.
-/
set_option autoImplicit false

namespace DamagePlan.Script

open DamagePlan.Script.Parser (Solid lexemes)

inductive Scanned : (pos : Nat) → (closers : List Symbol) → (lineOpen : Bool) → List Char → List Token → Prop
  | ended (pos : Nat) : Scanned pos [] false [] [⟨.eof, pos⟩]
  | lastLine (pos : Nat) : Scanned pos [] true [] [⟨.newline, pos⟩, ⟨.eof, pos⟩]
  | comment {pos : Nat} {closers : List Symbol} {lineOpen : Bool} {line rest : List Char} {tokens : List Token}
      (oneLine : '\n' ∉ line) (ends : ∀ c ∈ rest.head?, c = '\n')
      (later : Scanned (pos + 1 + line.length) closers lineOpen rest tokens) :
      Scanned pos closers lineOpen ('#' :: (line ++ rest)) tokens
  | newline {pos : Nat} {rest : List Char} {tokens : List Token} (later : Scanned (pos + 1) [] false rest tokens) :
      Scanned pos [] true ('\n' :: rest) (⟨.newline, pos⟩ :: tokens)
  | idle {pos : Nat} {closers : List Symbol} {lineOpen : Bool} {rest : List Char} {tokens : List Token}
      (within : closers ≠ [] ∨ lineOpen = false) (later : Scanned (pos + 1) closers lineOpen rest tokens) :
      Scanned pos closers lineOpen ('\n' :: rest) tokens
  | blank {pos : Nat} {closers : List Symbol} {lineOpen : Bool} {c : Char} {rest : List Char} {tokens : List Token}
      (isBlank : isLayoutBlank c = true) (later : Scanned (pos + 1) closers lineOpen rest tokens) :
      Scanned pos closers lineOpen (c :: rest) tokens
  | lexeme {pos n : Nat} {closers owed : List Symbol} {lineOpen : Bool} {c : Char} {u after : List Char} {l : Lexeme}
      {tokens : List Token} (opens : Scans.opensLexeme c = true) (read : readLexeme (c :: u) pos = .ok (l, after, n))
      (step : owedAfter closers l pos = .ok owed) (later : Scanned (pos + n) owed true after tokens) :
      Scanned pos closers lineOpen (c :: u) (⟨l, pos⟩ :: tokens)

theorem scanned_of_scan (fuel : Nat) : ∀ u pos closers lineOpen tokens, u.length ≤ fuel →
    scan fuel u pos closers lineOpen = .ok tokens → Scanned pos closers lineOpen u tokens := by
  have ended : ∀ fuel pos closers lineOpen tokens, scan fuel [] pos closers lineOpen = .ok tokens →
      Scanned pos closers lineOpen [] tokens := by
    intro fuel pos closers lineOpen tokens scanned
    rw [scan.eq_def] at scanned
    cases closers with
    | cons owed closers => cases scanned
    | nil =>
      cases scanned
      cases lineOpen
      · exact .ended pos
      · exact .lastLine pos
  induction fuel with
  | zero =>
    intro u pos closers lineOpen tokens enough scanned
    obtain rfl := List.length_eq_zero_iff.mp (Nat.le_zero.mp enough)
    exact ended 0 pos closers lineOpen tokens scanned
  | succ fuel ih =>
    intro u pos closers lineOpen tokens enough scanned
    cases u with
    | nil => exact ended _ pos closers lineOpen tokens scanned
    | cons c u =>
      have fits : u.length ≤ fuel := Nat.le_of_succ_le_succ enough
      rw [scan] at scanned
      by_cases sign : (c == '#') = true
      · rw [if_pos sign] at scanned
        obtain rfl := eq_of_beq sign
        have split : u = u.takeWhile (· != '\n') ++ u.dropWhile (· != '\n') := List.takeWhile_append_dropWhile.symm
        rw [split]
        refine .comment (fun member => ?_) (fun d first => ?_) (ih _ _ _ _ _ ?_ scanned)
        · simpa using List.mem_takeWhile_imp member
        · have stop := List.head?_dropWhile_not (· != '\n') u
          rw [Option.mem_def] at first
          simpa [first] using stop
        · exact (List.dropWhile_suffix _).length_le.trans fits
      rw [if_neg sign] at scanned
      by_cases newline : (c == '\n') = true
      · rw [if_pos newline] at scanned
        obtain rfl := eq_of_beq newline
        by_cases ends : (closers.isEmpty && lineOpen) = true
        · rw [if_pos ends] at scanned
          obtain ⟨more, rest, rfl⟩ := map_ok _ _ _ scanned
          obtain ⟨none, rfl⟩ := Bool.and_eq_true_iff.mp ends
          obtain rfl := List.isEmpty_iff.mp none
          exact .newline (ih _ _ _ _ _ fits rest)
        · rw [if_neg ends] at scanned
          refine .idle ?_ (ih _ _ _ _ _ fits scanned)
          by_cases none : closers = []
          · exact .inr (by simpa [none] using ends)
          · exact .inl none
      rw [if_neg newline] at scanned
      by_cases blank : isLayoutBlank c = true
      · rw [if_pos blank] at scanned
        exact .blank blank (ih _ _ _ _ _ fits scanned)
      rw [if_neg blank] at scanned
      cases here : readLexeme (c :: u) pos with
      | error e => rw [here] at scanned; cases scanned
      | ok result =>
        obtain ⟨l, after, n⟩ := result
        simp only [here] at scanned
        cases owed : owedAfter closers l pos with
        | error e => rw [owed] at scanned; cases scanned
        | ok closers' =>
          simp only [owed] at scanned
          obtain ⟨more, rest, rfl⟩ := map_ok _ _ _ scanned
          have opens : Scans.opensLexeme c = true := by simp [Scans.opensLexeme, bne, sign, newline, blank]
          obtain ⟨-, shorter, -⟩ := lexeme_closed c u after l pos n here
          exact .lexeme opens here owed (ih _ _ _ _ _ (shorter.trans fits) rest)

theorem tokenize_scanned (text : String) (tokens : List Token) (split : tokenize text = .ok tokens) :
    Scanned 0 [] false text.toList tokens :=
  scanned_of_scan _ _ _ _ _ _ (Nat.le_refl _) split

def ending (lineOpen : Bool) : List Lexeme := if lineOpen then [.newline, .eof] else [.eof]

theorem owed_anywhere (closers owed : List Symbol) (l : Lexeme) (pos pos' : Nat)
    (step : owedAfter closers l pos = .ok owed) : owedAfter closers l pos' = .ok owed := by
  have again := owed_below closers [] owed l pos pos' step
  rwa [List.append_nil, List.append_nil] at again

theorem Scanned.scans {pos : Nat} {closers : List Symbol} {lineOpen : Bool} {u : List Char} {tokens : List Token}
    (scanned : Scanned pos closers lineOpen u tokens) : ∃ ls open_, Scans ⟨closers, lineOpen, u⟩ ls ⟨[], open_, []⟩ ∧
      lexemes tokens = ls ++ ending open_ := by
  induction scanned with
  | ended pos => exact ⟨[], false, .refl _, rfl⟩
  | lastLine pos => exact ⟨[], true, .refl _, rfl⟩
  | @comment pos closers lineOpen line rest tokens oneLine ends later ih =>
    obtain ⟨ls, open_, scans, shape⟩ := ih
    exact ⟨ls, open_, (Scans.comment line rest oneLine ends).trans scans, shape⟩
  | @newline pos rest tokens later ih =>
    obtain ⟨ls, open_, scans, shape⟩ := ih
    exact ⟨.newline :: ls, open_, (Scans.newline rest).trans scans, congrArg (Lexeme.newline :: ·) shape⟩
  | @idle pos closers lineOpen rest tokens within later ih =>
    obtain ⟨ls, open_, scans, shape⟩ := ih
    exact ⟨ls, open_, (Scans.passed_newline rest within).trans scans, shape⟩
  | @blank pos closers lineOpen c rest tokens isBlank later ih =>
    obtain ⟨ls, open_, scans, shape⟩ := ih
    exact ⟨ls, open_, (Scans.blank c rest isBlank).trans scans, shape⟩
  | @lexeme pos n closers owed lineOpen c u after l tokens opens read step later ih =>
    obtain ⟨ls, open_, scans, shape⟩ := ih
    obtain ⟨-, shorter, -⟩ := lexeme_closed c u after l pos n read
    -- neither the lexeme nor what is owed after it depends on the place
    have first : Scans ⟨closers, lineOpen, c :: u⟩ [l] ⟨owed, true, after⟩ :=
      .lexeme c u after l opens shorter (fun pos' => ⟨n, lexeme_anywhere _ _ _ pos pos' _ read⟩)
        fun pos' => owed_anywhere _ _ _ pos pos' step
    exact ⟨l :: ls, open_, first.trans scans, congrArg (l :: ·) shape⟩

end DamagePlan.Script
