import DamagePlan.Proofs.Script.Numeral
import DamagePlan.Proofs.Script.Taken
import DamagePlan.Proofs.Steps

/-!
The texts of lexemes: what is read as a lexeme is a text of it. Layout and a closing parenthesis end every lexeme but a
string, so before such a stop a lexeme is read alike whatever follows.
-/
set_option autoImplicit false

namespace DamagePlan.Script

open Text
open Decimal (AllDigits spanDigits)
open Decimal.Written (NoDigit point span_digits_append)
open DamagePlan.Script.Parser (Solid)

def stops : List Char := [' ', '\t', '\r', '\n', '#', ')']

def Stopped (rest : List Char) : Prop := ∀ c ∈ rest.head?, c ∈ stops

theorem stops_refused (p : Char → Bool) (none : stops.all (!p ·) = true) : ∀ c ∈ stops, p c = false := by
  intro c member
  simpa using List.all_eq_true.mp none c member

theorem stopped_nil : Stopped [] := by simp [Stopped]

theorem stopped_cons (c : Char) (rest : List Char) (stop : c ∈ stops) : Stopped (c :: rest) := by
  simpa [Stopped] using stop

section Spans

variable (u rest : List Char) (stopped : Stopped rest)
include stopped

theorem while_stopped (p : Char → Bool) (refused : ∀ c ∈ stops, p c = false) :
    (u ++ rest).takeWhile p = u.takeWhile p ∧ (u ++ rest).dropWhile p = u.dropWhile p ++ rest := by
  induction u with
  | nil =>
    cases rest with
    | nil => exact ⟨rfl, rfl⟩
    | cons c rest => simp [refused c (stopped c rfl)]
  | cons c u ih =>
    by_cases passes : p c = true
    · simp [passes, ih]
    · simp [passes]

theorem other_than_stop (c : Char) (none : c ∉ stops) (more : List Char) : rest ≠ c :: more := by
  rintro rfl
  exact none (stopped c rfl)

theorem digits_stopped : spanDigits (u ++ rest) = ((spanDigits u).1, (spanDigits u).2 ++ rest) := by
  obtain ⟨taken, dropped⟩ := while_stopped u rest stopped isAsciiDigit (stops_refused _ (by decide))
  simp [spanDigits, taken, dropped]

theorem fraction_stopped : spanFraction (u ++ rest) = ((spanFraction u).1, (spanFraction u).2 ++ rest) := by
  cases u with
  | nil =>
    cases rest with
    | nil => rfl
    | cons c rest =>
      have noPoint : c ≠ '.' := fun same => other_than_stop _ stopped '.' (by decide) rest (by rw [same])
      simp [spanFraction, noPoint]
  | cons c u =>
    by_cases point : c = '.'
    · subst point
      simp only [List.cons_append, spanFraction, digits_stopped u rest stopped]
      cases spanDigits u with
      | mk digits after => cases digits <;> rfl
    · simp [spanFraction, point]

end Spans

def signOf : List Char → List Char × List Char
  | '+' :: cs => (['+'], cs)
  | '-' :: cs => (['-'], cs)
  | cs => ([], cs)

theorem sign_stopped (u rest : List Char) (stopped : Stopped rest) :
    signOf (u ++ rest) = ((signOf u).1, (signOf u).2 ++ rest) := by
  cases u with
  | nil =>
    cases rest with
    | nil => rfl
    | cons c rest =>
      have noPlus : c ≠ '+' := fun same => other_than_stop _ stopped '+' (by decide) rest (by rw [same])
      have noMinus : c ≠ '-' := fun same => other_than_stop _ stopped '-' (by decide) rest (by rw [same])
      simp [signOf, noPlus, noMinus]
  | cons c u =>
    by_cases plus : c = '+'
    · subst plus
      rfl
    · by_cases minus : c = '-'
      · subst minus
        rfl
      · simp [signOf, plus, minus]

theorem exponent_eq (c : Char) (u : List Char) (marked : (c == 'e' || c == 'E') = true) :
    spanExponent (c :: u) = if (Decimal.spanDigits (signOf u).2).1 = [] then ([], c :: u)
      else (c :: (signOf u).1 ++ (Decimal.spanDigits (signOf u).2).1, (Decimal.spanDigits (signOf u).2).2) := by
  simp only [spanExponent, marked, if_true]
  -- the sign is read by a match inside the definition; stated through signOf it is read once
  split
  · rename_i after span
    have read : Decimal.spanDigits (signOf u).2 = ([], after) := span
    rw [read, if_pos rfl]
  · rename_i digits after some span
    have read : Decimal.spanDigits (signOf u).2 = (digits, after) := span
    rw [read, if_neg some]
    rfl

section Numbers

variable (u rest : List Char) (stopped : Stopped rest)
include stopped

theorem exponent_stopped : spanExponent (u ++ rest) = ((spanExponent u).1, (spanExponent u).2 ++ rest) := by
  cases u with
  | nil =>
    cases rest with
    | nil => rfl
    | cons c rest =>
      have unmarked := stops_refused (fun c => c == 'e' || c == 'E') (by decide) c (stopped c rfl)
      simp [spanExponent, unmarked]
  | cons c u =>
    by_cases marked : (c == 'e' || c == 'E') = true
    · rw [List.cons_append, exponent_eq c _ marked, exponent_eq c u marked, sign_stopped u rest stopped,
        digits_stopped _ rest stopped]
      split <;> rfl
    · simp [spanExponent, marked]

theorem number_stopped : spanNumber (u ++ rest) = ((spanNumber u).1, (spanNumber u).2 ++ rest) := by
  simp only [spanNumber, digits_stopped _ rest stopped, fraction_stopped _ rest stopped, exponent_stopped _ rest stopped]

omit u in
theorem stopped_no_letter : (rest.head?.any fun c => isLetter c || c == '_') = false := by
  cases rest with
  | nil => rfl
  | cons c rest => exact stops_refused (fun c => isLetter c || c == '_') (by decide) c (stopped c rfl)

theorem read_number_stopped (pos : Nat) :
    readNumber (u ++ rest) pos = (readNumber u pos).map fun (x, after, n) => (x, after ++ rest, n) := by
  have whole := number_stopped u rest stopped
  cases left : (spanNumber u).2 with
  | nil =>
    -- a letter after a number is a fault, and no stop is a letter
    have fine := stopped_no_letter rest stopped
    simp [readNumber, whole, left, fine, Except.map]
  | cons c more =>
    cases malformed : isLetter c || c == '_' with
    | true => simp only [readNumber, whole, left, List.cons_append, List.head?_cons, Option.any_some, malformed]; rfl
    | false => simp only [readNumber, whole, left, List.cons_append, List.head?_cons, Option.any_some, malformed]; rfl

theorem starts_number_stopped (c : Char) : startsNumber (c :: u ++ rest) = startsNumber (c :: u) := by
  cases u with
  | nil =>
    cases rest with
    | nil => rfl
    | cons d rest =>
      simp [startsNumber, stops_refused isAsciiDigit (by decide) d (stopped d rfl)]
  | cons d u => rfl

theorem read_symbol_stopped (c : Char) :
    Symbol.read? (c :: u ++ rest) = (Symbol.read? (c :: u)).map fun (s, after) => (s, after ++ rest) := by
  cases u with
  | nil =>
    cases rest with
    | nil => simp [Symbol.read?, Function.comp_def]
    | cons d rest =>
      have lone : Symbol.ofPair? c d = none := by
        have other (e : Char) (none : e ∉ stops) : d ≠ e := fun same =>
          other_than_stop _ stopped e none rest (by rw [same])
        simp [Symbol.ofPair?, other '>' (by decide), other '=' (by decide), other '&' (by decide), other '|' (by decide)]
      simp [Symbol.read?, lone, Function.comp_def]
  | cons d u =>
    simp only [List.cons_append, Symbol.read?]
    cases Symbol.ofPair? c d with
    | some s => rfl
    | none => simp [Function.comp_def]

theorem lexeme_stopped (c : Char) (noQuote : c ≠ '"') (pos : Nat) :
    readLexeme (c :: u ++ rest) pos = (readLexeme (c :: u) pos).map fun (l, after, n) => (l, after ++ rest, n) := by
  have starts := starts_number_stopped u rest stopped c
  have number := read_number_stopped (c :: u) rest stopped pos
  have symbol := read_symbol_stopped u rest stopped c
  obtain ⟨taken, dropped⟩ := while_stopped u rest stopped continuesName (stops_refused _ (by decide))
  rw [List.cons_append] at starts number symbol ⊢
  -- one case for each kind of lexeme, in the order in which the lexer tries them
  simp only [readLexeme, beq_iff_eq, noQuote, if_false, starts, number, symbol, taken, dropped]
  split
  · cases readNumber (c :: u) pos <;> rfl
  · split
    · rfl
    · cases Symbol.read? (c :: u) <;> rfl

end Numbers

theorem span_string_found (u inside after : List Char) (found : spanString u = some (inside, after)) :
    u = inside ++ after ∧ ∀ z, spanString (inside ++ z) = some (inside, z) := by
  fun_induction spanString u generalizing inside after with
  | case1 => cases found
  | case2 => cases found
  | case3 c rest ih =>
    obtain ⟨⟨more, later⟩, here, same⟩ := Option.map_eq_some_iff.mp found
    simp only [Prod.mk.injEq] at same
    obtain ⟨rfl, rfl⟩ := same
    obtain ⟨split, ends⟩ := ih more later here
    exact ⟨by simp [split], fun z => by simp [spanString, ends z]⟩
  | case4 rest =>
    cases found
    exact ⟨rfl, fun z => by simp [spanString]⟩
  | case5 c rest noEnd noEscape noQuote newline => cases found
  | case6 c rest noEnd noEscape noQuote plain ih =>
    obtain ⟨⟨more, later⟩, here, same⟩ := Option.map_eq_some_iff.mp found
    simp only [Prod.mk.injEq] at same
    obtain ⟨rfl, rfl⟩ := same
    -- the two cases of an escape are ruled out by the hypotheses of this one only together
    have noBackslash : c ≠ '\\' := by
      intro backslash
      cases rest with
      | nil => exact noEnd backslash rfl
      | cons d rest => exact noEscape d rest backslash rfl
    obtain ⟨split, ends⟩ := ih more later here
    exact ⟨by simp [split], fun z => by simp [spanString, noBackslash, plain, ends z]⟩

theorem read_string_before (u after z w : List Char) (pos pos' n : Nat) (s : String)
    (read : readString (u ++ z) pos = .ok (s, after ++ z, n)) : readString (u ++ w) pos' = .ok (s, after ++ w, n) := by
  unfold readString at read
  cases found : spanString (u ++ z) with
  | none => rw [found] at read; cases read
  | some span =>
    obtain ⟨inside, rest⟩ := span
    simp only [found] at read
    cases value : Json.stringRest 0 none [] inside 1 with
    | error e => rw [value] at read; cases read
    | ok result =>
      rw [value] at read
      simp only [Except.ok.injEq, Prod.mk.injEq] at read
      obtain ⟨rfl, rfl, rfl⟩ := read
      obtain ⟨split, ends⟩ := span_string_found (u ++ z) inside (after ++ z) found
      rw [← List.append_assoc, List.append_left_inj] at split
      have again := ends (after ++ w)
      rw [← List.append_assoc, ← split] at again
      simp [readString, again, value]

theorem lexeme_anywhere (cs after : List Char) (l : Lexeme) (pos pos' n : Nat)
    (read : readLexeme cs pos = .ok (l, after, n)) : readLexeme cs pos' = .ok (l, after, n) := by
  cases cs with
  | nil => exact read
  | cons c u =>
    unfold readLexeme at read ⊢
    dsimp only at read ⊢
    split at read
    · rename_i quote
      obtain ⟨⟨s, later, m⟩, string, shape⟩ := map_ok _ _ _ read
      cases shape
      have again := read_string_before u later [] [] pos pos' m s (by simpa using string)
      simp only [List.append_nil] at again
      rw [if_pos quote, again]
      rfl
    · rename_i noQuote
      rw [if_neg noQuote]
      split at read
      · rename_i numeral
        obtain ⟨⟨x, later, m⟩, number, shape⟩ := map_ok _ _ _ read
        cases shape
        have again : readNumber (c :: u) pos' = .ok (x, later, m) := by
          unfold readNumber at number ⊢
          dsimp only at number ⊢
          split at number
          · cases number
          · rename_i fine
            rw [if_neg fine]
            exact number
        rw [if_pos numeral, again]
        rfl
      · rename_i noNumeral
        rw [if_neg noNumeral]
        split at read
        · rename_i name
          rw [if_pos name]
          exact read
        · rename_i noName
          rw [if_neg noName]
          cases symbol : Symbol.read? (c :: u) with
          | none => rw [symbol] at read; cases read
          | some found => rw [symbol] at read; exact read

theorem lexeme_before_stop (c : Char) (u after z w : List Char) (l : Lexeme) (pos pos' n : Nat) (stopped : Stopped z)
    (stopped' : Stopped w) (read : readLexeme (c :: u ++ z) pos = .ok (l, after ++ z, n)) :
    readLexeme (c :: u ++ w) pos' = .ok (l, after ++ w, n) := by
  by_cases quote : c = '"'
  · subst quote
    obtain ⟨⟨s, later, m⟩, string, shape⟩ := map_ok (readString (u ++ z) pos) _ _ read
    simp only [Prod.mk.injEq] at shape
    obtain ⟨rfl, rfl, rfl⟩ := shape
    have again := read_string_before u after z w pos pos' m s string
    simp [readLexeme, again, Except.map]
  · rw [lexeme_stopped u z stopped c quote] at read
    obtain ⟨⟨l', later, m⟩, alone, shape⟩ := map_ok _ _ _ read
    simp only [Prod.mk.injEq, List.append_left_inj] at shape
    obtain ⟨rfl, rfl, rfl⟩ := shape
    rw [lexeme_stopped u w stopped' c quote, lexeme_anywhere _ _ _ pos pos' _ alone]
    rfl

theorem digits_split (u : List Char) : (Decimal.spanDigits u).1 ++ (Decimal.spanDigits u).2 = u :=
  List.takeWhile_append_dropWhile

theorem fraction_split (u : List Char) : (spanFraction u).1 ++ (spanFraction u).2 = u := by
  unfold spanFraction
  split
  · rename_i cs
    have whole := digits_split cs
    split
    · rfl
    · rename_i digits after _ span
      rw [span] at whole
      simpa using whole
  · rfl

theorem sign_split (u : List Char) : (signOf u).1 ++ (signOf u).2 = u := by
  unfold signOf
  split <;> rfl

theorem exponent_split (u : List Char) : (spanExponent u).1 ++ (spanExponent u).2 = u := by
  cases u with
  | nil => rfl
  | cons c u =>
    by_cases marked : (c == 'e' || c == 'E') = true
    · rw [exponent_eq c u marked]
      split
      · rfl
      · simp [digits_split, sign_split]
    · simp [spanExponent, marked]

theorem number_split (u : List Char) : (spanNumber u).1 ++ (spanNumber u).2 = u := by
  simp only [spanNumber, List.append_assoc, exponent_split, fraction_split, digits_split]

theorem digits_all (u : List Char) : AllDigits (spanDigits u).1 := fun _ member => List.mem_takeWhile_imp member

theorem fraction_point (u : List Char) : ∃ digits, AllDigits digits ∧ (spanFraction u).1 = point digits := by
  have none : AllDigits [] := fun _ member => absurd member List.not_mem_nil
  unfold spanFraction
  split
  · rename_i cs
    split
    · exact ⟨[], none, rfl⟩
    · rename_i digits after some_ span
      have all := digits_all cs
      rw [span] at all
      exact ⟨digits, all, by rw [point, if_neg some_]⟩
  · exact ⟨[], none, rfl⟩

theorem exponent_is_exponent (u : List Char) : IsExponent (spanExponent u).1 := by
  cases u with
  | nil => exact .absent
  | cons c u =>
    by_cases marked : (c == 'e' || c == 'E') = true
    · rw [exponent_eq c u marked]
      split
      · exact .absent
      · rename_i some_
        have signed : (signOf u).1 ∈ [[], ['+'], ['-']] := by
          unfold signOf
          split <;> simp
        exact .marked (by simpa using marked) signed some_ (digits_all _)
    · simpa [spanExponent, marked] using IsExponent.absent

theorem exponent_read {exponent : List Char} (power : IsExponent exponent) :
    ∃ e, Decimal.readExponent exponent = (e, []) := by
  cases power with
  | absent => exact ⟨0, rfl⟩
  | @marked m sign digits mark signed some_ all =>
    have marked : (m == 'e' || m == 'E') = true := by simpa using mark
    have span := span_digits_append digits [] all (by simp [NoDigit])
    cases digits with
    | nil => exact absurd rfl some_
    | cons d digits =>
      have digit : isAsciiDigit d = true := all d List.mem_cons_self
      have noPlus : d ≠ '+' := by rintro rfl; cases digit
      have noMinus : d ≠ '-' := by rintro rfl; cases digit
      rw [List.append_nil] at span
      simp only [List.mem_cons, List.not_mem_nil, or_false] at signed
      rcases signed with rfl | rfl | rfl <;> simp [Decimal.readExponent, marked, span, noPlus, noMinus]

theorem number_means {whole fraction exponent : List Char} (digits : AllDigits whole) (decimals : AllDigits fraction)
    (some_ : whole ≠ [] ∨ fraction ≠ []) (power : IsExponent exponent) :
    ∃ x, Decimal.readUnsigned? false (whole ++ (point fraction ++ exponent)) = some x := by
  obtain ⟨e, read⟩ := exponent_read power
  have noDigit : NoDigit exponent := by
    have ends := (exponent_ends power [] ⟨by simp [NoDigit], by simp, by simp⟩).1
    rwa [List.append_nil] at ends
  have decimal : Decimal.readFraction (point fraction ++ exponent) = (fraction, exponent) := by
    by_cases empty : fraction = []
    · rw [empty]
      cases power with
      | absent => rfl
      | marked mark => rcases mark with rfl | rfl <;> rfl
    · rw [point, if_neg empty]
      exact span_digits_append fraction _ decimals noDigit
  have whole_ := span_digits_append whole _ digits (Decimal.Written.point_no_digit fraction exponent noDigit)
  have filled : (whole.isEmpty && fraction.isEmpty) = false := by
    rcases some_ with some_ | some_ <;> simp [some_]
  exact ⟨_, by simp only [Decimal.readUnsigned?, whole_, decimal, filled, read]; rfl⟩

inductive IsTextOf : List Char → Lexeme → Prop
  | number {whole fraction exponent : List Char} {x : Float} (digits : AllDigits whole) (decimals : AllDigits fraction)
      (some_ : whole ≠ [] ∨ fraction ≠ []) (power : IsExponent exponent)
      (means : Decimal.readUnsigned? false (whole ++ (point fraction ++ exponent)) = some x) :
      IsTextOf (whole ++ (point fraction ++ exponent)) (.number x)
  | string {text : List Char} {s : String} (literal : Json.Literal text s) : IsTextOf text (.string s)
  | name {id : String} (named : isName id.toList = true) : IsTextOf id.toList (.ident id)
  | symbol (s : Symbol) : IsTextOf s.text.toList (.symbol s)
  | ended : IsTextOf [] .eof

theorem number_begins {whole fraction : List Char} (digits : AllDigits whole) (decimals : AllDigits fraction)
    (some_ : whole ≠ [] ∨ fraction ≠ []) (after : List Char) : ∃ c more, whole ++ (point fraction ++ after) = c :: more ∧
      Scans.opensLexeme c = true ∧ c ≠ '"' ∧ startsNumber (c :: more) = true := by
  cases whole with
  | cons c more =>
    have digit : isAsciiDigit c = true := digits c List.mem_cons_self
    obtain ⟨opens, noQuote⟩ := digit_begins c digit
    exact ⟨c, _, rfl, opens, noQuote, by simp [startsNumber, digit]⟩
  | nil =>
    cases fraction with
    | nil => simp at some_
    | cons d more =>
      have digit : isAsciiDigit d = true := decimals d List.mem_cons_self
      exact ⟨'.', d :: (more ++ after), by simp [point], by decide, by decide, by simp [startsNumber, digit]⟩

theorem text_begins {text : List Char} {l : Lexeme} (textOf : IsTextOf text l) (earlier : l ≠ .eof) :
    ∃ c more, text = c :: more ∧ Scans.opensLexeme c = true := by
  cases textOf with
  | @number whole fraction exponent x digits decimals some_ power means =>
    obtain ⟨c, more, text, opens, -⟩ := number_begins digits decimals some_ exponent
    exact ⟨c, more, text, opens⟩
  | string literal =>
    cases literal with
    | mk contents => exact ⟨'"', _, rfl, by decide⟩
  | @name id named =>
    cases text : id.toList with
    | nil => rw [text] at named; cases named
    | cons c more =>
      rw [text, isName, Bool.and_eq_true] at named
      exact ⟨c, more, rfl, (name_begins c named.1).1⟩
  | symbol s =>
    obtain ⟨c, more, text, opens, -⟩ := s.text_begins
    exact ⟨c, more, text, opens⟩
  | ended => exact absurd rfl earlier

theorem text_solid {text : List Char} {l : Lexeme} (textOf : IsTextOf text l) (earlier : l ≠ .eof) : Solid [l] := by
  cases textOf with
  | ended => exact absurd rfl earlier
  | _ => exact ⟨by simp, by simp⟩

/-! What the lexer takes for a lexeme is its text. -/

theorem pair_text (a b : Char) (s : Symbol) (found : Symbol.ofPair? a b = some s) : s.text.toList = [a, b] := by
  unfold Symbol.ofPair? at found
  simp only [Bool.and_eq_true, beq_iff_eq] at found
  split_ifs at found with h h h h h h h <;> cases found <;> rw [h.1, h.2] <;> rfl

theorem char_text (c : Char) (s : Symbol) (found : Symbol.ofChar? c = some s) : s.text.toList = [c] := by
  unfold Symbol.ofChar? at found
  -- one case for each symbol of one character, and none of them at last
  iterate 19
    rcases ite_eq_iff.mp found with ⟨here, same⟩ | ⟨-, found⟩
    · cases same
      rw [eq_of_beq here]
      rfl
  cases found

theorem symbol_split (c : Char) (u after : List Char) (s : Symbol) (read : Symbol.read? (c :: u) = some (s, after)) :
    c :: u = s.text.toList ++ after := by
  cases u with
  | nil =>
    obtain ⟨s', found, same⟩ := Option.map_eq_some_iff.mp read
    cases same
    rw [char_text c s found]
    rfl
  | cons d u =>
    simp only [Symbol.read?] at read
    split at read
    · rename_i pair
      cases read
      rw [pair_text c d s pair]
      rfl
    · obtain ⟨s', found, same⟩ := Option.map_eq_some_iff.mp read
      cases same
      rw [char_text c s found]
      rfl

theorem string_text (u after : List Char) (pos n : Nat) (s : String) (read : readString u pos = .ok (s, after, n)) :
    ∃ text, '"' :: u = text ++ after ∧ n = text.length ∧ IsTextOf text (.string s) := by
  unfold readString at read
  cases found : spanString u with
  | none => rw [found] at read; cases read
  | some span =>
    obtain ⟨inside, rest⟩ := span
    simp only [found] at read
    cases value : Json.stringRest 0 none [] inside 1 with
    | error e => rw [value] at read; cases read
    | ok result =>
      rw [value] at read
      cases read
      obtain ⟨body, result', split, contents, means⟩ := Json.contents_taken 0 none [] inside 1 result value
      -- the text ends at the quote that ends the contents: the lexer finds the same one
      obtain ⟨whole, ends⟩ := span_string_found u inside after found
      have alone : spanString inside = some (inside, []) := by simpa using ends []
      have span := span_string_contents contents result.rest
      rw [← split, alone, Option.some.injEq, Prod.mk.injEq] at span
      refine ⟨'"' :: (body ++ ['"']), ?_, by rw [span.1]; rfl, ?_⟩
      · rw [whole, ← span.1]
        rfl
      · rw [means]
        exact .string (.mk contents)

theorem number_text (u after : List Char) (pos n : Nat) (x : Float) (starts : startsNumber u = true)
    (read : readNumber u pos = .ok (x, after, n)) :
    ∃ text, u = text ++ after ∧ n = text.length ∧ IsTextOf text (.number x) := by
  obtain ⟨fraction, decimals, shape⟩ := fraction_point (spanDigits u).2
  have text : (spanNumber u).1 =
      (spanDigits u).1 ++ (point fraction ++ (spanExponent (spanFraction (spanDigits u).2).2).1) := by
    simp only [spanNumber, shape, List.append_assoc]
  have power := exponent_is_exponent (spanFraction (spanDigits u).2).2
  have some_ : (spanDigits u).1 ≠ [] ∨ fraction ≠ [] := by
    cases u with
    | nil => cases starts
    | cons c u =>
      by_cases digit : isAsciiDigit c = true
      · exact .inl (by simp [spanDigits, digit])
      · simp only [startsNumber, digit, Bool.false_or, Bool.and_eq_true, beq_iff_eq] at starts
        obtain ⟨rfl, next⟩ := starts
        cases u with
        | nil => cases next
        | cons d u =>
          have digit' : isAsciiDigit d = true := by simpa using next
          refine .inr fun empty => ?_
          simp [spanDigits, spanFraction, digit, digit', point, empty] at shape
  obtain ⟨y, means⟩ := number_means (digits_all u) decimals some_ power
  have whole := number_split u
  unfold readNumber at read
  dsimp only at read
  split at read
  · cases read
  · cases read
    refine ⟨(spanNumber u).1, whole.symm, rfl, ?_⟩
    rw [text, means]
    exact .number (digits_all u) decimals some_ power means

theorem lexeme_text (c : Char) (u after : List Char) (l : Lexeme) (pos n : Nat)
    (read : readLexeme (c :: u) pos = .ok (l, after, n)) :
    ∃ text, c :: u = text ++ after ∧ n = text.length ∧ IsTextOf text l ∧ l ≠ .eof := by
  unfold readLexeme at read
  dsimp only at read
  by_cases quote : c = '"'
  · subst quote
    rw [if_pos (beq_self_eq_true _)] at read
    obtain ⟨⟨s, later, m⟩, string, shape⟩ := map_ok _ _ _ read
    cases shape
    obtain ⟨text, split, count, textOf⟩ := string_text u later pos m s string
    exact ⟨text, split, count, textOf, by simp⟩
  · simp only [beq_iff_eq, quote, if_false] at read
    by_cases numeral : startsNumber (c :: u) = true
    · rw [if_pos numeral] at read
      obtain ⟨⟨x, later, m⟩, number, shape⟩ := map_ok _ _ _ read
      cases shape
      obtain ⟨text, split, count, textOf⟩ := number_text (c :: u) later pos m x numeral number
      exact ⟨text, split, count, textOf, by simp⟩
    · simp only [numeral] at read
      by_cases name : startsName c = true
      · simp only [name, if_true] at read
        cases read
        have named : isName (String.ofList (c :: u.takeWhile continuesName)).toList = true := by
          rw [String.toList_ofList, isName, name, Bool.true_and, List.all_takeWhile]
        refine ⟨_, ?_, ?_, .name named, by simp⟩
        · rw [String.toList_ofList, List.cons_append, List.takeWhile_append_dropWhile]
        · rw [String.toList_ofList]
          rfl
      · simp only [name] at read
        cases symbol : Symbol.read? (c :: u) with
        | none => rw [symbol] at read; cases read
        | some found =>
          obtain ⟨s, later⟩ := found
          rw [symbol] at read
          cases read
          exact ⟨_, symbol_split c u after s symbol, String.length_toList.symm, .symbol s, by simp⟩

/-! Before a stop, the lexer takes no more than the text of a lexeme. -/

theorem stopped_ends_number (rest : List Char) (stopped : Stopped rest) : EndsNumber rest where
  digit c first := stops_refused isAsciiDigit (by decide) c (stopped c first)
  point c more text := absurd text (other_than_stop rest stopped '.' (by decide) (c :: more))
  mark c first := stops_refused (fun c => c == 'e' || c == 'E') (by decide) c (stopped c first)

theorem stopped_ends_symbol (s : Symbol) (rest : List Char) (stopped : Stopped rest) : s.Ends rest := by
  constructor
  · intro _ c first
    have other := stops_refused (fun c => c == '=' || c == '>') (by decide) c (stopped c first)
    simpa using other
  · intro _
    exact starts_number_stopped [] rest stopped '.'

theorem text_read {text : List Char} {l : Lexeme} (textOf : IsTextOf text l) (earlier : l ≠ .eof) (rest : List Char)
    (stopped : Stopped rest) (pos : Nat) : readLexeme (text ++ rest) pos = .ok (l, rest, text.length) := by
  cases textOf with
  | @number whole fraction exponent x digits decimals some_ power means =>
    have span := span_number_text power rest (stopped_ends_number rest stopped) whole fraction digits decimals
    obtain ⟨c, more, shape, opens, noQuote, starts⟩ := number_begins digits decimals some_ (exponent ++ rest)
    have fine := stopped_no_letter rest stopped
    have whole_ : whole ++ (point fraction ++ exponent) ++ rest = c :: more := by
      rw [← shape, List.append_assoc, List.append_assoc]
    rw [shape] at span
    rw [whole_]
    simp [readLexeme, noQuote, starts, readNumber, span, fine, means, Except.map]
  | @string _ s literal =>
    cases literal with
    | @mk body result contents =>
      have span := span_string_contents contents rest
      have value := Json.contents_read contents 0 [] 1
      simp [readLexeme, readString, span, value, Except.map]
  | @name id named =>
    cases text : id.toList with
    | nil => rw [text] at named; cases named
    | cons c more =>
      rw [text, isName, Bool.and_eq_true, List.all_eq_true] at named
      obtain ⟨-, noQuote, noPoint, noDigit⟩ := name_begins c named.1
      obtain ⟨taken, dropped⟩ := while_stopped more rest stopped continuesName (stops_refused _ (by decide))
      have all : more.takeWhile continuesName = more := List.takeWhile_eq_self_iff.mpr named.2
      have none : more.dropWhile continuesName = [] := List.dropWhile_eq_nil_iff.mpr named.2
      have id_ : String.ofList (c :: more) = id := by rw [← text, String.ofList_toList]
      simp [readLexeme, noQuote, startsNumber, noDigit, noPoint, named.1, taken, dropped, all, none, id_]
  | symbol s =>
    have read := s.read_text rest (stopped_ends_symbol s rest stopped)
    have noNumber := s.no_number rest (stopped_ends_symbol s rest stopped)
    obtain ⟨c, more, text, -, noQuote, noName⟩ := s.text_begins
    have count : s.text.length = more.length + 1 := by rw [← String.length_toList, text, List.length_cons]
    rw [text, List.cons_append] at read noNumber ⊢
    simp [readLexeme, noQuote, noNumber, noName, read, count]
  | ended => exact absurd rfl earlier

end DamagePlan.Script
