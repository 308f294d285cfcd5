import DamagePlan.Script.Printer
import DamagePlan.Proofs.Json.StringLiteral
import DamagePlan.Proofs.Script.Grammar
import DamagePlan.Proofs.Script.Scanning

/-!
Texts that spell lexemes wherever they stand.
-/
set_option autoImplicit false

namespace DamagePlan.Script

open Text

def separators : List Char := [' ', ',', ')', ']', '\x7d', '.', '[', '(', ':', '\n']

def Apart (rest : List Char) : Prop := startsNumber rest = false ∧ ∀ c ∈ rest.head?, c ∈ separators

def Spelled (cs : List Char) (ls : List Lexeme) : Prop :=
  ∀ closers lineOpen rest, Apart rest → Scans ⟨closers, lineOpen, cs ++ rest⟩ ls ⟨closers, true, rest⟩

def SpelledInside (cs : List Char) (ls : List Lexeme) : Prop :=
  ∀ closers lineOpen rest, closers ≠ [] → Apart rest → Scans ⟨closers, lineOpen, cs ++ rest⟩ ls ⟨closers, true, rest⟩

theorem Spelled.inside {cs : List Char} {ls : List Lexeme} (spelled : Spelled cs ls) : SpelledInside cs ls :=
  fun closers lineOpen rest _ apart => spelled closers lineOpen rest apart

theorem apart_nil : Apart [] := ⟨rfl, by simp⟩

theorem apart_cons (c : Char) (rest : List Char) (separates : c ∈ separators) (noPoint : c ≠ '.') :
    Apart (c :: rest) := by
  refine ⟨?_, by simpa using separates⟩
  have noDigit : isAsciiDigit c = false := by
    simp only [separators, List.mem_cons, List.not_mem_nil, or_false] at separates
    rcases separates with rfl | rfl | rfl | rfl | rfl | rfl | rfl | rfl | rfl | rfl <;> decide
  simp [startsNumber, noDigit, noPoint]

def Symbol.mayJoin : Symbol → Bool
  | .assign | .bang | .less | .greater => true
  | _ => false

def Symbol.Ends (s : Symbol) (rest : List Char) : Prop :=
  (s.mayJoin = true → ∀ c ∈ rest.head?, c ≠ '=' ∧ c ≠ '>') ∧ (s = .dot → startsNumber ('.' :: rest) = false)

theorem Symbol.ends_anywhere (s : Symbol) (rest : List Char) (alone : s.mayJoin = false) (noDot : s ≠ .dot) :
    s.Ends rest := by
  refine ⟨fun joins => ?_, fun dot => absurd dot noDot⟩
  rw [alone] at joins
  cases joins

theorem Symbol.read_text (s : Symbol) (rest : List Char) (ends : s.Ends rest) :
    Symbol.read? (s.text.toList ++ rest) = some (s, rest) := by
  obtain ⟨joins, _⟩ := ends
  cases rest with
  | nil => cases s <;> rfl
  | cons c rest =>
    -- only symbols that may join with what follows need to know what that is
    cases s <;> simp [Symbol.mayJoin] at joins <;> simp [Symbol.text, Symbol.read?, Symbol.ofPair?, Symbol.ofChar?, joins]

theorem Symbol.text_begins (s : Symbol) : ∃ c cs, s.text.toList = c :: cs ∧ Scans.opensLexeme c = true ∧
    c ≠ '"' ∧ startsName c = false := by
  cases s <;> exact ⟨_, _, rfl, by decide, by decide, by decide⟩

theorem Symbol.no_number (s : Symbol) (rest : List Char) (ends : s.Ends rest) :
    startsNumber (s.text.toList ++ rest) = false := by
  cases s with
  | dot => exact ends.2 rfl
  | _ => simp [Symbol.text, startsNumber, isAsciiDigit]

theorem Symbol.scans (s : Symbol) (closers closers' : List Symbol) (lineOpen : Bool) (rest : List Char)
    (ends : s.Ends rest) (owed : ∀ pos, owedAfter closers (.symbol s) pos = .ok closers') :
    Scans ⟨closers, lineOpen, s.text.toList ++ rest⟩ [.symbol s] ⟨closers', true, rest⟩ := by
  have read := s.read_text rest ends
  have noNumber := s.no_number rest ends
  obtain ⟨c, cs, text, opens, noQuote, noName⟩ := s.text_begins
  rw [text, List.cons_append] at read noNumber ⊢
  refine .lexeme c (cs ++ rest) rest _ opens (by simp) (fun pos => ⟨s.text.length, ?_⟩) owed
  simp [readLexeme, noQuote, noNumber, noName, read]

def isName : List Char → Bool
  | [] => false
  | c :: cs => startsName c && cs.all continuesName

theorem char_ascii (c : Char) (small : c.toNat < 128) : isLetter c = isAsciiLetter c := by
  simp [isLetter, small]

theorem char_le (a b : Char) : a ≤ b ↔ a.toNat ≤ b.toNat := by
  rw [Char.le_def, UInt32.le_iff_toNat_le]
  rfl

theorem digit_starts_no_name (c : Char) (digit : isAsciiDigit c = true) : startsName c = false := by
  simp [isAsciiDigit, char_le] at digit
  have small : c.toNat < 128 := by omega
  have letter : isAsciiLetter c = false := by
    simp [isAsciiLetter, char_le]
    omega
  have line : c ≠ '_' := by rintro rfl; exact absurd digit (by decide)
  have dollar : c ≠ '$' := by rintro rfl; exact absurd digit (by decide)
  simp [startsName, char_ascii c small, letter, line, dollar]

theorem name_begins (c : Char) (starts : startsName c = true) : Scans.opensLexeme c = true ∧ c ≠ '"' ∧ c ≠ '.' ∧
    isAsciiDigit c = false := by
  have noDigit : isAsciiDigit c = false := by
    cases digit : isAsciiDigit c with
    | false => rfl
    | true => rw [digit_starts_no_name c digit] at starts; cases starts
  have other : ∀ d : Char, startsName d = false → c ≠ d := by
    rintro d none rfl
    rw [starts] at none
    cases none
  refine ⟨?_, other '"' (by decide), other '.' (by decide), noDigit⟩
  simp [Scans.opensLexeme, isLayoutBlank, other '#' (by decide), other '\n' (by decide), other ' ' (by decide),
    other '\t' (by decide), other '\r' (by decide)]

theorem digit_begins (c : Char) (digit : isAsciiDigit c = true) : Scans.opensLexeme c = true ∧ c ≠ '"' := by
  have other : ∀ d : Char, isAsciiDigit d = false → c ≠ d := by
    rintro d none rfl
    rw [digit] at none
    cases none
  refine ⟨?_, other '"' (by decide)⟩
  simp [Scans.opensLexeme, isLayoutBlank, other '#' (by decide), other '\n' (by decide), other ' ' (by decide),
    other '\t' (by decide), other '\r' (by decide)]

theorem separator_ends_name (c : Char) (separates : c ∈ separators) : continuesName c = false := by
  simp only [separators, List.mem_cons, List.not_mem_nil, or_false] at separates
  rcases separates with rfl | rfl | rfl | rfl | rfl | rfl | rfl | rfl | rfl | rfl <;> decide

theorem name_spelled (id : List Char) (named : isName id = true) : Spelled id [.ident (String.ofList id)] := by
  intro closers lineOpen rest apart
  cases id with
  | nil => cases named
  | cons c cs =>
    simp only [isName, Bool.and_eq_true, List.all_eq_true] at named
    obtain ⟨opens, noQuote, noPoint, noDigit⟩ := name_begins c named.1
    -- a separator follows, which no name goes on over
    have taken : (cs ++ rest).takeWhile continuesName = cs := by
      rw [List.takeWhile_append_of_pos named.2]
      cases rest with
      | nil => simp
      | cons d rest => simp [separator_ends_name d (apart.2 d rfl)]
    have dropped : (cs ++ rest).dropWhile continuesName = rest := by
      rw [List.dropWhile_append_of_pos named.2]
      cases rest with
      | nil => rfl
      | cons d rest => simp [separator_ends_name d (apart.2 d rfl)]
    refine .lexeme c (cs ++ rest) rest _ opens (by simp) (fun pos => ⟨cs.length + 1, ?_⟩) (fun _ => rfl)
    simp [readLexeme, noQuote, startsNumber, noDigit, noPoint, named.1, taken, dropped]

structure IsNumeral (cs : List Char) (x : Float) : Prop where
  begins : ∃ c more, cs = c :: more ∧ isAsciiDigit c = true
  ends : ∀ rest, Apart rest → spanNumber (cs ++ rest) = (cs, rest)
  last : cs.getLast? ≠ some '\n'
  reads : Decimal.readUnsigned? false cs = some x

theorem numeral_spelled (cs : List Char) (x : Float) (numeral : IsNumeral cs x) : Spelled cs [.number x] := by
  intro closers lineOpen rest apart
  obtain ⟨c, more, rfl, digit⟩ := numeral.begins
  obtain ⟨opens, noQuote⟩ := digit_begins c digit
  have whole := numeral.ends rest apart
  have clean : (rest.head?.any fun c => isLetter c || c == '_') = false := by
    cases rest with
    | nil => rfl
    | cons d rest =>
      have stops := separator_ends_name d (apart.2 d rfl)
      have noLetter : isLetter d = false := by
        simp only [continuesName, Bool.or_eq_false_iff, isLetterOrNumeral, isLetter] at stops ⊢
        split at stops <;> simp_all
      simp only [continuesName, Bool.or_eq_false_iff] at stops
      simp [noLetter, stops]
  refine .lexeme c (more ++ rest) rest _ opens (by simp) (fun pos => ⟨(c :: more).length, ?_⟩) (fun _ => rfl)
  simp only [List.cons_append] at whole
  simp [readLexeme, noQuote, startsNumber, digit, readNumber, whole, clean, numeral.reads, Except.map]

theorem span_plain (c : Char) (rest : List Char) (isPlain : Json.IsPlain c) :
    spanString (c :: rest) = (spanString rest).map fun (inside, after) => (c :: inside, after) := by
  obtain ⟨quote, backslash, visible⟩ := isPlain
  have noNewline : c ≠ '\n' := by rintro rfl; exact absurd visible (by decide)
  rw [spanString.eq_def]
  split <;> simp_all

theorem span_string_contents {high : Option Nat} {taken body result : List Char}
    (contents : Json.Contents high taken body result) (rest : List Char) :
    spanString (body ++ '"' :: rest) = some (body ++ ['"'], rest) := by
  induction contents with
  | nil => rfl
  | plain c isPlain more ih => simp [span_plain c _ isPlain, ih]
  | escaped c mark means more ih => simp [spanString, ih]
  | unicode h i j k unit means more ih =>
    have plain := Json.hex4_plain h i j k unit means
    simp [spanString, span_plain, plain, ih]

theorem span_string_written (cs rest : List Char) :
    spanString (cs.flatMap (Json.escapeChar false) ++ '"' :: rest) =
      some (cs.flatMap (Json.escapeChar false) ++ ['"'], rest) :=
  span_string_contents (Json.text_contents false cs []) rest

theorem string_spelled (s : String) : Spelled (stringText s).toList [.string s] := by
  intro closers lineOpen rest _
  obtain ⟨pos', read⟩ := Json.string_rest_escaped 0 [] s.toList [] 1
  have span := span_string_written s.toList rest
  simp only [stringText, String.toList_ofList, Json.stringLiteral, List.cons_append, List.append_assoc, List.nil_append]
  refine .lexeme '"' _ rest _ (by decide) (by simp; omega)
    (fun pos => ⟨(s.toList.flatMap (Json.escapeChar false) ++ ['"']).length + 1, ?_⟩) (fun _ => rfl)
  simp [readLexeme, readString, span, read, Except.map]

inductive IsBracket : Char → Char → Symbol → Symbol → Prop
  | paren : IsBracket '(' ')' .openParen .closeParen
  | bracket : IsBracket '[' ']' .openBracket .closeBracket
  | brace : IsBracket '\x7b' '\x7d' .openBrace .closeBrace

section Brackets

variable {opening closing : Char} {opens closes : Symbol} (pair : IsBracket opening closing opens closes)
include pair

theorem opening_scans (closers : List Symbol) (lineOpen : Bool) (rest : List Char) :
    Scans ⟨closers, lineOpen, opening :: rest⟩ [.symbol opens] ⟨closes :: closers, true, rest⟩ := by
  cases pair with
  | paren => exact Symbol.scans .openParen closers _ lineOpen rest (Symbol.ends_anywhere _ rest rfl (by decide)) fun _ => rfl
  | bracket => exact Symbol.scans .openBracket closers _ lineOpen rest (Symbol.ends_anywhere _ rest rfl (by decide)) fun _ => rfl
  | brace => exact Symbol.scans .openBrace closers _ lineOpen rest (Symbol.ends_anywhere _ rest rfl (by decide)) fun _ => rfl

theorem closing_scans (closers : List Symbol) (lineOpen : Bool) (rest : List Char) :
    Scans ⟨closes :: closers, lineOpen, closing :: rest⟩ [.symbol closes] ⟨closers, true, rest⟩ := by
  cases pair with
  | paren => exact Symbol.scans .closeParen _ closers lineOpen rest (Symbol.ends_anywhere _ rest rfl (by decide)) fun _ => rfl
  | bracket => exact Symbol.scans .closeBracket _ closers lineOpen rest (Symbol.ends_anywhere _ rest rfl (by decide)) fun _ => rfl
  | brace => exact Symbol.scans .closeBrace _ closers lineOpen rest (Symbol.ends_anywhere _ rest rfl (by decide)) fun _ => rfl

theorem closing_apart (rest : List Char) : Apart (closing :: rest) := by
  cases pair <;> exact apart_cons _ rest (by decide) (by decide)

end Brackets

def IsGap (gap : List Char) : Prop := ∀ c ∈ gap, c = ' ' ∨ c = '\n'

theorem nil_gap : IsGap [] := by
  intro c member
  cases member

theorem gap_scans (closers : List Symbol) (lineOpen : Bool) (gap rest : List Char) (inside : closers ≠ [])
    (blank : IsGap gap) : Scans ⟨closers, lineOpen, gap ++ rest⟩ [] ⟨closers, lineOpen, rest⟩ := by
  induction gap with
  | nil => exact .refl _
  | cons c gap ih =>
    have following := ih fun d member => blank d (List.mem_cons_of_mem _ member)
    rcases blank c List.mem_cons_self with rfl | rfl
    · exact (Scans.blank ' ' (gap ++ rest) rfl).trans following
    · exact (Scans.inner_newline (gap ++ rest) inside).trans following

theorem gap_apart (gap rest : List Char) (blank : IsGap gap) (apart : Apart rest) : Apart (gap ++ rest) := by
  cases gap with
  | nil => exact apart
  | cons c gap =>
    rcases blank c List.mem_cons_self with rfl | rfl
    · exact apart_cons _ _ (by decide) (by decide)
    · exact apart_cons _ _ (by decide) (by decide)

theorem margin_gap (indent : Int) : IsGap (Expr.margin indent) := by
  intro c member
  exact .inl (List.eq_of_mem_replicate member)

theorem newline_margin_gap (indent : Int) : IsGap ('\n' :: Expr.margin indent) := by
  intro c member
  rcases List.mem_cons.mp member with rfl | inside
  · exact .inr rfl
  · exact margin_gap indent c inside

theorem comma_scans (closers : List Symbol) (lineOpen : Bool) (rest : List Char) :
    Scans ⟨closers, lineOpen, ',' :: rest⟩ [.symbol .comma] ⟨closers, true, rest⟩ :=
  Symbol.scans .comma closers closers lineOpen rest (Symbol.ends_anywhere _ rest rfl (by decide)) fun _ => rfl

theorem led_scans (closers : List Symbol) (gap rest : List Char) (inside : closers ≠ []) (blank : IsGap gap)
    (apart : Apart rest) (css : List (List Char)) (lss : List (List Lexeme)) (parts : List.Forall₂ SpelledInside css lss) :
    Scans ⟨closers, true, css.flatMap (',' :: gap ++ ·) ++ rest⟩ (Parser.led lss) ⟨closers, true, rest⟩ ∧
      Apart (css.flatMap (',' :: gap ++ ·) ++ rest) := by
  induction parts with
  | nil => exact ⟨.refl _, apart⟩
  | @cons cs ls css lss spelled _ ih =>
    obtain ⟨following, apart'⟩ := ih
    have first := spelled closers true _ inside apart'
    have step := (comma_scans closers true _).trans ((gap_scans closers true gap _ inside blank).trans first)
    refine ⟨?_, apart_cons _ _ (by decide) (by decide)⟩
    simpa [Parser.led] using step.trans following

theorem intercalate_cons {α : Type} (sep first : List α) (rest : List (List α)) :
    sep.intercalate (first :: rest) = first ++ rest.flatMap (sep ++ ·) := by
  induction rest generalizing first with
  | nil => simp [List.intercalate]
  | cons second rest ih => simpa [List.intercalate, List.append_assoc] using congrArg (first ++ sep ++ ·) (ih second)

theorem bracket_spelled {opening closing : Char} {opens closes : Symbol}
    (pair : IsBracket opening closing opens closes) (lead gap trail : List Char) (leads : IsGap lead) (gaps : IsGap gap)
    (trails : IsGap trail) (cs : List Char) (css : List (List Char)) (ls : List Lexeme) (lss : List (List Lexeme))
    (first : SpelledInside cs ls) (parts : List.Forall₂ SpelledInside css lss) :
    Spelled (opening :: lead ++ cs ++ css.flatMap (',' :: gap ++ ·) ++ trail ++ [closing])
      (.symbol opens :: Parser.separated (ls :: lss) ++ [.symbol closes]) := by
  intro closers lineOpen rest apart
  have inside : closes :: closers ≠ [] := List.cons_ne_nil _ _
  -- from the back to the front: what a part is followed by decides whether it ends where it should
  have ended := closing_scans pair closers true rest
  have trailing := gap_scans (closes :: closers) true trail (closing :: rest) inside trails
  have apart := gap_apart trail (closing :: rest) trails (closing_apart pair rest)
  obtain ⟨following, apart'⟩ := led_scans (closes :: closers) gap _ inside gaps apart css lss parts
  have first := first (closes :: closers) true _ inside apart'
  have leading := gap_scans (closes :: closers) true lead
    (cs ++ (css.flatMap (',' :: gap ++ ·) ++ (trail ++ closing :: rest))) inside leads
  have whole := (opening_scans pair closers lineOpen _).trans
    (leading.trans (first.trans (following.trans (trailing.trans ended))))
  simpa [Parser.separated] using whole

theorem bracketed_spelled {opening closing : Char} {opens closes : Symbol}
    (pair : IsBracket opening closing opens closes) (block : Bool) (indent : Int) (css : List (List Char))
    (lss : List (List Lexeme)) (parts : List.Forall₂ SpelledInside css lss) :
    Spelled (Expr.bracketed opening closing block indent css)
      (.symbol opens :: Parser.separated lss ++ [.symbol closes]) := by
  cases parts with
  | nil =>
    intro closers lineOpen rest _
    exact (opening_scans pair closers lineOpen (closing :: rest)).trans (closing_scans pair closers true rest)
  | @cons cs ls css lss first parts =>
    cases block with
    | false =>
      have space : IsGap [' '] := by intro c member; exact .inl (List.mem_singleton.mp member)
      have spelled := bracket_spelled pair [] [' '] [] nil_gap space nil_gap cs css ls lss first parts
      simpa [Expr.bracketed, intercalate_cons] using spelled
    | true =>
      have gap := newline_margin_gap (indent + 1)
      have spelled := bracket_spelled pair _ _ _ gap gap (newline_margin_gap indent) cs css ls lss first parts
      simpa [Expr.bracketed, intercalate_cons, List.flatMap_map] using spelled

theorem paren_spelled (cs : List Char) (ls : List Lexeme) (spelled : Spelled cs ls) :
    Spelled ('(' :: cs ++ [')']) (.symbol .openParen :: ls ++ [.symbol .closeParen]) := by
  simpa [Parser.separated, Parser.led] using
    bracket_spelled .paren [] [] [] nil_gap nil_gap nil_gap cs [] ls [] spelled.inside .nil

end DamagePlan.Script
