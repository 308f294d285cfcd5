import Mathlib.Tactic.IntervalCases
import DamagePlan.Json.Parser
import DamagePlan.Json.Printer

/-!
String literals read back as the text they were written for.
-/
set_option autoImplicit false

namespace DamagePlan.Json

def IsPlain (c : Char) : Prop := c ≠ '"' ∧ c ≠ '\\' ∧ 32 ≤ c.toNat

inductive Written (c : Char) : List Char → Prop
  | plain (isPlain : IsPlain c) : Written c [c]
  | escaped (mark : Char) (short : mark ≠ 'u') (means : simpleEscape? mark = some c) : Written c ['\\', mark]
  | unicode (h i j k : Char) (control : c.toNat < 32) (means : hex4? h i j k = some c.toNat)
      (plain : ∀ d ∈ [h, i, j, k], IsPlain d) : Written c ['\\', 'u', h, i, j, k]

theorem hex_digit_read (d : Nat) (small : d < 16) :
    hexValue? (Text.Quoted.hexDigit d) = some d ∧ IsPlain (Text.Quoted.hexDigit d) := by
  unfold IsPlain
  interval_cases d <;> decide

theorem unit_digits (n : Nat) (small : n < 0x10000) : ∃ h i j k, Text.Quoted.hexDigits 4 n = [h, i, j, k] ∧
    hex4? h i j k = some n ∧ ∀ d ∈ [h, i, j, k], IsPlain d := by
  have digit (m : Nat) := hex_digit_read (m % 16) (Nat.mod_lt m (by decide))
  refine ⟨_, _, _, _, rfl, ?_, ?_⟩
  · simp only [hex4?, (digit _).1, Option.bind_eq_bind, Option.bind_some, Option.pure_def, Option.some.injEq]
    omega
  · simp only [List.forall_mem_cons]
    exact ⟨(digit _).2, (digit _).2, (digit _).2, (digit _).2, nofun⟩

theorem escape_written (c : Char) : Written c (escapeChar false c) := by
  unfold escapeChar
  by_cases quote : c = '"'
  · subst quote; exact .escaped '"' (by decide) rfl
  by_cases backslash : c = '\\'
  · subst backslash; exact .escaped '\\' (by decide) rfl
  by_cases newline : c = '\n'
  · subst newline; exact .escaped 'n' (by decide) rfl
  by_cases carriage : c = '\r'
  · subst carriage; exact .escaped 'r' (by decide) rfl
  by_cases tab : c = '\t'
  · subst tab; exact .escaped 't' (by decide) rfl
  by_cases feed : c = '\x0c'
  · subst feed; exact .escaped 'f' (by decide) rfl
  by_cases back : c = '\x08'
  · subst back; exact .escaped 'b' (by decide) rfl
  by_cases control : c.toNat < 32
  · have small : c.toNat < 0x10000 := by omega
    obtain ⟨h, i, j, k, digits, means, plain⟩ := unit_digits c.toNat small
    simpa [quote, backslash, newline, carriage, tab, feed, back, control, asciiEscape, small, unicodeEscape, digits]
      using Written.unicode h i j k control means plain
  · simpa [quote, backslash, newline, carriage, tab, feed, back, control]
      using Written.plain ⟨quote, backslash, Nat.le_of_not_lt control⟩

theorem hex_plain (c : Char) (n : Nat) (means : hexValue? c = some n) : IsPlain c := by
  have range : 48 ≤ c.toNat ∧ c.toNat ≤ 57 ∨ 97 ≤ c.toNat ∧ c.toNat ≤ 102 ∨ 65 ≤ c.toNat ∧ c.toNat ≤ 70 := by
    unfold hexValue? at means
    split at means
    · rename_i digit
      exact .inl (by simpa [Char.le_def, UInt32.le_iff_toNat_le] using digit)
    split at means
    · rename_i small
      exact .inr (.inl (by simpa [Char.le_def, UInt32.le_iff_toNat_le] using small))
    split at means
    · rename_i large
      exact .inr (.inr (by simpa [Char.le_def, UInt32.le_iff_toNat_le] using large))
    · cases means
  refine ⟨?_, ?_, by omega⟩ <;>
  · rintro rfl
    revert range
    decide

theorem hex4_plain (h i j k : Char) (unit : Nat) (means : hex4? h i j k = some unit) : ∀ d ∈ [h, i, j, k], IsPlain d := by
  simp only [hex4?, Option.bind_eq_bind, Option.bind_eq_some_iff] at means
  obtain ⟨_, first, _, second, _, third, _, fourth, -⟩ := means
  simp only [List.forall_mem_cons]
  exact ⟨hex_plain h _ first, hex_plain i _ second, hex_plain j _ third, hex_plain k _ fourth, nofun⟩

def halfOf (unit : Nat) : Option Nat := if 0xd800 ≤ unit && unit ≤ 0xdbff then some unit else none

section Reading

variable (start pos : Nat) (high : Option Nat) (taken rest : List Char)

theorem read_plain (c : Char) (isPlain : IsPlain c) :
    stringRest start high taken (c :: rest) pos = stringRest start none (c :: taken) rest (pos + 1) := by
  obtain ⟨quote, backslash, visible⟩ := isPlain
  rw [stringRest.eq_def]
  split
  · contradiction
  · rename_i same; cases same; contradiction
  · rename_i same; cases same; contradiction
  · rename_i same; cases same; contradiction
  · rename_i same; cases same; contradiction
  · rename_i same
    cases same
    rw [if_neg (Nat.not_lt.mpr visible)]

theorem read_escaped (c mark : Char) (short : mark ≠ 'u') (means : simpleEscape? mark = some c) :
    stringRest start high taken ('\\' :: mark :: rest) pos = stringRest start none (c :: taken) rest (pos + 2) := by
  rw [stringRest.eq_def]
  split
  · contradiction
  · rename_i same; cases same
  · rename_i same; cases same
  · rename_i same; cases same; contradiction
  · rename_i same
    cases same
    simp [short, means]
  · rename_i other same
    cases same
    exact (other mark rest rfl rfl).elim

theorem read_unicode (h i j k next : Char) (unit : Nat) (means : hex4? h i j k = some unit) :
    stringRest start high taken ('\\' :: 'u' :: h :: i :: j :: k :: next :: rest) pos =
      stringRest start (halfOf unit) (pushUnit high unit taken) (next :: rest) (pos + 6) := by
  rw [stringRest.eq_def]
  simp only [means]
  rfl

end Reading

inductive Contents : Option Nat → List Char → List Char → List Char → Prop
  | nil (high : Option Nat) (taken : List Char) : Contents high taken [] taken
  | plain {high : Option Nat} {taken body result : List Char} (c : Char) (isPlain : IsPlain c)
      (more : Contents none (c :: taken) body result) : Contents high taken (c :: body) result
  | escaped {high : Option Nat} {taken body result : List Char} (c mark : Char) (means : simpleEscape? mark = some c)
      (more : Contents none (c :: taken) body result) : Contents high taken ('\\' :: mark :: body) result
  | unicode {high : Option Nat} {taken body result : List Char} (h i j k : Char) (unit : Nat)
      (means : hex4? h i j k = some unit) (more : Contents (halfOf unit) (pushUnit high unit taken) body result) :
      Contents high taken ('\\' :: 'u' :: h :: i :: j :: k :: body) result

theorem contents_read {high : Option Nat} {taken body result : List Char} (contents : Contents high taken body result)
    (start : Nat) (rest : List Char) : ∀ pos, stringRest start high taken (body ++ '"' :: rest) pos =
      .ok ⟨String.ofList result.reverse, rest, pos + body.length + 1⟩ := by
  induction contents with
  | nil high taken => intro pos; simp [stringRest]
  | plain c isPlain more ih =>
    intro pos
    rw [List.cons_append, read_plain _ _ _ _ _ c isPlain, ih, List.length_cons, Nat.add_right_comm pos 1, Nat.add_assoc pos]
  | escaped c mark means more ih =>
    intro pos
    have short : mark ≠ 'u' := by rintro rfl; cases means
    rw [List.cons_append, List.cons_append, read_escaped _ _ _ _ _ c mark short means, ih]
    simp only [List.length_cons]
    congr 2
    omega
  | @unicode high taken body result h i j k unit means more ih =>
    intro pos
    -- the escape is read only with a character after it, which the closing quote is at the latest
    cases following : body ++ '"' :: rest with
    | nil => simp at following
    | cons next after =>
      have read := ih (pos + 6)
      rw [following] at read
      simp only [List.cons_append, following]
      rw [read_unicode _ _ _ _ _ h i j k next unit means, read]
      simp only [List.length_cons]
      congr 2
      omega

theorem contents_taken (start : Nat) (high : Option Nat) (taken cs : List Char) (pos : Nat) : ∀ r : Read String,
    stringRest start high taken cs pos = .ok r → ∃ body result, cs = body ++ '"' :: r.rest ∧
      Contents high taken body result ∧ r.value = String.ofList result.reverse := by
  fun_induction stringRest start high taken cs pos with
  | case1 | case3 | case4 | case6 | case8 | case9 => nofun
  | case2 high taken rest pos =>
    rintro _ ⟨⟩
    exact ⟨[], taken, rfl, .nil high taken, rfl⟩
  | case5 high taken h i j k next rest pos unit means ih =>
    intro r read
    obtain ⟨body, result, split, contents, value⟩ := ih r read
    exact ⟨'\\' :: 'u' :: h :: i :: j :: k :: body, result, by simp [split], .unicode h i j k unit means contents, value⟩
  | case7 high taken mark rest pos _ short c means ih =>
    intro r read
    obtain ⟨body, result, split, contents, value⟩ := ih r read
    exact ⟨'\\' :: mark :: body, result, by simp [split], .escaped c mark means contents, value⟩
  | case10 high taken c rest pos noQuote lone _ noEscape visible ih =>
    intro r read
    obtain ⟨body, result, split, contents, value⟩ := ih r read
    have isPlain : IsPlain c := by
      refine ⟨noQuote, fun backslash => ?_, Nat.le_of_not_lt visible⟩
      cases rest with
      | nil => exact lone backslash rfl
      | cons d ds => exact noEscape d ds backslash rfl
    exact ⟨c :: body, result, by rw [split]; rfl, .plain c isPlain contents, value⟩

inductive Literal : List Char → String → Prop
  | mk {body result : List Char} (contents : Contents none [] body result) :
      Literal ('"' :: (body ++ ['"'])) (String.ofList result.reverse)

theorem character_valid (c : Char) : c.toNat < 0xd800 ∨ 0xdfff < c.toNat ∧ c.toNat < 0x110000 := c.valid

theorem unit_char_of_character (c : Char) : unitChar c.toNat = c := by
  have valid := character_valid c
  have lone : (decide (0xd800 ≤ c.toNat) && decide (c.toNat ≤ 0xdfff)) = false := by
    simp only [Bool.and_eq_false_iff, decide_eq_false_iff_not]
    omega
  rw [unitChar, lone, if_neg (by decide), Char.ofNat_toNat]

theorem half_of_character (c : Char) : halfOf c.toNat = none := by
  have valid := character_valid c
  rw [halfOf, if_neg]
  simp only [Bool.and_eq_true, decide_eq_true_eq]
  omega

section Writing

variable {taken body result : List Char} (c : Char) (more : Contents none (c :: taken) body result)
include more

theorem short_escape_contents (small : c.toNat < 0x10000) : Contents none taken (unicodeEscape c.toNat ++ body) result := by
  obtain ⟨h, i, j, k, digits, means, -⟩ := unit_digits c.toNat small
  rw [unicodeEscape, digits]
  refine .unicode h i j k c.toNat means ?_
  rwa [half_of_character, pushUnit, unit_char_of_character]

theorem pair_escape_contents (large : 0x10000 ≤ c.toNat) : Contents none taken (asciiEscape c.toNat ++ body) result := by
  have valid := character_valid c
  set first := 0xd800 + (c.toNat - 0x10000) / 0x400 with firstUnit
  set second := 0xdc00 + (c.toNat - 0x10000) % 0x400 with secondUnit
  have firstHalf : halfOf first = some first := by
    rw [halfOf, if_pos]
    simp only [Bool.and_eq_true, decide_eq_true_eq]
    omega
  have secondHalf : halfOf second = none := by
    rw [halfOf, if_neg]
    simp only [Bool.and_eq_true, decide_eq_true_eq]
    omega
  have joined (before : List Char) : pushUnit (some first) second before = c :: before.tail := by
    have inside : (decide (0xdc00 ≤ second) && decide (second ≤ 0xdfff)) = true := by
      simp only [Bool.and_eq_true, decide_eq_true_eq]
      omega
    have whole : 0x10000 + (first - 0xd800) * 0x400 + (second - 0xdc00) = c.toNat := by omega
    simp only [pushUnit, inside, if_true, whole, Char.ofNat_toNat]
  obtain ⟨h, i, j, k, digits, means, -⟩ := unit_digits first (by omega)
  obtain ⟨h', i', j', k', digits', means', -⟩ := unit_digits second (by omega)
  rw [asciiEscape, if_neg (Nat.not_lt.mpr large), unicodeEscape, unicodeEscape, ← firstUnit, ← secondUnit, digits, digits']
  refine .unicode h i j k first means (.unicode h' i' j' k' second means' ?_)
  rw [firstHalf, secondHalf, joined]
  exact more

theorem escape_contents (asciiOnly : Bool) : Contents none taken (escapeChar asciiOnly c ++ body) result := by
  by_cases coded : asciiOnly = true ∧ 127 ≤ c.toNat
  · have other (d : Char) (low : d.toNat < 127) : (c == d) = false := by
      refine beq_false_of_ne fun same => ?_
      rw [same] at coded
      omega
    have text : escapeChar asciiOnly c = asciiEscape c.toNat := by
      have beyond : (decide (c.toNat < 32) || asciiOnly && decide (127 ≤ c.toNat)) = true := by simp [coded]
      simp [escapeChar, other _ (by decide : '"'.toNat < 127), other _ (by decide : '\\'.toNat < 127),
        other _ (by decide : '\n'.toNat < 127), other _ (by decide : '\r'.toNat < 127),
        other _ (by decide : '\t'.toNat < 127), other _ (by decide : '\x0c'.toNat < 127),
        other _ (by decide : '\x08'.toNat < 127), beyond]
    rw [text]
    rcases Nat.lt_or_ge c.toNat 0x10000 with small | large
    · rw [asciiEscape, if_pos small]
      exact short_escape_contents c more small
    · exact pair_escape_contents c more large
  · have text : escapeChar asciiOnly c = escapeChar false c := by
      have low : (asciiOnly && decide (127 ≤ c.toNat)) = false := by
        rw [Bool.and_eq_false_iff, decide_eq_false_iff_not, ← Bool.not_eq_true, ← not_and_or]
        exact coded
      simp only [escapeChar, low, Bool.false_and]
    have written := escape_written c
    rw [text]
    generalize escapeChar false c = shown at written
    cases written with
    | plain isPlain => exact .plain c isPlain more
    | escaped mark short means => exact .escaped c mark means more
    | unicode h i j k control means plain =>
      refine .unicode h i j k c.toNat means ?_
      rwa [half_of_character, pushUnit, unit_char_of_character]

end Writing

theorem text_contents (asciiOnly : Bool) (cs : List Char) : ∀ taken,
    Contents none taken (cs.flatMap (escapeChar asciiOnly)) (cs.reverse ++ taken) := by
  induction cs with
  | nil => exact .nil none
  | cons c cs ih =>
    intro taken
    rw [List.flatMap_cons, List.reverse_cons, List.append_assoc]
    exact escape_contents c (ih (c :: taken)) asciiOnly

theorem string_literal_reads (asciiOnly : Bool) (s : String) : Literal (stringLiteral asciiOnly s) s := by
  have literal := Literal.mk (text_contents asciiOnly s.toList [])
  rwa [List.append_nil, List.reverse_reverse, String.ofList_toList] at literal

theorem string_rest_escaped (start : Nat) (rest cs : List Char) (taken : List Char) (pos : Nat) : ∃ pos',
    stringRest start none taken (cs.flatMap (escapeChar false) ++ '"' :: rest) pos =
      .ok ⟨String.ofList (taken.reverse ++ cs), rest, pos'⟩ := by
  have read := contents_read (text_contents false cs taken) start rest pos
  rw [List.reverse_append, List.reverse_reverse] at read
  exact ⟨_, read⟩

end DamagePlan.Json
