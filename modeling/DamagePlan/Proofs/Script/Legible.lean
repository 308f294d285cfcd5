import DamagePlan.Proofs.Script.Spelling
import DamagePlan.Proofs.Steps

/-!
Texts that are read as an expression wherever one of their power may stand, one law for each way in which
expressions are printed.
-/
set_option autoImplicit false

namespace DamagePlan.Script

open DamagePlan.Script.Parser (Phrase ofWord separated)
open DamagePlan.Script.Parser.Phrase (Parts EntryPhrase IsKey)

def Unjoined (cs : List Char) : Prop := ∀ c ∈ cs.head?, c ≠ '=' ∧ c ≠ '>'

theorem apart_unjoined (rest : List Char) (apart : Apart rest) : Unjoined rest := by
  intro c first
  have separates := apart.2 c first
  simp only [separators, List.mem_cons, List.not_mem_nil, or_false] at separates
  rcases separates with rfl | rfl | rfl | rfl | rfl | rfl | rfl | rfl | rfl | rfl <;> decide

theorem unjoined_append (cs ds : List Char) (first : Unjoined cs) (second : Unjoined ds) : Unjoined (cs ++ ds) := by
  cases cs with
  | nil => exact second
  | cons c cs => exact first

theorem unjoined_cons (c : Char) (cs : List Char) (noEqual : c ≠ '=') (noGreater : c ≠ '>') : Unjoined (c :: cs) := by
  intro d first
  obtain rfl : c = d := by simpa using first
  exact ⟨noEqual, noGreater⟩

theorem append_spelled (cs ds : List Char) (ls ms : List Lexeme) (apart : ∀ rest, Apart rest → Apart (ds ++ rest))
    (first : Spelled cs ls) (second : Spelled ds ms) : Spelled (cs ++ ds) (ls ++ ms) := by
  intro closers lineOpen rest after
  simpa using (first closers lineOpen (ds ++ rest) (apart rest after)).trans (second closers true rest after)

theorem space_spelled (cs : List Char) (ls : List Lexeme) (spelled : Spelled cs ls) : Spelled (' ' :: cs) ls := by
  intro closers lineOpen rest after
  exact (Scans.blank ' ' (cs ++ rest) rfl).trans (spelled closers lineOpen rest after)

theorem symbol_spelled (s : Symbol) (cs : List Char) (ls : List Lexeme) (lone : s.closer? = none)
    (open_ : s.isCloser = false) (ends : ∀ rest, Apart rest → s.Ends (cs ++ rest)) (spelled : Spelled cs ls) :
    Spelled (s.text.toList ++ cs) (.symbol s :: ls) := by
  intro closers lineOpen rest after
  have first := s.scans closers closers lineOpen (cs ++ rest) (ends rest after) fun _ => by simp [owedAfter, lone, open_]
  simpa using first.trans (spelled closers true rest after)

theorem spaced_spelled (s : Symbol) (cs : List Char) (ls : List Lexeme) (lone : s.closer? = none)
    (open_ : s.isCloser = false) (noDot : s ≠ .dot) (spelled : Spelled cs ls) :
    Spelled (' ' :: s.text.toList ++ ' ' :: cs) (.symbol s :: ls) := by
  have ends : ∀ rest, Apart rest → s.Ends (' ' :: cs ++ rest) := by
    intro rest _
    exact ⟨fun _ => unjoined_cons ' ' _ (by decide) (by decide), fun same => absurd same noDot⟩
  exact space_spelled _ _ (symbol_spelled s _ ls lone open_ ends (space_spelled cs ls spelled))

theorem space_apart (cs rest : List Char) : Apart (' ' :: cs ++ rest) := apart_cons ' ' _ (by decide) (by decide)

def Legible (cs : List Char) (e : Expr) (q : Int) (n : Nat) : Prop :=
  ∃ ls, Spelled cs ls ∧ Phrase ls e q n ∧ (0 ≤ q → Unjoined cs)

namespace Legible

variable {cs ds bs : List Char} {e f g : Expr} {q r s : Int} {n m k : Nat}

theorem mono (more : n ≤ m) (legible : Legible cs e q n) : Legible cs e q m := by
  obtain ⟨ls, spelled, phrase, free⟩ := legible
  exact ⟨ls, spelled, phrase.mono more, free⟩

theorem loosen (less : r ≤ q) (legible : Legible cs e q n) : Legible cs e r n := by
  obtain ⟨ls, spelled, phrase, free⟩ := legible
  exact ⟨ls, spelled, phrase.loosen less, fun nonneg => free (by omega)⟩

theorem number (x : Float) (numeral : IsNumeral cs x) : Legible cs (.number x) 9 0 := by
  refine ⟨_, numeral_spelled cs x numeral, .number x, fun _ => ?_⟩
  obtain ⟨c, more, rfl, digit⟩ := numeral.begins
  refine unjoined_cons c more ?_ ?_ <;> rintro rfl <;> cases digit

theorem string (t : String) : Legible (stringText t).toList (.string t) 9 0 := by
  refine ⟨_, string_spelled t, .string t, fun _ => ?_⟩
  simp only [stringText, Json.stringLiteral, String.toList_ofList, List.cons_append]
  exact unjoined_cons _ _ (by decide) (by decide)

theorem word (id : String) (named : isName id.toList = true) : Legible id.toList (ofWord id) 9 0 := by
  have spelled := name_spelled id.toList named
  rw [String.ofList_toList] at spelled
  refine ⟨_, spelled, .word id, fun _ => ?_⟩
  generalize id.toList = cs at named
  cases cs with
  | nil => cases named
  | cons c cs =>
    simp only [isName, Bool.and_eq_true] at named
    refine unjoined_cons c cs ?_ ?_ <;> rintro rfl <;> exact absurd named.1 (by decide)

theorem paren (legible : Legible cs e q n) : Legible ('(' :: cs ++ [')']) e 9 (n + 1) := by
  obtain ⟨ls, spelled, phrase, _⟩ := legible
  exact ⟨_, paren_spelled cs ls spelled, phrase.paren, fun _ => unjoined_cons _ _ (by decide) (by decide)⟩

theorem operand (p : Int) (needed : Bool) (high : p ≤ 9) (free : needed = false → p ≤ q) (legible : Legible cs e q n) :
    Legible (Expr.parenthesize cs needed) e p (n + 1) := by
  cases needed with
  | true => exact legible.paren.loosen high
  | false => exact (legible.loosen (free rfl)).mono (Nat.le_succ n)

theorem member (part : String) (tight : 8 ≤ q) (named : isName part.toList = true) (legible : Legible cs e q n) :
    Legible (cs ++ '.' :: part.toList) (.member e part) 9 n := by
  obtain ⟨ls, spelled, phrase, free⟩ := legible
  -- a point before a digit would begin a number; names do not begin with digits
  have noNumber : ∀ rest, startsNumber ('.' :: (part.toList ++ rest)) = false := by
    intro rest
    generalize part.toList = cs at named
    cases cs with
    | nil => cases named
    | cons c cs =>
      simp only [isName, Bool.and_eq_true] at named
      have noDigit := (name_begins c named.1).2.2.2
      simp only [Text.isAsciiDigit] at noDigit
      simp [startsNumber, Text.isAsciiDigit, noDigit]
  have name := name_spelled part.toList named
  rw [String.ofList_toList] at name
  have dotted := symbol_spelled .dot _ _ rfl rfl (fun rest _ => ⟨(by simp [Symbol.mayJoin]), fun _ => noNumber rest⟩) name
  have apart : ∀ rest, Apart rest → Apart ('.' :: part.toList ++ rest) := by
    intro rest _
    exact ⟨noNumber rest, by simp [separators]⟩
  refine ⟨_, append_spelled _ _ _ _ apart spelled dotted, phrase.member part tight, fun _ => ?_⟩
  exact unjoined_append _ _ (free (by omega)) (unjoined_cons _ _ (by decide) (by decide))

theorem index (tight : 8 ≤ q) (obj : Legible cs e q n) (key : Legible ds f r m) :
    Legible (cs ++ '[' :: ds ++ [']']) (.index e f) 9 (max n (m + 1)) := by
  obtain ⟨ls, spelled, phrase, free⟩ := obj
  obtain ⟨ms, spelledKey, phraseKey, _⟩ := key
  have keyed := bracket_spelled .bracket [] [] [] nil_gap nil_gap nil_gap ds [] ms [] spelledKey.inside .nil
  have apart : ∀ rest, Apart rest → Apart ('[' :: (ds ++ [']']) ++ rest) := fun rest _ =>
    apart_cons _ _ (by decide) (by decide)
  have whole := append_spelled cs ('[' :: (ds ++ [']'])) ls (.symbol .openBracket :: (ms ++ [.symbol .closeBracket]))
    apart spelled (by simpa [separated, Parser.led] using keyed)
  refine ⟨_, by simpa using whole, by simpa using phrase.index tight phraseKey, fun _ => ?_⟩
  rw [List.append_assoc]
  exact unjoined_append _ _ (free (by omega)) (unjoined_cons _ _ (by decide) (by decide))

def AllLegible (n : Nat) (css : List (List Char)) (es : List Expr) : Prop :=
  List.Forall₂ (fun cs e => Legible cs e (-1) n) css es

theorem parts_spelled (css : List (List Char)) (es : List Expr) (parts : AllLegible n css es) :
    ∃ lss, List.Forall₂ SpelledInside css lss ∧ Parts n lss es :=
  pairs_between css es <| parts.imp fun cs e legible => by
    obtain ⟨ls, spelled, phrase, _⟩ := legible
    exact ⟨ls, spelled.inside, phrase⟩

theorem call (css : List (List Char)) (es : List Expr) (tight : 8 ≤ q) (func : Legible cs e q n)
    (args : AllLegible m css es) :
    Legible (cs ++ '(' :: [',', ' '].intercalate css ++ [')']) (.call e es) 9 (max n (m + 1)) := by
  obtain ⟨ls, spelled, phrase, free⟩ := func
  obtain ⟨lss, spelledArgs, phrases⟩ := parts_spelled css es args
  -- arguments are never broken into lines
  have inline : Expr.bracketed '(' ')' false 0 css = '(' :: ([',', ' '].intercalate css ++ [')']) := by
    cases css <;> rfl
  have listed := bracketed_spelled .paren false 0 css lss spelledArgs
  rw [inline] at listed
  have apart : ∀ rest, Apart rest → Apart ('(' :: ([',', ' '].intercalate css ++ [')']) ++ rest) := fun rest _ =>
    apart_cons _ _ (by decide) (by decide)
  have whole := append_spelled cs _ ls _ apart spelled listed
  refine ⟨_, by simpa using whole, by simpa using phrase.call lss es tight phrases, fun _ => ?_⟩
  rw [List.append_assoc]
  exact unjoined_append _ _ (free (by omega)) (unjoined_cons _ _ (by decide) (by decide))

theorem unary_op (op : UnaryOp) (tight : 7 ≤ q) (legible : Legible cs e q n) :
    Legible (op.text.toList ++ cs) (.unary op e) 7 (n + 1) := by
  obtain ⟨ls, spelled, phrase, free⟩ := legible
  have text : op.text = op.symbol.text := by cases op <;> rfl
  have lone : op.symbol.closer? = none := by cases op <;> rfl
  have open_ : op.symbol.isCloser = false := by cases op <;> rfl
  have noDot : op.symbol ≠ .dot := by cases op <;> decide
  have ends : ∀ rest, Apart rest → op.symbol.Ends (cs ++ rest) := fun rest apart =>
    ⟨fun _ => unjoined_append cs rest (free (by omega)) (apart_unjoined rest apart), fun same => absurd same noDot⟩
  refine ⟨_, ?_, phrase.unary_op op tight, fun _ => ?_⟩
  · rw [text]
    exact symbol_spelled op.symbol cs ls lone open_ ends spelled
  · cases op <;> exact unjoined_cons _ _ (by decide) (by decide)

theorem binary_op (op : BinaryOp) (loose : (op.power : Int) ≤ q) (tight : (op.power : Int) + 1 ≤ r)
    (left : Legible cs e q n) (right : Legible ds f r m) :
    Legible (cs ++ ' ' :: op.text.toList ++ ' ' :: ds) (.binary op e f) op.power (max n m) := by
  obtain ⟨ls, spelled, phrase, free⟩ := left
  obtain ⟨ms, spelledRight, phraseRight, _⟩ := right
  have text : op.text = op.symbol.text := by cases op <;> rfl
  have lone : op.symbol.closer? = none := by cases op <;> rfl
  have open_ : op.symbol.isCloser = false := by cases op <;> rfl
  have noDot : op.symbol ≠ .dot := by cases op <;> decide
  have spaced := spaced_spelled op.symbol ds ms lone open_ noDot spelledRight
  rw [← text] at spaced
  refine ⟨_, ?_, phrase.binary_op op loose tight phraseRight, fun _ => ?_⟩
  · simpa using append_spelled cs _ ls _ (fun rest _ => space_apart _ rest) spelled spaced
  · rw [List.append_assoc]
    exact unjoined_append _ _ (free (by omega)) (unjoined_cons _ _ (by decide) (by decide))

theorem conditional (tight : 1 ≤ q) (test : Legible cs e q n) (consequent : Legible ds f r m)
    (alternative : Legible bs g s k) :
    Legible (cs ++ ' ' :: '?' :: ' ' :: ds ++ ' ' :: ':' :: ' ' :: bs) (.conditional e f g) 0 (max n (max m k + 1)) := by
  obtain ⟨ls, spelled, phrase, free⟩ := test
  obtain ⟨ms, spelledThen, phraseThen, _⟩ := consequent
  obtain ⟨ks, spelledElse, phraseElse, _⟩ := alternative
  have otherwise := spaced_spelled .colon bs ks rfl rfl (by decide) spelledElse
  have choice := append_spelled ds _ ms _ (fun rest _ => space_apart _ rest) spelledThen otherwise
  have asked := spaced_spelled .question _ _ rfl rfl (by decide) choice
  have whole := append_spelled cs _ ls _ (fun rest _ => space_apart _ rest) spelled asked
  refine ⟨_, ?_, phrase.conditional tight phraseThen phraseElse, fun _ => ?_⟩
  · simpa [Symbol.text] using whole
  · rw [List.append_assoc]
    exact unjoined_append _ _ (free (by omega)) (unjoined_cons _ _ (by decide) (by decide))

theorem deferred (legible : Legible cs e q n) : Legible ('=' :: '>' :: ' ' :: cs) (.deferred e) (-1) (n + 1) := by
  obtain ⟨ls, spelled, phrase, _⟩ := legible
  have arrow := symbol_spelled .arrow _ ls rfl rfl (fun _ _ => Symbol.ends_anywhere .arrow _ rfl (by decide)) (space_spelled cs ls spelled)
  exact ⟨_, arrow, phrase.deferred, fun nonneg => absurd nonneg (by decide)⟩

theorem list (block : Bool) (indent : Int) (css : List (List Char)) (es : List Expr) (parts : AllLegible n css es) :
    Legible (Expr.bracketed '[' ']' block indent css) (.list es) 9 (n + 1) := by
  obtain ⟨lss, spelled, phrases⟩ := parts_spelled css es parts
  refine ⟨_, bracketed_spelled .bracket block indent css lss spelled, .list lss es phrases, fun _ => ?_⟩
  cases css <;> cases block <;> exact unjoined_cons _ _ (by decide) (by decide)

def EntryLegible (n : Nat) (cs : List Char) (entry : String × Expr) : Prop :=
  ∃ ls, Spelled cs ls ∧ EntryPhrase n ls entry

def IsSafeKey (key : String) : Prop := key.toList.getLast? ≠ some '\n'

instance (key : String) : Decidable (IsSafeKey key) := inferInstanceAs (Decidable (_ ≠ _))

theorem plain_name (cs : List Char) (plain : isPlainName cs = true) : isName cs = true := by
  cases cs with
  | nil => cases plain
  | cons c cs =>
    have start : ∀ d, isPlainNameStart d = true → startsName d = true ∧ continuesName d = true := by
      intro d start
      simp only [isPlainNameStart, Bool.or_eq_true, beq_iff_eq] at start
      rcases start with (letter | rfl) | rfl
      · have small : d.toNat < 128 := by
          simp [Text.isAsciiLetter, char_le] at letter
          omega
        simp [startsName, continuesName, char_ascii d small, Text.isLetterOrNumeral, small, letter]
      · exact ⟨by decide, by decide⟩
      · exact ⟨by decide, by decide⟩
    have digit : ∀ d, Text.isAsciiDigit d = true → continuesName d = true := by
      intro d digit
      have small : d.toNat < 128 := by
        simp [Text.isAsciiDigit, char_le] at digit
        omega
      simp [continuesName, Text.isLetterOrNumeral, small, digit]
    simp only [isPlainName, Bool.and_eq_true, List.all_eq_true, Bool.or_eq_true] at plain
    simp only [isName, Bool.and_eq_true, List.all_eq_true]
    exact ⟨(start c plain.1).1, fun d member => (plain.2 d member).elim (fun s => (start d s).2) (digit d)⟩

theorem key_spelled (key : String) (safe : IsSafeKey key) : ∃ l, Spelled (keyText key).toList [l] ∧ IsKey l key := by
  by_cases bare : isBareKey key = true
  · have named : isName key.toList = true := by
      simp only [isBareKey, Text.withoutFinalNewline, if_neg safe, Bool.and_eq_true] at bare
      exact plain_name _ bare.1
    have spelled := name_spelled key.toList named
    rw [String.ofList_toList] at spelled
    exact ⟨.ident key, by rw [keyText, if_pos bare]; exact spelled, .name key⟩
  · exact ⟨.string key, by rw [keyText, if_neg bare]; exact string_spelled key, .quoted key⟩

theorem entry_spelled (key : String) (safe : IsSafeKey key) (ls : List Lexeme) (spelled : Spelled cs ls) :
    ∃ l, Spelled ((keyText key).toList ++ ':' :: ' ' :: cs) (l :: .symbol .colon :: ls) ∧ IsKey l key := by
  obtain ⟨l, keyed, isKey⟩ := key_spelled key safe
  have colon := symbol_spelled .colon _ ls rfl rfl (fun _ _ => Symbol.ends_anywhere .colon _ rfl (by decide)) (space_spelled cs ls spelled)
  have apart : ∀ rest, Apart rest → Apart (':' :: ' ' :: cs ++ rest) := fun rest _ =>
    apart_cons _ _ (by decide) (by decide)
  exact ⟨l, append_spelled _ _ _ _ apart keyed colon, isKey⟩

theorem entry (key : String) (safe : IsSafeKey key) (loose : -1 ≤ q) (legible : Legible cs e q n) :
    EntryLegible n ((keyText key).toList ++ ':' :: ' ' :: cs) (key, e) := by
  obtain ⟨ls, spelled, phrase, _⟩ := legible
  obtain ⟨l, keyed, isKey⟩ := entry_spelled key safe ls spelled
  exact ⟨_, keyed, l, ls, rfl, isKey, phrase.loosen loose⟩

theorem entry_mono {field : String × Expr} (more : n ≤ m) (entry : EntryLegible n cs field) :
    EntryLegible m cs field := by
  obtain ⟨ls, spelled, l, ms, shape, isKey, phrase⟩ := entry
  exact ⟨ls, spelled, l, ms, shape, isKey, phrase.mono more⟩

theorem record (block : Bool) (indent : Int) (css : List (List Char)) (fields : List (String × Expr))
    (distinct : (fields.map (·.1)).Nodup) (parts : List.Forall₂ (EntryLegible n) css fields) :
    Legible (Expr.bracketed '\x7b' '\x7d' block indent css) (.record fields) 9 (n + 1) := by
  obtain ⟨lss, spelled, phrases⟩ := pairs_between css fields (R := SpelledInside) (S := EntryPhrase n) <|
    parts.imp fun cs field entry => by
      obtain ⟨ls, spelled, phrase⟩ := entry
      exact ⟨ls, spelled.inside, phrase⟩
  refine ⟨_, bracketed_spelled .brace block indent css lss spelled, .record lss fields distinct phrases, fun _ => ?_⟩
  cases css <;> cases block <;> exact unjoined_cons _ _ (by decide) (by decide)

end Legible

end DamagePlan.Script
