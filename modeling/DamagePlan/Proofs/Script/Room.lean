import DamagePlan.Proofs.Script.Exported
import DamagePlan.Proofs.Script.IfRead
import DamagePlan.Proofs.Script.Language

/-!
Room for nesting: what is read within some levels has parts that are read within the levels left to them.
-/
set_option autoImplicit false

namespace DamagePlan.Script

open DamagePlan.Script.Parser (Carries FailsDeep Phrase Solid exprAt lexemes pull pullOf)
open DamagePlan.Script.Parser.Phrase (EntryPhrase Nests Parts)
open Text (trim)

namespace Parser

section Parts

variable {ls : List Lexeme} {e f : Expr} {q : Int} {n d : Nat}

theorem Phrase.nests_of_read (phrase : Phrase ls e q n) (tokens rest : List Token) (carried : Carries tokens ls)
    (free : pullOf rest < 0) (r : Expr × List Token) (read : exprAt d (tokens ++ rest) = .ok r) : Nests d ls e := by
  rcases phrase.reads_or_deep d tokens rest carried free with whole | ⟨pos, deep⟩
  · obtain ⟨front, same, -, derived⟩ := (levels_take d).1 _ _ _ whole
    rw [← List.append_cancel_right same, lexemes, carried] at derived
    exact derived.read
  · rw [deep] at read
    cases read

def bare (ls : List Lexeme) : List Token := ls.map (⟨·, 0⟩)

theorem bare_carries (ls : List Lexeme) : Carries (bare ls) ls := by simp [Carries, bare, Function.comp_def]

theorem primary_of_nests (whole : Nests (d + 1) ls f) (plain : symbol? .arrow (bare ls) = none)
    (operand : unaryOp? (bare ls) = none) : ∃ r, primary (exprAt d) (bare ls) = .ok r := by
  have read := whole.read (d + 1) (bare ls) [] (Nat.le_refl _) (bare_carries ls) (by decide)
  rw [List.append_nil] at read
  obtain ⟨r, first, -⟩ := primary_of_expr _ _ plain operand read
  exact ⟨r, first⟩

theorem nests_inside_paren (phrase : Phrase ls e q n)
    (whole : Nests (d + 1) (.symbol .openParen :: ls ++ [.symbol .closeParen]) f) : Nests d ls e := by
  obtain ⟨r, first⟩ := primary_of_nests whole rfl rfl
  simp only [bare, List.cons_append, List.map_cons, List.map_append, List.map_nil, primary] at first
  cases inner : exprAt d (bare ls ++ [⟨.symbol .closeParen, 0⟩]) with
  | error fault =>
    rw [bare] at inner
    rw [inner] at first
    cases first
  | ok r => exact phrase.nests_of_read (bare ls) _ (bare_carries ls) (by simp [pull]) r inner

theorem nests_deferred (phrase : Phrase ls e q n) (whole : Nests (d + 1) (.symbol .arrow :: ls) f) : Nests d ls e := by
  have read := whole.read (d + 1) _ [] (Nat.le_refl _) (bare_carries _) (by decide)
  simp only [bare, List.map_cons, List.cons_append, expr_at_succ, exprOver, symbol_cons] at read
  cases inner : exprAt d (bare ls ++ []) with
  | error fault =>
    rw [bare] at inner
    rw [inner] at read
    cases read
  | ok r => exact phrase.nests_of_read (bare ls) [] (bare_carries ls) (by decide) r inner

theorem Phrase.nests_of_was_read (phrase : Phrase ls e q n) (wasRead : WasRead d ls e) : Nests d ls e := by
  obtain ⟨tokens, rest, carried, free, read⟩ := wasRead
  exact phrase.nests_of_read tokens rest carried free _ read

theorem nests_in_list (lss : List (List Lexeme)) (es : List Expr) (parts : Parts n lss es)
    (whole : Nests (d + 1) (.symbol .openBracket :: separated lss ++ [.symbol .closeBracket]) f) :
    List.Forall₂ (Nests d) lss es := by
  have read := whole.read (d + 1) _ [] (Nat.le_refl _) (bare_carries _) (by decide)
  have wereRead := (list_if_read lss es (parts.imp fun _ _ phrase => phrase.if_read) _ [] _ (bare_carries _) (by decide)
    read).2
  clear whole read
  induction parts with
  | nil => exact .nil
  | cons phrase _ ih =>
    cases wereRead with
    | cons first rest => exact .cons (phrase.nests_of_was_read first) (ih rest)

def EntryNests (d : Nat) (ls : List Lexeme) (entry : String × Expr) : Prop :=
  ∃ l ms, ls = l :: .symbol .colon :: ms ∧ Nests d ms entry.2

theorem nests_in_record (lss : List (List Lexeme)) (fields : List (String × Expr))
    (parts : List.Forall₂ (EntryPhrase n) lss fields)
    (whole : Nests (d + 1) (.symbol .openBrace :: separated lss ++ [.symbol .closeBrace]) f) :
    List.Forall₂ (EntryNests d) lss fields := by
  have read := whole.read (d + 1) _ [] (Nat.le_refl _) (bare_carries _) (by decide)
  have each : List.Forall₂ EntryIfRead lss fields := by
    refine parts.imp fun ls field entry => ?_
    obtain ⟨l, ms, shape, isKey, phrase⟩ := entry
    exact ⟨l, ms, shape, isKey, phrase.if_read⟩
  have wereRead := (record_if_read lss fields each _ [] _ (bare_carries _) (by decide) read).2
  clear whole read each
  induction parts with
  | nil => exact .nil
  | cons entry _ ih =>
    cases wereRead with
    | cons first rest =>
      obtain ⟨l, ms, rfl, -, phrase⟩ := entry
      obtain ⟨l', ms', same, wasRead⟩ := first
      cases same
      exact .cons ⟨l, ms, rfl, phrase.nests_of_was_read wasRead⟩ (ih rest)

end Parts

end Parser

theorem spelled_unique (cs : List Char) (ls ms : List Lexeme) (one : Spelled cs ls) (other : Spelled cs ms) : ls = ms := by
  have scans := one [] false [] apart_nil
  have scans' := other [] false [] apart_nil
  rw [List.append_nil] at scans scans'
  obtain ⟨tokens, split, carried⟩ := scans.tokens_of_end cs true
  obtain ⟨tokens', split', carried'⟩ := scans'.tokens_of_end cs true
  rw [split] at split'
  cases split'
  exact List.append_cancel_right (carried.symm.trans carried')

def ReadWithin (d : Nat) (cs : List Char) : Prop := ∃ ls e, Spelled cs ls ∧ Nests d ls e

theorem ReadWithin.nests {d : Nat} {cs : List Char} {ls : List Lexeme} (within : ReadWithin d cs)
    (spelled : Spelled cs ls) : ∃ e, Nests d ls e := by
  obtain ⟨ms, e, same, nests⟩ := within
  obtain rfl := spelled_unique cs ls ms spelled same
  exact ⟨e, nests⟩

section Texts

variable {cs : List Char} {e : Expr} {q : Int} {n d : Nat}

theorem paren_within (legible : Legible cs e q n) : ReadWithin (d + 1) ('(' :: cs ++ [')']) ↔ ReadWithin d cs := by
  obtain ⟨ls, spelled, phrase, -⟩ := legible
  constructor
  · intro within
    obtain ⟨f, whole⟩ := within.nests (paren_spelled cs ls spelled)
    exact ⟨ls, e, spelled, Parser.nests_inside_paren phrase whole⟩
  · intro within
    obtain ⟨f, m, less, inner⟩ := within.nests spelled
    exact ⟨_, f, paren_spelled cs ls spelled, m + 1, Nat.succ_lt_succ less, inner.paren.loosen (by decide)⟩

theorem ReadWithin.legible (within : ReadWithin d cs) (legible : Legible cs e (-1) n) : ∃ m, m < d ∧ Legible cs e (-1) m := by
  obtain ⟨ls, spelled, phrase, free⟩ := legible
  obtain ⟨f, whole⟩ := within.nests spelled
  have read := whole.read d (Parser.bare ls) [] (Nat.le_refl d) (Parser.bare_carries ls) (by decide)
  obtain ⟨m, less, inner⟩ := phrase.nests_of_read (Parser.bare ls) [] (Parser.bare_carries ls) (by decide) _ read
  exact ⟨m, less, ls, spelled, inner, free⟩

theorem deferred_within (legible : Legible cs e (-1) n) (within : ReadWithin (d + 1) ('=' :: '>' :: ' ' :: cs)) :
    ReadWithin d cs := by
  obtain ⟨ls, spelled, phrase, -⟩ := legible
  have arrow := symbol_spelled .arrow _ ls rfl rfl (fun _ _ => Symbol.ends_anywhere .arrow _ rfl (by decide))
    (space_spelled cs ls spelled)
  obtain ⟨f, whole⟩ := within.nests arrow
  exact ⟨ls, e, spelled, Parser.nests_deferred phrase whole⟩

def enclosed : Nat → List Char → List Char
  | 0, cs => cs
  | k + 1, cs => '(' :: enclosed k cs ++ [')']

theorem enclosed_legible (legible : Legible cs e (-1) n) (k : Nat) : Legible (enclosed k cs) e (-1) (n + k) := by
  induction k with
  | zero => exact legible
  | succ k ih => exact ih.paren.loosen (by decide)

theorem enclosed_within (legible : Legible cs e (-1) n) (k : Nat) :
    ReadWithin (d + k) (enclosed k cs) ↔ ReadWithin d cs := by
  induction k with
  | zero => exact Iff.rfl
  | succ k ih => exact (paren_within (enclosed_legible legible k)).trans ih

theorem solid_part (ls ms : List Lexeme) (part : ms ⊆ ls) (solid : Solid ls) : Solid ms :=
  ⟨fun here => solid.1 (part here), fun here => solid.2 (part here)⟩

theorem solid_split (ls ms xs ys : List Lexeme) (l m : Lexeme) (one : Solid ls) (other : Solid ms) (stop : ¬Solid [l])
    (stop' : ¬Solid [m]) (same : ls ++ l :: xs = ms ++ m :: ys) : ls = ms ∧ l :: xs = m :: ys := by
  induction ls generalizing ms with
  | nil =>
    cases ms with
    | nil => exact ⟨rfl, same⟩
    | cons k ms =>
      obtain ⟨rfl, -⟩ := List.cons.inj same
      exact absurd (solid_part _ [l] (by simp) other) stop
  | cons k ls ih =>
    cases ms with
    | nil =>
      obtain ⟨rfl, -⟩ := List.cons.inj same
      exact absurd (solid_part _ [k] (by simp) one) stop'
    | cons k' ms =>
      obtain ⟨rfl, tail⟩ := List.cons.inj same
      obtain ⟨rfl, rest⟩ := ih ms (solid_part _ ls (by simp) one) (solid_part _ ms (by simp) other) tail
      exact ⟨rfl, rest⟩

theorem phrase_solid (ls : List Lexeme) (phrase : Phrase ls e q n) : Solid ls := by
  have read := phrase.expr n (Parser.bare ls) [] (Nat.le_refl n) (Parser.bare_carries ls) (by decide)
  obtain ⟨front, same, solid, -⟩ := (Parser.levels_take (n + 1)).1 _ _ _ read
  rw [← List.append_cancel_right same, lexemes, Parser.bare_carries] at solid
  exact solid

theorem parses_within (legible : Legible cs e (-1) n) :
    (∃ f, parseExpression (String.ofList cs) = .ok f) ↔ ReadWithin 64 cs := by
  obtain ⟨ls, spelled, phrase, -⟩ := legible
  constructor
  · rintro ⟨f, parsed⟩
    have scans := spelled [] false [] apart_nil
    rw [List.append_nil] at scans
    obtain ⟨tokens, split, carried⟩ := scans.tokens_of_end cs true
    have split' : tokenize (String.ofList cs) = .ok tokens := by rw [tokenize, String.toList_ofList, split]
    obtain ⟨ms, k, shape, derived⟩ := expression_sound _ tokens split' f parsed
    obtain ⟨m, less, inner⟩ := derived.read
    rw [lexemes, carried] at shape
    have same : ls = ms := by
      cases k with
      | zero => exact (solid_split ls ms [.eof] [] .newline .eof (phrase_solid ls phrase) (phrase_solid ms inner)
          (by simp [Solid]) (by simp [Solid]) shape).1
      | succ k => exact (solid_split ls ms [.eof] _ .newline .newline (phrase_solid ls phrase) (phrase_solid ms inner)
          (by simp [Solid]) (by simp [Solid]) shape).1
    exact ⟨ls, f, spelled, m, less, same ▸ inner⟩
  · rintro ⟨ms, f, spelled, m, less, inner⟩
    exact ⟨f, (parse_legible cs f (-1) m ⟨ms, spelled, inner, fun low => absurd low (by decide)⟩).2 (Nat.le_of_lt_succ less)⟩

end Texts

def HasRoom (k : Nat) (text : String) : Prop :=
  ∃ e, parseExpression (String.ofList (enclosed (k + 1) (trim text).toList)) = .ok e

instance (k : Nat) (text : String) : Decidable (HasRoom k text) :=
  decidable_of_iff ((parseExpression (String.ofList (enclosed (k + 1) (trim text).toList))).toBool = true) (by
    cases here : parseExpression (String.ofList (enclosed (k + 1) (trim text).toList)) <;>
      simp [HasRoom, here, Except.toBool])

def Expr.ReadWithin (d : Nat) (e : Expr) : Prop := ∃ indent, Script.ReadWithin d (e.print indent)

section Literals

variable {n d k : Nat}

theorem verbatim_within (text : String) (accepted : isContextExpression (trim text) = true) (k : Nat) (few : k ≤ 64) :
    HasRoom k text ↔ (Expr.verbatim text).ReadWithin (64 - k) := by
  obtain ⟨e, -, legible⟩ := accepted_legible text accepted
  have printed : ∀ indent, (Expr.verbatim text).print indent = '(' :: (trim text).toList ++ [')'] := by
    intro indent
    simp [Expr.print, trim]
  simp only [printed] at legible
  -- more parentheses outside are as good as more inside
  have outside : enclosed (k + 1) (trim text).toList = enclosed k ('(' :: (trim text).toList ++ [')']) := by
    clear few
    induction k with
    | zero => rfl
    | succ k ih => rw [enclosed, ih]; rfl
  rw [HasRoom, outside, parses_within (enclosed_legible (legible 0) k)]
  have depth := enclosed_within (d := 64 - k) (legible 0) k
  rw [Nat.sub_add_cancel few] at depth
  simp only [depth, Expr.ReadWithin, printed, exists_const]

theorem room_fits (text : String) (accepted : isContextExpression (trim text) = true) (k : Nat) (few : k < 64)
    (room : HasRoom k text) : TextFits (63 - k) text := by
  have fits := accepted_fits text accepted
  obtain ⟨indent, within⟩ := (verbatim_within text accepted k (Nat.le_of_lt few)).mp room
  refine ⟨fits.means, fits.shown.finite, fun indent' => ?_⟩
  obtain ⟨m, less, legible⟩ := within.legible (fits.shown.legible indent)
  -- a text is written as it is, at whatever indent
  have legible : Legible ((Expr.verbatim text).print indent') (textBody text) (-1) m := legible
  exact legible.mono (by omega)

theorem body_within (body f : Expr) (shown : Shown n body f) (within : (Expr.deferred body).ReadWithin (d + 1)) :
    body.ReadWithin d := by
  obtain ⟨indent, within⟩ := within
  exact ⟨indent, deferred_within (shown.legible indent) within⟩

theorem items_within (items : List Expr) (each : ∀ e ∈ items, Delivers n k e)
    (within : (Expr.list items).ReadWithin (d + 1)) : ∀ e ∈ items, e.ReadWithin d := by
  have parts : ∀ indent, ∃ lss fs, List.Forall₂ SpelledInside (Expr.printList indent items) lss ∧ Parts n lss fs ∧
      (List.Forall₂ (Nests d) lss fs → ∀ e ∈ items, Script.ReadWithin d (e.print indent)) := by
    intro indent
    clear within
    induction items with
    | nil => exact ⟨[], [], .nil, .nil, fun _ => nofun⟩
    | cons e es ih =>
      obtain ⟨-, f, legible, -⟩ := each e List.mem_cons_self
      obtain ⟨ls, spelled, phrase, -⟩ := legible indent
      obtain ⟨lss, fs, spelledRest, phrases, members⟩ := ih fun e member => each e (List.mem_cons_of_mem _ member)
      refine ⟨ls :: lss, f :: fs, .cons spelled.inside spelledRest, .cons phrase phrases, fun nested => ?_⟩
      cases nested with
      | cons first rest =>
        intro g member
        rcases List.mem_cons.mp member with rfl | later
        · exact ⟨ls, f, spelled, first⟩
        · exact members rest g later
  obtain ⟨indent, within⟩ := within
  obtain ⟨lss, fs, spelled, phrases, members⟩ := parts (if (Expr.list items).isBlock then indent + 1 else indent)
  obtain ⟨f, whole⟩ := within.nests (bracketed_spelled .bracket _ indent _ lss spelled)
  exact fun e member => ⟨_, members (Parser.nests_in_list lss fs phrases whole) e member⟩

theorem entries_within (entries : List (String × Expr)) (each : ∀ entry ∈ entries, Legible.IsSafeKey entry.1 ∧ Delivers n k entry.2)
    (within : (Expr.record entries).ReadWithin (d + 1)) : ∀ entry ∈ entries, entry.2.ReadWithin d := by
  have parts : ∀ indent, ∃ lss fs, List.Forall₂ SpelledInside (Expr.printEntries indent entries) lss ∧
      List.Forall₂ (EntryPhrase n) lss fs ∧ (List.Forall₂ (Parser.EntryNests d) lss fs →
        ∀ entry ∈ entries, Script.ReadWithin d (entry.2.print indent)) := by
    intro indent
    clear within
    induction entries with
    | nil => exact ⟨[], [], .nil, .nil, fun _ => nofun⟩
    | cons entry rest ih =>
      obtain ⟨key, e⟩ := entry
      obtain ⟨safe, -, f, legible, -⟩ := each (key, e) List.mem_cons_self
      obtain ⟨ls, spelled, phrase, -⟩ := legible indent
      obtain ⟨l, keyed, isKey⟩ := Legible.entry_spelled key safe ls spelled
      obtain ⟨lss, fs, spelledRest, phrases, members⟩ := ih fun e member => each e (List.mem_cons_of_mem _ member)
      refine ⟨_ :: lss, (key, f) :: fs, .cons keyed.inside spelledRest, .cons ⟨l, ls, rfl, isKey, phrase⟩ phrases, fun nested => ?_⟩
      cases nested with
      | cons first rest =>
        obtain ⟨l', ms, same, value⟩ := first
        cases same
        intro other member
        rcases List.mem_cons.mp member with rfl | later
        · exact ⟨ls, f, spelled, value⟩
        · exact members rest other later
  obtain ⟨indent, within⟩ := within
  obtain ⟨lss, fs, spelled, phrases, members⟩ := parts (if (Expr.record entries).isBlock then indent + 1 else indent)
  obtain ⟨f, whole⟩ := within.nests (bracketed_spelled .brace _ indent _ lss spelled)
  exact fun e member => ⟨_, members (Parser.nests_in_record lss fs phrases whole) e member⟩

end Literals

theorem literals_settled (p : Program) (n : Nat) (each : ∀ a ∈ p.assignments, Assignable n a) :
    (∃ s, parseScript p.plainText = .ok s) ∨ FailsDeep (parseScript p.plainText) := by
  obtain ⟨bs, assigns, -⟩ := assignments_read_back (.levels 0) n p.assignments each
  exact (script_reads p bs n assigns).1.imp_left fun read => ⟨_, read⟩

theorem literals_written (n : Nat) (as : List Assignment) (each : ∀ a ∈ as, Assignable n a) :
    ∃ mss, List.Forall₂ Written as mss ∧ ∀ ms ∈ mss, Solid ms := by
  induction as with
  | nil => exact ⟨[], .nil, nofun⟩
  | cons a as ih =>
    obtain ⟨named, -, ⟨-, f, legible, -⟩, ends⟩ := each a List.mem_cons_self
    obtain ⟨ms, spelled, phrase, -⟩ := legible 0
    obtain ⟨mss, written, solid⟩ := ih fun b member => each b (List.mem_cons_of_mem _ member)
    refine ⟨ms :: mss, .cons ⟨named, spelled, ends⟩ written, fun other member => ?_⟩
    rcases List.mem_cons.mp member with rfl | later
    · exact phrase_solid _ phrase
    · exact solid other later

theorem listed_values (as : List Assignment) (mss : List (List Lexeme)) (written : List.Forall₂ Written as mss)
    (solid : ∀ ms ∈ mss, Solid ms) (all : List Assignment) (lists : Lists (linesOf as mss ++ [.eof]) all) :
    ∀ a ∈ as, a.value.ReadWithin 64 := by
  induction written generalizing all with
  | nil => nofun
  | @cons a ms as mss first _ ih =>
    have shape : linesOf (a :: as) (ms :: mss) ++ [.eof] =
        .ident a.name :: .symbol .assign :: (ms ++ .newline :: (linesOf as mss ++ [.eof])) := by
      simp [linesOf, lineOf]
    rw [shape] at lists
    generalize lines : Lexeme.ident a.name :: Lexeme.symbol .assign :: (ms ++ .newline :: (linesOf as mss ++ [.eof])) = whole at lists
    cases lists with
    | done => cases lines
    | @line name e ls rest more free value following =>
      obtain ⟨m, less, phrase⟩ := value.read
      simp only [List.cons.injEq, true_and] at lines
      obtain ⟨rfl, tail⟩ := solid_split ms ls _ _ .newline .newline (solid ms List.mem_cons_self) (phrase_solid ls phrase)
        (by simp [Solid]) (by simp [Solid]) lines.2
      obtain ⟨-, rfl⟩ := List.cons.inj tail
      intro b member
      rcases List.mem_cons.mp member with rfl | later
      · exact ⟨0, ms, e, first.spelled, m, less, phrase⟩
      · exact ih (fun ks member => solid ks (List.mem_cons_of_mem _ member)) more following b later

theorem literals_within (p : Program) (n : Nat) (each : ∀ a ∈ p.assignments, Assignable n a) (s : Program)
    (parsed : parseScript p.plainText = .ok s) : ∀ a ∈ p.assignments, a.value.ReadWithin 64 := by
  obtain ⟨mss, written, solid⟩ := literals_written n p.assignments each
  obtain ⟨tokens, split, carried⟩ := script_tokens p mss written
  obtain ⟨-, lists⟩ := script_sound _ tokens split s parsed
  rw [lexemes, carried] at lists
  exact listed_values p.assignments mss written solid s.assignments lists

end DamagePlan.Script
