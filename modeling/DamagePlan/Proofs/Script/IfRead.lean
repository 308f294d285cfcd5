import DamagePlan.Proofs.Script.Exported
import DamagePlan.Proofs.Script.Settled

/-!
Texts of which it is open whether they are read: what they are read as if they are. Records whose keys turn out equal
are such texts, and so is whatever may be nested too deeply.
-/
set_option autoImplicit false

namespace DamagePlan.Script

open DamagePlan.Script.Parser (Phrase)
open DamagePlan.Script.Parser.Phrase (IsKey)

def TextIfRead (cs : List Char) (e : Expr) : Prop := ∃ ls, Spelled cs ls ∧ Parser.IfRead ls e

def EntryTextSettles (P : SyntaxErrorKind → Prop) (n : Nat) (cs : List Char) (entry : String × Expr) : Prop :=
  ∃ ls, SpelledInside cs ls ∧ Parser.EntrySettles P n ls entry

def writtenKey (key : String) : String :=
  if isBareKey key then String.ofList (Text.withoutFinalNewline key.toList) else key

section Texts

variable {P : SyntaxErrorKind → Prop} {cs ds : List Char} {ls ms : List Lexeme} {e : Expr} {q : Int} {n m : Nat}

theorem TextSettles.mono (more : n ≤ m) (settles : TextSettles P n cs e) : TextSettles P m cs e := by
  obtain ⟨ls, spelled, part⟩ := settles
  exact ⟨ls, spelled, part.mono more⟩

theorem TextSettles.if_read (settles : TextSettles P n cs e) : TextIfRead cs e := by
  obtain ⟨ls, spelled, part⟩ := settles
  exact ⟨ls, spelled, part.if_read⟩

theorem safe_key_written (key : String) (safe : Legible.IsSafeKey key) : writtenKey key = key := by
  unfold writtenKey Text.withoutFinalNewline
  rw [if_neg safe, String.ofList_toList, ite_self]

theorem append_inside (apart : ∀ rest, Apart rest → Apart (ds ++ rest)) (first : SpelledInside cs ls)
    (second : SpelledInside ds ms) : SpelledInside (cs ++ ds) (ls ++ ms) := by
  intro closers lineOpen rest inside after
  simpa using (first closers lineOpen (ds ++ rest) inside (apart rest after)).trans
    (second closers true rest inside after)

theorem key_inside (key : String) : ∃ l, SpelledInside (keyText key).toList [l] ∧ IsKey l (writtenKey key) := by
  by_cases ends : key.toList.getLast? = some '\n'
  · by_cases bare : isBareKey key = true
    · have shape : key.toList = key.toList.dropLast ++ ['\n'] := (List.dropLast_append_getLast? _ ends).symm
      have named : isName key.toList.dropLast = true := by
        simp only [isBareKey, Text.withoutFinalNewline, if_pos ends, Bool.and_eq_true] at bare
        exact Legible.plain_name _ bare.1
      refine ⟨.ident (String.ofList key.toList.dropLast), ?_, ?_⟩
      · rw [keyText, if_pos bare, shape]
        intro closers lineOpen rest inside after
        have name := name_spelled _ named closers lineOpen ('\n' :: rest) (apart_cons _ _ (by decide) (by decide))
        -- the newline that the key is written with is a blank here, since its record is a bracket
        simpa using name.trans (Scans.inner_newline rest inside)
      · rw [writtenKey, if_pos bare, Text.withoutFinalNewline, if_pos ends]
        exact .name _
    · exact ⟨.string key, by rw [keyText, if_neg bare]; exact (string_spelled key).inside,
        by rw [writtenKey, if_neg bare]; exact .quoted key⟩
  · obtain ⟨l, spelled, isKey⟩ := Legible.key_spelled key ends
    exact ⟨l, spelled.inside, by rw [safe_key_written key ends]; exact isKey⟩

theorem entry_settles (key : String) (settles : TextSettles P n cs e) :
    EntryTextSettles P n ((keyText key).toList ++ ':' :: ' ' :: cs) (writtenKey key, e) := by
  obtain ⟨ls, spelled, part⟩ := settles
  obtain ⟨l, keyed, isKey⟩ := key_inside key
  have colon := symbol_spelled .colon _ ls rfl rfl (fun _ _ => Symbol.ends_anywhere .colon _ rfl (by decide))
    (space_spelled cs ls spelled)
  have apart : ∀ rest, Apart rest → Apart (':' :: ' ' :: cs ++ rest) := fun rest _ =>
    apart_cons _ _ (by decide) (by decide)
  exact ⟨_, append_inside apart keyed colon.inside, l, ls, rfl, isKey, part⟩

theorem list_text_settles (block : Bool) (indent : Int) (css : List (List Char)) (es : List Expr)
    (parts : List.Forall₂ (TextSettles P n) css es) :
    TextSettles P (n + 1) (Expr.bracketed '[' ']' block indent css) (.list es) := by
  obtain ⟨lss, spelled, each⟩ := pairs_between css es parts
  have inside := spelled.imp fun _ _ part => Spelled.inside part
  exact ⟨_, bracketed_spelled .bracket block indent css lss inside, .list lss es each⟩

theorem record_text_settles (block : Bool) (indent : Int) (css : List (List Char)) (fields : List (String × Expr))
    (repeated : ¬(fields.map (·.1)).Nodup → ∀ key, P (.duplicateRecordKey key))
    (parts : List.Forall₂ (EntryTextSettles P n) css fields) :
    TextSettles P (n + 1) (Expr.bracketed '\x7b' '\x7d' block indent css) (.record fields) := by
  obtain ⟨lss, spelled, each⟩ := pairs_between css fields parts
  exact ⟨_, bracketed_spelled .brace block indent css lss spelled, .record lss fields repeated each⟩

theorem printed_list_settles (es gs : List Expr)
    (each : List.Forall₂ (fun e g => ∀ indent, TextSettles P n (e.print indent) g) es gs) (indent : Int) :
    TextSettles P (n + 1) ((Expr.list es).print indent) (.list gs) := by
  have parts : ∀ indent, List.Forall₂ (TextSettles P n) (Expr.printList indent es) gs := by
    intro indent
    induction each with
    | nil => exact .nil
    | cons first _ ih => exact .cons (first indent) ih
  simp only [Expr.print]
  exact list_text_settles _ indent _ gs (parts _)

theorem printed_record_settles (entries gs : List (String × Expr))
    (repeated : ¬(gs.map (·.1)).Nodup → ∀ key, P (.duplicateRecordKey key))
    (each : List.Forall₂ (fun entry g => g.1 = writtenKey entry.1 ∧ ∀ indent, TextSettles P n (entry.2.print indent) g.2)
      entries gs) (indent : Int) : TextSettles P (n + 1) ((Expr.record entries).print indent) (.record gs) := by
  have parts : ∀ indent, List.Forall₂ (EntryTextSettles P n) (Expr.printEntries indent entries) gs := by
    clear repeated
    intro indent
    induction each with
    | nil => exact .nil
    | @cons entry g entries gs first _ ih =>
      obtain ⟨key, e⟩ := entry
      obtain ⟨key', g⟩ := g
      obtain ⟨rfl, settles⟩ := first
      exact .cons (entry_settles key (settles indent)) ih
  simp only [Expr.print]
  exact record_text_settles _ indent _ gs repeated (parts _)

end Texts

def Conveys (k : Nat) (e f : Expr) : Prop := ∃ g, (∀ indent, TextIfRead (e.print indent) g) ∧ Stands k g f

theorem Delivers.conveys {n k : Nat} {e : Expr} (delivers : Delivers n k e) : Conveys k e e := by
  obtain ⟨-, g, legible, stands⟩ := delivers
  exact ⟨g, fun indent => ((legible indent).settles (P := fun _ => True)).if_read, stands⟩

end DamagePlan.Script
