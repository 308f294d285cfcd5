import Mathlib.Data.List.DropRight
import Mathlib.Data.List.Forall2
import Mathlib.Data.List.Induction
import DamagePlan.Proofs.Script.Legible
import DamagePlan.Proofs.Script.Settled

/-!
Parsing whole texts: one expression, and a script whose lines are comments, blanks and assignments.
-/
set_option autoImplicit false

namespace DamagePlan.Script

open DamagePlan.Script.Parser (Phrase Carries Settles Spoils carries_append carries_cons carries_singleton FailsDeep pull)

theorem expr_reads (ls : List Lexeme) (e : Expr) (q : Int) (n : Nat) (phrase : Phrase ls e q n)
    (tokens rest : List Token) (carried : Carries tokens ls) (free : Parser.pullOf rest < 0) :
    (Parser.expr (tokens ++ rest) = .ok (e, rest) ∨ FailsDeep (Parser.expr (tokens ++ rest))) ∧
      (n ≤ 63 → Parser.expr (tokens ++ rest) = .ok (e, rest)) := by
  exact ⟨phrase.reads_or_deep 64 tokens rest carried free, fun shallow => phrase.expr 63 tokens rest shallow carried free⟩

theorem expr_settles {P : SyntaxErrorKind → Prop} {n : Nat} {ls : List Lexeme} {e : Expr} (settles : Settles P n ls e)
    (tokens rest : List Token) (carried : Carries tokens ls) (free : Parser.pullOf rest < 0) :
    Parser.expr (tokens ++ rest) = .ok (e, rest) ∨
      ∃ fault, Parser.expr (tokens ++ rest) = .error fault ∧ Spoils P n maxDepth fault :=
  settles.reads maxDepth tokens rest carried free

def TextSettles (P : SyntaxErrorKind → Prop) (n : Nat) (cs : List Char) (e : Expr) : Prop :=
  ∃ ls, Spelled cs ls ∧ Settles P n ls e

section Texts

variable {P : SyntaxErrorKind → Prop} {cs : List Char} {e : Expr} {q : Int} {n : Nat}

theorem Legible.settles (legible : Legible cs e q n) : TextSettles P n cs e := by
  obtain ⟨ls, spelled, phrase, -⟩ := legible
  exact ⟨ls, spelled, phrase.settles⟩

theorem parse_settles (settles : TextSettles P n cs e) : parseExpression (String.ofList cs) = .ok e ∨
    ∃ fault, parseExpression (String.ofList cs) = .error fault ∧ Spoils P n maxDepth fault := by
  obtain ⟨ls, spelled, settles⟩ := settles
  have scans := spelled [] false [] apart_nil
  rw [List.append_nil] at scans
  obtain ⟨tokens, tokenized, carried⟩ := scans.tokens_of_end cs true
  obtain ⟨front, back, rfl, first, ending⟩ := carries_append tokens _ _ carried
  obtain ⟨pos, back, rfl, final⟩ := carries_cons back _ _ ending
  obtain ⟨pos', rfl⟩ := carries_singleton back _ final
  have parsed : parseExpression (String.ofList cs) =
      (Parser.expr (front ++ [⟨.newline, pos⟩, ⟨.eof, pos'⟩])).bind fun read =>
        if Parser.atEnd (Parser.skipNewlines read.2) then .ok read.1
        else .error ⟨.trailingToken (Parser.current (Parser.skipNewlines read.2)).lexeme,
          (Parser.current (Parser.skipNewlines read.2)).pos⟩ := by
    simp only [parseExpression, tokenize, String.toList_ofList, tokenized]
    rfl
  rw [parsed]
  rcases expr_settles settles front [⟨.newline, pos⟩, ⟨.eof, pos'⟩] first (by simp [pull]) with
    read | ⟨fault, failed, spoils⟩
  · exact .inl (by rw [read]; rfl)
  · exact .inr ⟨fault, by rw [failed]; rfl, spoils⟩

theorem spoils_deep {fault : SyntaxError} (spoils : Spoils (fun _ => False) n maxDepth fault) :
    (∃ pos, fault = ⟨.nestedTooDeeply, pos⟩) ∧ ¬n ≤ 63 := by
  obtain ⟨kind, pos⟩ := fault
  rcases spoils with none | ⟨rfl, few⟩
  · exact none.elim
  · exact ⟨⟨pos, rfl⟩, Nat.not_le.mpr few⟩

end Texts

theorem parse_legible (cs : List Char) (e : Expr) (q : Int) (n : Nat) (legible : Legible cs e q n) :
    (parseExpression (String.ofList cs) = .ok e ∨ FailsDeep (parseExpression (String.ofList cs))) ∧
      (n ≤ 63 → parseExpression (String.ofList cs) = .ok e) := by
  rcases parse_settles legible.settles with read | ⟨fault, failed, spoils⟩
  · exact ⟨.inl read, fun _ => read⟩
  · obtain ⟨⟨pos, rfl⟩, deep⟩ := spoils_deep spoils
    exact ⟨.inr ⟨pos, failed⟩, fun shallow => absurd shallow deep⟩

structure Line (line : List Char) (ls : List Lexeme) : Prop where
  scans : ∀ rest, Scans ⟨[], false, line ++ '\n' :: rest⟩ ls ⟨[], false, rest⟩
  ends : line.getLast? ≠ some '\n'
  silent : line = [] → ls = []

theorem empty_line : Line [] [] where
  scans := Scans.idle_newline
  ends := by simp
  silent := fun _ => rfl

theorem comment_line (text : List Char) (oneLine : '\n' ∉ text) : Line ('#' :: text) [] where
  scans rest := (Scans.comment text ('\n' :: rest) oneLine (by simp)).trans (.idle_newline rest)
  ends last := by
    rcases List.mem_cons.mp (List.mem_of_getLast? last) with same | inside
    · cases same
    · exact oneLine inside
  silent := nofun

def AreLines (lines : List (List Char × List Lexeme)) : Prop := ∀ line ∈ lines, Line line.1 line.2

theorem lines_scan (lines : List (List Char × List Lexeme)) (areLines : AreLines lines) (rest : List Char) :
    Scans ⟨[], false, lines.flatMap (·.1 ++ ['\n']) ++ rest⟩ (lines.flatMap (·.2)) ⟨[], false, rest⟩ := by
  induction lines with
  | nil => exact .refl _
  | cons line lines ih =>
    have first := (areLines line List.mem_cons_self).scans (lines.flatMap (·.1 ++ ['\n']) ++ rest)
    simpa using first.trans (ih fun other member => areLines other (List.mem_cons_of_mem _ member))

theorem intercalate_lines (texts : List (List Char)) (last : List Char) :
    ['\n'].intercalate (texts ++ [last]) = texts.flatMap (· ++ ['\n']) ++ last := by
  induction texts with
  | nil => simp
  | cons text texts ih => rw [List.cons_append, List.intercalate_cons_of_ne_nil (by simp), ih]; simp

theorem drop_end_concat (drop : Char → Bool) (cs : List Char) (c : Char) :
    Text.dropEndWhile drop (cs ++ [c]) = if drop c then Text.dropEndWhile drop cs else cs ++ [c] :=
  List.rdropWhile_concat drop cs c

theorem trimmed_lines_scan (lines : List (List Char × List Lexeme)) (areLines : AreLines lines) :
    Scans ⟨[], false, Text.dropEndWhile (· == '\n') (['\n'].intercalate (lines.map (·.1))) ++ ['\n']⟩
      (lines.flatMap (·.2)) ⟨[], false, []⟩ := by
  induction lines using List.reverseRecOn with
  | nil => exact Scans.idle_newline []
  | append_singleton lines line ih =>
    have before := ih fun other member => areLines other (List.mem_append_left _ member)
    have last := areLines line (by simp)
    obtain ⟨text, ls⟩ := line
    rw [List.map_append, List.map_singleton, intercalate_lines]
    cases text using List.reverseRecOn with
    | nil =>
      -- an empty line at the end leaves no trace once the newlines are gone
      obtain rfl : ls = [] := last.silent rfl
      cases lines using List.reverseRecOn with
      | nil => simpa using before
      | append_singleton lines line =>
        rw [List.map_append, List.map_singleton, intercalate_lines] at before
        rw [List.append_nil, List.map_append, List.flatMap_append, List.map_singleton, List.flatMap_singleton,
          ← List.append_assoc, drop_end_concat]
        simpa using before
    | append_singleton text c =>
      have solid : (c == '\n') = false := by
        have ends := last.ends
        simpa using ends
      rw [← List.append_assoc, drop_end_concat, solid]
      have whole := (lines_scan lines (fun other member => areLines other (List.mem_append_left _ member)) _).trans
        (last.scans [])
      simpa [List.flatMap_map] using whole

theorem lines_from_single (cs line : List Char) (single : '\n' ∉ line) :
    ∀ text ∈ Text.linesFrom line cs, '\n' ∉ text := by
  fun_induction Text.linesFrom line cs with
  | case1 line => simp
  | case2 line => simpa using single
  | case3 line cs ih =>
    intro text member
    rcases List.mem_cons.mp member with rfl | later
    · simpa using single
    · exact ih (by simp) text later
  | case4 line c cs _ boundary ih =>
    intro text member
    rcases List.mem_cons.mp member with rfl | later
    · simpa using single
    · exact ih (by simp) text later
  | case5 line c cs _ boundary ih =>
    have plain : '\n' ≠ c := by
      rintro rfl
      exact boundary (by decide)
    exact ih (by simp [single, plain])

theorem header_line (header text : String) (member : text ∈ Program.headerLines header) : Line text.toList [] := by
  simp only [Program.headerLines, Text.lines, List.map_map, List.mem_map, Function.comp] at member
  obtain ⟨line, among, rfl⟩ := member
  have single := lines_from_single header.toList [] (by simp) line among
  split
  · exact comment_line [] (by simp)
  · simpa using comment_line (' ' :: line) (by simp [single])

structure Written (a : Assignment) (ls : List Lexeme) : Prop where
  named : isName a.name.toList = true
  spelled : Spelled (a.value.print 0) ls
  ends : (a.value.print 0).getLast? ≠ some '\n'

def lineOf (a : Assignment) (ls : List Lexeme) : List Lexeme := .ident a.name :: .symbol .assign :: (ls ++ [.newline])

theorem assignment_line (a : Assignment) (ls : List Lexeme) (written : Written a ls) :
    Line (a.name ++ " = " ++ a.value.plainText).toList (lineOf a ls) := by
  obtain ⟨name, value⟩ := a
  obtain ⟨named, spelled, ends⟩ := written
  refine ⟨?_, ?_, ?_⟩
  · intro rest
    have spelledName := name_spelled name.toList named
    rw [String.ofList_toList] at spelledName
    have first := spelledName [] false (' ' :: '=' :: ' ' :: (value.print 0 ++ '\n' :: rest))
      (apart_cons _ _ (by decide) (by decide))
    have sign := Symbol.scans .assign [] [] true (' ' :: (value.print 0 ++ '\n' :: rest))
      ⟨fun _ => unjoined_cons _ _ (by decide) (by decide), nofun⟩ fun _ => rfl
    have body := spelled [] true ('\n' :: rest) (apart_cons _ _ (by decide) (by decide))
    have whole := first.trans ((Scans.blank ' ' _ rfl).trans (sign.trans ((Scans.blank ' ' _ rfl).trans
      (body.trans (Scans.newline rest)))))
    simpa [Expr.plainText, lineOf] using whole
  · simp only [Expr.plainText, String.toList_append, String.toList_ofList, List.getLast?_append]
    cases last : (value.print 0).getLast? with
    | none => simp
    | some c => simpa [last] using ends
  · intro empty
    simp at empty

def silentLines (texts : List String) : List (List Char × List Lexeme) := texts.map fun text => (text.toList, [])

theorem silent_lines (texts : List String) (silent : ∀ text ∈ texts, Line text.toList []) :
    AreLines (silentLines texts) ∧ (silentLines texts).map (·.1) = texts.map String.toList ∧
      (silentLines texts).flatMap (·.2) = [] := by
  refine ⟨?_, by simp [silentLines, Function.comp_def], by simp [silentLines, List.flatMap_map]⟩
  intro line member
  obtain ⟨text, among, rfl⟩ := List.mem_map.mp member
  exact silent text among

theorem are_lines_append (lines more : List (List Char × List Lexeme)) (first : AreLines lines)
    (second : AreLines more) : AreLines (lines ++ more) := by
  intro line member
  exact (List.mem_append.mp member).elim (first line) (second line)

theorem assignment_lines_shape (before : List String) (a : Assignment) : ∃ gap gap' : List String,
    Program.assignmentLines before a = before ++ gap ++ (a.name ++ " = " ++ a.value.plainText) :: gap' ∧
      (∀ blank ∈ gap, Line blank.toList []) ∧ ∀ blank ∈ gap', Line blank.toList [] := by
  have blank : ∀ text ∈ [""], Line text.toList [] := by
    intro text member
    obtain rfl := List.mem_singleton.mp member
    exact empty_line
  unfold Program.assignmentLines
  dsimp only
  split
  · by_cases free : before.isEmpty || before.getLast? = some ""
    · exact ⟨[], [""], by simp [free], by simp, blank⟩
    · exact ⟨[""], [""], by simp [free], blank, blank⟩
  · exact ⟨[], [], by simp, by simp, by simp⟩

def linesOf (as : List Assignment) (mss : List (List Lexeme)) : List Lexeme := (List.zipWith lineOf as mss).flatten

theorem program_lines (as : List Assignment) (mss : List (List Lexeme)) (written : List.Forall₂ Written as mss) :
    ∀ (before : List String) (lines : List (List Char × List Lexeme)), AreLines lines →
      lines.map (·.1) = before.map String.toList →
      ∃ more, AreLines more ∧ more.map (·.1) = (as.foldl Program.assignmentLines before).map String.toList ∧
        more.flatMap (·.2) = lines.flatMap (·.2) ++ linesOf as mss := by
  induction written with
  | nil =>
    intro before lines areLines same
    exact ⟨lines, areLines, same, by simp [linesOf]⟩
  | @cons a ms as mss first _ ih =>
    intro before lines areLines same
    obtain ⟨gap, gap', shape, silent, silent'⟩ := assignment_lines_shape before a
    obtain ⟨areGap, shownGap, noneGap⟩ := silent_lines gap silent
    obtain ⟨areGap', shownGap', noneGap'⟩ := silent_lines gap' silent'
    have areNext : AreLines (lines ++ silentLines gap ++
        ((a.name ++ " = " ++ a.value.plainText).toList, lineOf a ms) :: silentLines gap') := by
      refine are_lines_append _ _ (are_lines_append _ _ areLines areGap) ?_
      intro other member
      rcases List.mem_cons.mp member with rfl | later
      · exact assignment_line a ms first
      · exact areGap' other later
    obtain ⟨more, areMore, shown, emitted⟩ := ih (Program.assignmentLines before a) _ areNext
      (by rw [shape]; simp only [List.map_append, List.map_cons, same, shownGap, shownGap'])
    refine ⟨more, areMore, shown, ?_⟩
    rw [emitted]
    simp [noneGap, noneGap', linesOf]

theorem script_tokens (s : Program) (mss : List (List Lexeme)) (written : List.Forall₂ Written s.assignments mss) :
    ∃ tokens, tokenize s.plainText = .ok tokens ∧ Carries tokens (linesOf s.assignments mss ++ [.eof]) := by
  obtain ⟨areHeader, shownHeader, noneHeader⟩ := silent_lines (Program.headerLines s.header) (header_line s.header)
  obtain ⟨lines, areLines, shown, emitted⟩ := program_lines s.assignments mss written _ _ areHeader shownHeader
  have scans := trimmed_lines_scan lines areLines
  rw [emitted, noneHeader, List.nil_append, shown] at scans
  obtain ⟨tokens, tokenized, carried⟩ := scans.tokens_of_end _ false
  have text : s.plainText.toList = Text.dropEndWhile (· == '\n') (['\n'].intercalate
      ((s.assignments.foldl Program.assignmentLines (Program.headerLines s.header)).map String.toList)) ++ ['\n'] := by
    simp [Program.plainText, String.toList_intercalate]
  exact ⟨tokens, by rw [tokenize, text, tokenized], carried⟩

structure AssignsSettling (P : SyntaxErrorKind → Prop) (n : Nat) (a b : Assignment) : Prop where
  same : a.name = b.name
  named : isName a.name.toList = true
  free : a.name ∉ keywords
  settles : TextSettles P n (a.value.print 0) b.value
  ends : (a.value.print 0).getLast? ≠ some '\n'

structure Assigns (n : Nat) (a b : Assignment) : Prop where
  same : a.name = b.name
  named : isName a.name.toList = true
  free : a.name ∉ keywords
  reads : Legible (a.value.print 0) b.value (-1) n
  ends : (a.value.print 0).getLast? ≠ some '\n'

def AssignedSettling (P : SyntaxErrorKind → Prop) (n : Nat) (ls : List Lexeme) (b : Assignment) : Prop :=
  b.name ∉ keywords ∧ ∃ ms, ls = lineOf b ms ∧ Settles P n ms b.value

def Assigned (n : Nat) (ls : List Lexeme) (b : Assignment) : Prop :=
  b.name ∉ keywords ∧ ∃ ms, ls = lineOf b ms ∧ Phrase ms b.value (-1) n

section Assignments

variable {P : SyntaxErrorKind → Prop} {n : Nat}

theorem Assigns.settling {a b : Assignment} (assigns : Assigns n a b) : AssignsSettling P n a b :=
  ⟨assigns.same, assigns.named, assigns.free, assigns.reads.settles, assigns.ends⟩

theorem Assigned.settling {ls : List Lexeme} {b : Assignment} (assigned : Assigned n ls b) : AssignedSettling P n ls b := by
  obtain ⟨free, ms, shape, phrase⟩ := assigned
  exact ⟨free, ms, shape, phrase.settles⟩

theorem assigns_written (as bs : List Assignment) (assigns : List.Forall₂ (AssignsSettling P n) as bs) :
    ∃ mss, List.Forall₂ Written as mss ∧ List.Forall₂ (AssignedSettling P n) (List.zipWith lineOf as mss) bs := by
  induction assigns with
  | nil => exact ⟨[], .nil, .nil⟩
  | @cons a b as bs first _ ih =>
    obtain ⟨same, named, free, ⟨ms, spelled, settles⟩, ends⟩ := first
    obtain ⟨mss, written, assigned⟩ := ih
    exact ⟨ms :: mss, .cons ⟨named, spelled, ends⟩ written,
      .cons ⟨same ▸ free, ms, by simp only [lineOf, same], settles⟩ assigned⟩

theorem assigned_begins (lss : List (List Lexeme)) (bs : List Assignment)
    (assigned : List.Forall₂ (AssignedSettling P n) lss bs) (tokens : List Token) (pos : Nat)
    (carried : Carries tokens lss.flatten) :
    Parser.skipNewlines (tokens ++ [⟨.eof, pos⟩]) = tokens ++ [⟨.eof, pos⟩] := by
  cases assigned with
  | nil =>
    obtain rfl : tokens = [] := List.map_eq_nil_iff.mp carried
    rfl
  | cons first _ =>
    obtain ⟨_, ms, rfl, _⟩ := first
    obtain ⟨_, back, rfl, _⟩ := carries_cons tokens _ _ carried
    rfl

theorem lines_length (lss : List (List Lexeme)) (bs : List Assignment)
    (lines : List.Forall₂ (fun ls b => ∃ ms, ls = lineOf b ms) lss bs) (tokens : List Token)
    (carried : Carries tokens lss.flatten) : bs.length ≤ tokens.length := by
  induction lines generalizing tokens with
  | nil => exact Nat.zero_le _
  | cons first _ ih =>
    obtain ⟨ms, rfl⟩ := first
    obtain ⟨pos, back, rfl, tail⟩ := carries_cons tokens _ _ carried
    obtain ⟨front, more, rfl, _, after⟩ := carries_append back _ _ tail
    have count := ih more after
    simp
    omega

theorem assignments_settle (lss : List (List Lexeme)) (bs : List Assignment)
    (assigned : List.Forall₂ (AssignedSettling P n) lss bs) :
    ∀ tokens pos rounds before, Carries tokens lss.flatten → bs.length < rounds →
      Parser.assignments rounds before (tokens ++ [⟨.eof, pos⟩]) = .ok (before.reverse ++ bs, [⟨.eof, pos⟩]) ∨
        ∃ fault, Parser.assignments rounds before (tokens ++ [⟨.eof, pos⟩]) = .error fault ∧ Spoils P n maxDepth fault := by
  induction assigned with
  | nil =>
    intro tokens pos rounds before carried enough
    obtain rfl : tokens = [] := List.map_eq_nil_iff.mp carried
    obtain ⟨rounds, rfl⟩ : ∃ i, rounds = i + 1 := ⟨rounds - 1, by omega⟩
    simp [Parser.assignments, Parser.atEnd, Parser.current]
  | @cons ls b lss bs first later ih =>
    intro tokens pos rounds before carried enough
    obtain ⟨free, ms, rfl, settles⟩ := first
    obtain ⟨rounds, rfl⟩ : ∃ i, rounds = i + 1 := ⟨rounds - 1, by omega⟩
    obtain ⟨front, back, rfl, whole, tail⟩ := carries_append tokens _ _ carried
    obtain ⟨namePos, signed, rfl, signs⟩ := carries_cons front _ _ whole
    obtain ⟨signPos, right, rfl, ended⟩ := carries_cons signed _ _ signs
    obtain ⟨body, ending, rfl, valued, closing⟩ := carries_append right _ _ ended
    obtain ⟨endPos, rfl⟩ := carries_singleton ending _ closing
    have value := expr_settles settles body (⟨.newline, endPos⟩ :: (back ++ [⟨.eof, pos⟩])) valued (by simp [pull])
    have skipped := assigned_begins lss bs later back pos tail
    have following := ih back pos rounds (b :: before) tail (by simp at enough; omega)
    rw [List.reverse_cons, List.append_assoc, List.singleton_append] at following
    simp only [List.cons_append, List.append_assoc, List.nil_append, Parser.assignments, Parser.atEnd, Parser.current,
      Parser.expectName, Parser.expect_symbol_cons, List.contains_iff_mem, free]
    rcases value with read | ⟨fault, failed, spoils⟩
    · simpa [read, skipped] using following
    · exact .inr ⟨fault, by simp [failed], spoils⟩

theorem script_settles (s : Program) (bs : List Assignment) (assigns : List.Forall₂ (AssignsSettling P n) s.assignments bs) :
    parseScript s.plainText = .ok { assignments := bs } ∨
      ∃ fault, parseScript s.plainText = .error fault ∧ Spoils P n maxDepth fault := by
  obtain ⟨mss, written, assigned⟩ := assigns_written s.assignments bs assigns
  obtain ⟨tokens, tokenized, carried⟩ := script_tokens s mss written
  obtain ⟨front, back, rfl, body, ending⟩ := carries_append tokens _ _ carried
  obtain ⟨pos, rfl⟩ := carries_singleton back _ ending
  have parsed : parseScript s.plainText = (Parser.assignments (front ++ [(⟨.eof, pos⟩ : Token)]).length []
      (front ++ [⟨.eof, pos⟩])).map fun read => ({ assignments := read.1 } : Program) := by
    simp only [parseScript, tokenized, bind, Except.bind, assigned_begins _ bs assigned front pos body]
    cases Parser.assignments (front ++ [(⟨.eof, pos⟩ : Token)]).length [] (front ++ [⟨.eof, pos⟩]) <;> rfl
  have count := lines_length _ bs (assigned.imp fun _ _ ⟨_, ms, shape, _⟩ => ⟨ms, shape⟩) front body
  rw [parsed]
  rcases assignments_settle _ bs assigned front pos (front ++ [(⟨.eof, pos⟩ : Token)]).length [] body (by simp; omega) with
    read | ⟨fault, failed, spoils⟩
  · exact .inl (by rw [read]; rfl)
  · exact .inr ⟨fault, by rw [failed]; rfl, spoils⟩

end Assignments

theorem assignments_read (n : Nat) (lss : List (List Lexeme)) (bs : List Assignment)
    (assigned : List.Forall₂ (Assigned n) lss bs) (shallow : n ≤ 63) (tokens : List Token) (pos rounds : Nat)
    (before : List Assignment) (carried : Carries tokens lss.flatten) (enough : bs.length < rounds) :
    Parser.assignments rounds before (tokens ++ [⟨.eof, pos⟩]) = .ok (before.reverse ++ bs, [⟨.eof, pos⟩]) := by
  rcases assignments_settle lss bs (assigned.imp fun _ _ first => first.settling) tokens pos rounds before carried enough
    with read | ⟨fault, -, spoils⟩
  · exact read
  · exact absurd shallow (spoils_deep spoils).2

theorem script_reads (s : Program) (bs : List Assignment) (n : Nat)
    (assigns : List.Forall₂ (Assigns n) s.assignments bs) :
    (parseScript s.plainText = .ok { assignments := bs } ∨ FailsDeep (parseScript s.plainText)) ∧
      (n ≤ 63 → parseScript s.plainText = .ok { assignments := bs }) := by
  rcases script_settles s bs (assigns.imp fun _ _ first => first.settling) with read | ⟨fault, failed, spoils⟩
  · exact ⟨.inl read, fun _ => read⟩
  · obtain ⟨⟨pos, rfl⟩, deep⟩ := spoils_deep spoils
    exact ⟨.inr ⟨pos, failed⟩, fun shallow => absurd shallow deep⟩

end DamagePlan.Script
