import DamagePlan.Proofs.Script.Within

/-!
The tokens of a text: where they stand, how newlines and brackets come among them, and how little they depend on the layout
between them.
-/
set_option autoImplicit false

namespace DamagePlan.Script

open DamagePlan.Script.Parser (Carries KeepsTo Solid allAssignments atEnd current exprAlone lexemes)

def Rising (start stop : Nat) (tokens : List Token) : Prop :=
  ∃ body, tokens = body ++ [⟨.eof, stop⟩] ∧ body.Pairwise (·.pos < ·.pos) ∧
    ∀ token ∈ body, start ≤ token.pos ∧ token.pos ≤ stop

namespace Rising

variable {start stop pos : Nat} {tokens : List Token}

theorem earlier (rising : Rising start stop tokens) (before : pos ≤ start) : Rising pos stop tokens := by
  obtain ⟨body, rfl, ordered, bounds⟩ := rising
  exact ⟨body, rfl, ordered, fun token member => ⟨before.trans (bounds token member).1, (bounds token member).2⟩⟩

theorem cons (rising : Rising start stop tokens) (l : Lexeme) (before : pos < start) (within : pos ≤ stop) :
    Rising pos stop (⟨l, pos⟩ :: tokens) := by
  obtain ⟨body, rfl, ordered, bounds⟩ := rising
  refine ⟨⟨l, pos⟩ :: body, rfl, List.pairwise_cons.mpr ⟨fun token member => ?_, ordered⟩, ?_⟩
  · exact before.trans_le (bounds token member).1
  · rw [List.forall_mem_cons]
    exact ⟨⟨Nat.le_refl _, within⟩, fun token member => ⟨before.le.trans (bounds token member).1, (bounds token member).2⟩⟩

theorem from_start (rising : Rising start stop tokens) (token : Token) (member : token ∈ tokens)
    (earlier : token.lexeme ≠ .eof) : start ≤ token.pos := by
  obtain ⟨body, rfl, -, bounds⟩ := rising
  rcases List.mem_append.mp member with inside | last
  · exact (bounds token inside).1
  · rw [List.mem_singleton.mp last] at earlier
    exact absurd rfl earlier

end Rising

section Positions

variable {pos n : Nat} {closers : List Symbol} {lineOpen : Bool} {u : List Char} {tokens : List Token}

theorem lexeme_count (c : Char) (u after : List Char) (l : Lexeme) (read : readLexeme (c :: u) pos = .ok (l, after, n)) :
    0 < n ∧ n + after.length = u.length + 1 := by
  obtain ⟨text, split, rfl, textOf, earlier⟩ := lexeme_text c u after l pos n read
  obtain ⟨d, more, rfl, -⟩ := text_begins textOf earlier
  have count := congrArg List.length split
  simp only [List.length_cons, List.length_append] at count ⊢
  omega

theorem Scanned.rising (scanned : Scanned pos closers lineOpen u tokens) : Rising pos (pos + u.length) tokens := by
  induction scanned with
  | ended pos => exact ⟨[], rfl, .nil, fun _ member => absurd member List.not_mem_nil⟩
  | lastLine pos => exact ⟨[⟨.newline, pos⟩], rfl, List.pairwise_singleton _ _, by simp⟩
  | @comment pos closers lineOpen line rest tokens oneLine ends later ih =>
    have count : pos + 1 + line.length + rest.length = pos + ('#' :: (line ++ rest)).length := by
      rw [List.length_cons, List.length_append]
      omega
    rw [← count]
    exact ih.earlier (by omega)
  | @newline pos rest tokens later ih =>
    have count : pos + 1 + rest.length = pos + ('\n' :: rest).length := by rw [List.length_cons]; omega
    rw [← count]
    exact ih.cons .newline (Nat.lt_succ_self pos) (by omega)
  | @idle pos closers lineOpen rest tokens within later ih =>
    have count : pos + 1 + rest.length = pos + ('\n' :: rest).length := by rw [List.length_cons]; omega
    rw [← count]
    exact ih.earlier (Nat.le_succ pos)
  | @blank pos closers lineOpen c rest tokens isBlank later ih =>
    have count : pos + 1 + rest.length = pos + (c :: rest).length := by rw [List.length_cons]; omega
    rw [← count]
    exact ih.earlier (Nat.le_succ pos)
  | @lexeme pos n closers owed lineOpen c u after l tokens opens read step later ih =>
    obtain ⟨some_, whole⟩ := lexeme_count c u after l read
    have count : pos + n + after.length = pos + (c :: u).length := by rw [List.length_cons]; omega
    rw [← count]
    exact ih.cons l (by omega) (by omega)

def StandsIn (u : List Char) (pos : Nat) (token : Token) : Prop :=
  ∃ lead text rest, u = lead ++ (text ++ rest) ∧ token.pos = pos + lead.length ∧ IsTextOf text token.lexeme

theorem StandsIn.behind {token : Token} (front : List Char) (stands : StandsIn u (pos + front.length) token) :
    StandsIn (front ++ u) pos token := by
  obtain ⟨lead, text, rest, rfl, place, textOf⟩ := stands
  exact ⟨front ++ lead, text, rest, by rw [List.append_assoc], by rw [place, List.length_append]; omega, textOf⟩

theorem Scanned.stands (scanned : Scanned pos closers lineOpen u tokens) :
    ∀ token ∈ tokens, token.lexeme ≠ .newline → StandsIn u pos token := by
  have final (pos : Nat) : StandsIn [] pos ⟨.eof, pos⟩ := ⟨[], [], [], rfl, rfl, .ended⟩
  induction scanned with
  | ended pos =>
    rw [List.forall_mem_singleton]
    exact fun _ => final pos
  | lastLine pos =>
    rw [List.forall_mem_cons, List.forall_mem_singleton]
    exact ⟨fun other => absurd rfl other, fun _ => final pos⟩
  | @comment pos closers lineOpen line rest tokens oneLine ends later ih =>
    intro token member other
    refine StandsIn.behind ('#' :: line) ?_
    rw [List.length_cons, Nat.add_comm line.length, ← Nat.add_assoc]
    exact ih token member other
  | @newline pos rest tokens later ih =>
    rw [List.forall_mem_cons]
    exact ⟨fun other => absurd rfl other, fun token member other => StandsIn.behind ['\n'] (ih token member other)⟩
  | idle within later ih => exact fun token member other => StandsIn.behind ['\n'] (ih token member other)
  | @blank pos closers lineOpen c rest tokens isBlank later ih =>
    exact fun token member other => StandsIn.behind [c] (ih token member other)
  | @lexeme pos n closers owed lineOpen c u after l tokens opens read step later ih =>
    obtain ⟨text, split, rfl, textOf, -⟩ := lexeme_text c u after l pos n read
    rw [split, List.forall_mem_cons]
    exact ⟨fun _ => ⟨[], text, after, rfl, rfl, textOf⟩, fun token member other => StandsIn.behind text (ih token member other)⟩

end Positions

def Lexeme.isBracket : Lexeme → Bool
  | .symbol s => s.closer?.isSome || s.isCloser
  | _ => false

inductive Nested : List Lexeme → Prop
  | nil : Nested []
  | other {l : Lexeme} {ls : List Lexeme} (plain : l.isBracket = false) (more : Nested ls) : Nested (l :: ls)
  | pair {opening closing : Symbol} {inner rest : List Lexeme} (closes : opening.closer? = some closing)
      (inside : Nested inner) (more : Nested rest) : Nested (.symbol opening :: (inner ++ .symbol closing :: rest))

def owedThrough (closers : List Symbol) (ls : List Lexeme) : Except SyntaxError (List Symbol) :=
  ls.foldlM (fun closers l => owedAfter closers l 0) closers

theorem owed_through_step (closers owed : List Symbol) (l : Lexeme) (ls : List Lexeme) (pos : Nat)
    (step : owedAfter closers l pos = .ok owed) : owedThrough closers (l :: ls) = owedThrough owed ls := by
  rw [owedThrough, List.foldlM_cons, owed_anywhere closers owed l pos 0 step]
  rfl

theorem plain_owed (closers : List Symbol) (l : Lexeme) (plain : l.isBracket = false) : owedAfter closers l 0 = .ok closers := by
  cases l with
  | symbol s =>
    simp only [Lexeme.isBracket, Bool.or_eq_false_iff, Option.isSome_eq_false_iff, Option.isNone_iff_eq_none] at plain
    simp [owedAfter, plain]
  | _ => rfl

theorem closer_owed (closers : List Symbol) (opening closing : Symbol) (closes : opening.closer? = some closing) :
    owedAfter (closing :: closers) (.symbol closing) 0 = .ok closers := by
  cases opening <;> cases closes <;> rfl

theorem nested_owes {ls : List Lexeme} (nested : Nested ls) : ∀ closers, owedThrough closers ls = .ok closers := by
  induction nested with
  | nil => exact fun _ => rfl
  | @other l ls plain more ih =>
    intro closers
    rw [owed_through_step closers closers l ls 0 (plain_owed closers l plain), ih]
  | @pair opening closing inner rest closes inside more ih ih' =>
    intro closers
    have opened : owedAfter closers (.symbol opening) 0 = .ok (closing :: closers) := by simp [owedAfter, closes]
    rw [owed_through_step closers _ _ _ 0 opened, owedThrough, List.foldlM_append]
    have within : inner.foldlM (fun closers l => owedAfter closers l 0) (closing :: closers) = .ok (closing :: closers) := ih _
    rw [within]
    exact (owed_through_step _ closers _ rest 0 (closer_owed closers opening closing closes)).trans (ih' closers)

def Closing : List Symbol → List Lexeme → Prop
  | [], ls => Nested ls
  | closing :: closers, ls => ∃ inner rest, ls = inner ++ .symbol closing :: rest ∧ Nested inner ∧ Closing closers rest

theorem Closing.other {closers : List Symbol} {l : Lexeme} {ls : List Lexeme} (plain : l.isBracket = false)
    (closing : Closing closers ls) : Closing closers (l :: ls) := by
  cases closers with
  | nil => exact Nested.other plain closing
  | cons c closers =>
    obtain ⟨inner, rest, rfl, nested, later⟩ := closing
    exact ⟨l :: inner, rest, rfl, .other plain nested, later⟩

theorem Closing.pair {closers : List Symbol} {opening c : Symbol} {ls : List Lexeme} (closes : opening.closer? = some c)
    (closing : Closing (c :: closers) ls) : Closing closers (.symbol opening :: ls) := by
  obtain ⟨inner, rest, rfl, nested, later⟩ := closing
  cases closers with
  | nil => exact Nested.pair closes nested later
  | cons d closers =>
    obtain ⟨inner', rest', rfl, nested', later⟩ := later
    exact ⟨.symbol opening :: (inner ++ .symbol c :: inner'), rest', by simp, .pair closes nested nested', later⟩

theorem owes_closing (ls : List Lexeme) : ∀ closers, owedThrough closers ls = .ok [] → Closing closers ls := by
  induction ls with
  | nil =>
    intro closers owes
    cases owes
    exact .nil
  | cons l ls ih =>
    intro closers owes
    rw [owedThrough, List.foldlM_cons] at owes
    obtain ⟨owed, step, owes⟩ := bind_ok _ _ _ owes
    have later := ih owed owes
    by_cases plain : l.isBracket = false
    · rw [plain_owed closers l plain] at step
      cases step
      exact later.other plain
    · cases l with
      | symbol s =>
        cases opens : s.closer? with
        | some c =>
          simp only [owedAfter, opens] at step
          cases step
          exact later.pair opens
        | none =>
          have closes : s.isCloser = true := by simpa [Lexeme.isBracket, opens] using plain
          simp only [owedAfter, opens, closes, if_true] at step
          cases closers with
          | nil => cases step
          | cons c closers =>
            dsimp only at step
            split at step
            · rename_i same
              cases step
              exact ⟨[], ls, by rw [same]; rfl, .nil, later⟩
            · cases step
      | _ => exact absurd rfl plain

theorem nested_iff_owes (ls : List Lexeme) : Nested ls ↔ owedThrough [] ls = .ok [] :=
  ⟨fun nested => nested_owes nested [], owes_closing ls []⟩

section Between

variable {pos : Nat} {closers : List Symbol} {lineOpen : Bool} {u : List Char} {tokens : List Token}

theorem Scanned.owes (scanned : Scanned pos closers lineOpen u tokens) : owedThrough closers (lexemes tokens) = .ok [] := by
  induction scanned with
  | ended pos => rfl
  | lastLine pos => rfl
  | newline later ih => exact ih
  | lexeme opens read step later ih => exact (owed_through_step _ _ _ _ _ step).trans ih
  | comment oneLine ends later ih => exact ih
  | idle within later ih => exact ih
  | blank isBlank later ih => exact ih

theorem Scanned.newline_outside (scanned : Scanned pos closers lineOpen u tokens) : ∀ before place after,
    tokens = before ++ ⟨.newline, place⟩ :: after → owedThrough closers (lexemes before) = .ok [] := by
  induction scanned with
  | ended pos =>
    intro before place after shape
    cases before <;> simp at shape
  | lastLine pos =>
    intro before place after shape
    cases before with
    | nil => rfl
    | cons token before => cases before <;> simp at shape
  | @newline pos rest tokens later ih =>
    intro before place after shape
    cases before with
    | nil => rfl
    | cons token before =>
      obtain ⟨rfl, tail⟩ := List.cons.inj shape
      exact ih before place after tail
  | @lexeme pos n closers owed lineOpen c u after l tokens opens read step later ih =>
    intro before place rest shape
    cases before with
    | nil =>
      obtain ⟨same, -⟩ := List.cons.inj shape
      cases same
      exact absurd List.mem_cons_self (lexeme_closed c u after _ pos n read).1.1
    | cons token before =>
      obtain ⟨rfl, tail⟩ := List.cons.inj shape
      exact (owed_through_step _ _ _ _ _ step).trans (ih before place rest tail)
  | comment oneLine ends later ih => exact ih
  | idle within later ih => exact ih
  | blank isBlank later ih => exact ih

end Between

theorem Lined.before_newline {begun : Bool} {ls : List Lexeme} (lined : Lined begun ls) : ∀ before after,
    ls = before ++ .newline :: after → before = [] ∧ begun = true ∨ ∃ front l, before = front ++ [l] ∧ l ≠ .newline := by
  induction lined with
  | finished =>
    intro before after shape
    cases before <;> simp at shape
  | newline following ih =>
    intro before after shape
    cases before with
    | nil => exact .inl ⟨rfl, rfl⟩
    | cons l before =>
      obtain ⟨rfl, tail⟩ := List.cons.inj shape
      rcases ih before after tail with ⟨-, idle⟩ | ⟨front, last, rfl, other⟩
      · cases idle
      · exact .inr ⟨.newline :: front, last, rfl, other⟩
  | @lexeme begun l ls one following ih =>
    intro before after shape
    cases before with
    | nil =>
      obtain ⟨rfl, -⟩ := List.cons.inj shape
      exact absurd List.mem_cons_self one.1
    | cons l' before =>
      obtain ⟨rfl, tail⟩ := List.cons.inj shape
      rcases ih before after tail with ⟨rfl, -⟩ | ⟨front, last, rfl, other⟩
      · exact .inr ⟨[], l, rfl, fun same => one.1 (by rw [same]; exact List.mem_cons_self)⟩
      · exact .inr ⟨l :: front, last, rfl, other⟩

theorem Lined.last {begun : Bool} {ls : List Lexeme} (lined : Lined begun ls) :
    ls = [.eof] ∧ begun = false ∨ ∃ front, ls = front ++ [.newline, .eof] := by
  induction lined with
  | finished => exact .inl ⟨rfl, rfl⟩
  | newline following ih =>
    rcases ih with ⟨rfl, -⟩ | ⟨front, rfl⟩
    · exact .inr ⟨[], rfl⟩
    · exact .inr ⟨.newline :: front, rfl⟩
  | @lexeme begun l ls one following ih =>
    rcases ih with ⟨-, open_⟩ | ⟨front, rfl⟩
    · cases open_
    · exact .inr ⟨l :: front, rfl⟩

/-- Blanks, line breaks, and comments each of which ends in a line break. -/
inductive IsLayout : List Char → Prop
  | nil : IsLayout []
  | blank {c : Char} {gap : List Char} (isBlank : isLayoutBlank c = true) (more : IsLayout gap) : IsLayout (c :: gap)
  | newline {gap : List Char} (more : IsLayout gap) : IsLayout ('\n' :: gap)
  | comment {line gap : List Char} (oneLine : '\n' ∉ line) (more : IsLayout ('\n' :: gap)) :
      IsLayout ('#' :: (line ++ '\n' :: gap))

theorem layout_stopped {gap : List Char} (layout : IsLayout gap) (some_ : gap ≠ []) (rest : List Char) : Stopped (gap ++ rest) := by
  cases layout with
  | nil => exact absurd rfl some_
  | @blank c gap isBlank more =>
    refine stopped_cons c _ ?_
    simp only [isLayoutBlank, Bool.or_eq_true, beq_iff_eq] at isBlank
    rcases isBlank with (rfl | rfl) | rfl <;> decide
  | newline more => exact stopped_cons '\n' _ (by decide)
  | comment oneLine more => exact stopped_cons '#' _ (by decide)

def endsLine (closers : List Symbol) (lineOpen : Bool) (gap : List Char) : Bool :=
  closers.isEmpty && lineOpen && gap.contains '\n'

theorem layout_scans {gap : List Char} (layout : IsLayout gap) (closers : List Symbol) (rest : List Char) : ∀ lineOpen,
    Scans ⟨closers, lineOpen, gap ++ rest⟩ (if endsLine closers lineOpen gap then [.newline] else [])
      ⟨closers, lineOpen && !endsLine closers lineOpen gap, rest⟩ := by
  induction layout with
  | nil =>
    intro lineOpen
    simpa [endsLine] using Scans.refl ⟨closers, lineOpen, rest⟩
  | @blank c gap isBlank more ih =>
    intro lineOpen
    have other : '\n' ≠ c := by rintro rfl; cases isBlank
    have same : endsLine closers lineOpen (c :: gap) = endsLine closers lineOpen gap := by simp [endsLine, other]
    rw [same]
    exact (Scans.blank c (gap ++ rest) isBlank).trans (ih lineOpen)
  | @newline gap more ih =>
    intro lineOpen
    by_cases ends : (closers.isEmpty && lineOpen) = true
    · -- the first line break ends the line, and the ones after it find no line to end
      obtain ⟨none, rfl⟩ := Bool.and_eq_true_iff.mp ends
      obtain rfl := List.isEmpty_iff.mp none
      have first : endsLine [] true ('\n' :: gap) = true := by simp [endsLine]
      have later := ih false
      rw [first]
      simp only [endsLine, Bool.and_false, Bool.false_and] at later
      exact (Scans.newline (gap ++ rest)).trans later
    · have within : closers ≠ [] ∨ lineOpen = false := by
        by_cases none : closers = []
        · exact .inr (by simpa [none] using ends)
        · exact .inl none
      have same (gap : List Char) : endsLine closers lineOpen gap = false := by simp [endsLine, Bool.eq_false_iff.mpr ends]
      have later := ih lineOpen
      rw [same] at later ⊢
      exact (Scans.passed_newline (gap ++ rest) within).trans later
  | @comment line gap oneLine more ih =>
    intro lineOpen
    have same : endsLine closers lineOpen ('#' :: (line ++ '\n' :: gap)) = endsLine closers lineOpen ('\n' :: gap) := by
      simp [endsLine]
    have passed : Scans ⟨closers, lineOpen, '#' :: (line ++ ('\n' :: gap ++ rest))⟩ []
        ⟨closers, lineOpen, '\n' :: gap ++ rest⟩ := .comment line _ oneLine (by simp)
    rw [← List.append_assoc] at passed
    rw [same]
    exact passed.trans (ih lineOpen)

structure Leads (closers : List Symbol) (lineOpen : Bool) (front : List Char) (ls : List Lexeme) (owed : List Symbol) : Prop where
  owes : owedThrough closers ls = .ok owed
  scans : ∀ rest, Stopped rest → Scans ⟨closers, lineOpen, front ++ rest⟩ ls ⟨owed, true, rest⟩

theorem Leads.behind {closers owed : List Symbol} {lineOpen : Bool} {front : List Char} {ls : List Lexeme}
    (skipped : List Char) (leads : Leads closers lineOpen front ls owed)
    (silent : ∀ rest, Scans ⟨closers, lineOpen, skipped ++ (front ++ rest)⟩ [] ⟨closers, lineOpen, front ++ rest⟩) :
    Leads closers lineOpen (skipped ++ front) ls owed where
  owes := leads.owes
  scans rest stopped := by
    rw [List.append_assoc]
    exact (silent rest).trans (leads.scans rest stopped)

theorem cut_lead {x u lead rest : List Char} (same : x ++ u = lead ++ rest) (enough : x.length ≤ lead.length) :
    ∃ more, lead = x ++ more ∧ u = more ++ rest := by
  rcases List.append_eq_append_iff.mp same with ⟨more, rfl, rfl⟩ | ⟨more, rfl, rfl⟩
  · exact ⟨more, rfl, rfl⟩
  · rw [List.length_append] at enough
    have none : more = [] := List.length_eq_zero_iff.mp (by omega)
    exact ⟨[], by simp [none], by simp [none]⟩

theorem Leads.across {closers : List Symbol} {lineOpen : Bool} {lead text z rest : List Char} {ls : List Lexeme}
    (skipped : List Char) (split : skipped ++ rest = lead ++ (text ++ z)) (enough : skipped.length ≤ lead.length)
    (onward : ∀ further, rest = further ++ (text ++ z) → lead.length = skipped.length + further.length →
      ∃ owed, Leads closers lineOpen (further ++ text) ls owed)
    (silent : ∀ further w, rest = further ++ (text ++ z) →
      Scans ⟨closers, lineOpen, skipped ++ (further ++ text ++ w)⟩ [] ⟨closers, lineOpen, further ++ text ++ w⟩) :
    ∃ owed, Leads closers lineOpen (lead ++ text) ls owed := by
  obtain ⟨further, rfl, rest⟩ := cut_lead split enough
  obtain ⟨owed, leads⟩ := onward further rest (by rw [List.length_append])
  refine ⟨owed, ?_⟩
  rw [List.append_assoc]
  exact leads.behind skipped fun w => silent further w rest

theorem Leads.lexeme {closers owed owed' : List Symbol} {lineOpen : Bool} {c : Char} {slice front z : List Char} {l : Lexeme}
    {ls : List Lexeme} {pos n : Nat} (opens : Scans.opensLexeme c = true)
    (read : readLexeme (c :: (slice ++ (front ++ z))) pos = .ok (l, front ++ z, n)) (step : owedAfter closers l pos = .ok owed)
    (stopped : Stopped z) (leads : Leads owed true front ls owed') :
    Leads closers lineOpen (c :: (slice ++ front)) (l :: ls) owed' where
  owes := (owed_through_step _ _ _ _ _ step).trans leads.owes
  scans w stopped' := by
    have again (pos' : Nat) : readLexeme (c :: (slice ++ (front ++ w))) pos' = .ok (l, front ++ w, n) := by
      have swapped := lexeme_before_stop c (slice ++ front) front z w l pos pos' _ stopped stopped' (by simpa using read)
      simpa using swapped
    have first : Scans ⟨closers, lineOpen, c :: (slice ++ (front ++ w))⟩ [l] ⟨owed, true, front ++ w⟩ :=
      .lexeme c _ _ l opens (by simp) (fun pos' => ⟨_, again pos'⟩) fun pos' => owed_anywhere _ _ _ pos pos' step
    have whole := first.trans (leads.scans w stopped')
    simpa using whole

-- Induction on the scan with what stands before the token open: what is scanned first is the front of that, since the token
-- comes at a later place.
theorem Scanned.leads {pos : Nat} {closers : List Symbol} {lineOpen : Bool} {u : List Char} {tokens : List Token}
    (scanned : Scanned pos closers lineOpen u tokens) (a : Token) (text z : List Char) (textOf : IsTextOf text a.lexeme)
    (earlier : a.lexeme ≠ .eof) (stopped : Stopped z) : ∀ lead before after, u = lead ++ (text ++ z) →
      tokens = before ++ a :: after → a.pos = pos + lead.length →
        ∃ owed, Leads closers lineOpen (lead ++ text) (lexemes (before ++ [a])) owed := by
  obtain ⟨d, more, rfl, dOpens⟩ := text_begins textOf earlier
  have noNewline (pos : Nat) : a ≠ ⟨.newline, pos⟩ := by
    rintro rfl
    exact (text_solid textOf earlier).1 List.mem_cons_self
  induction scanned with
  | ended pos =>
    intro lead before after split shape
    simp at split
  | lastLine pos =>
    intro lead before after split shape
    simp at split
  | @comment pos closers lineOpen line rest tokens oneLine ends later ih =>
    intro lead before after split shape place
    have far := later.rising.from_start a (by rw [shape]; simp) earlier
    refine Leads.across ('#' :: line) split (by rw [List.length_cons]; omega)
      (fun further split' long => ih further before after split' shape (by rw [List.length_cons] at long; omega)) ?_
    rintro further w rfl
    refine .comment line _ oneLine fun c first => ends c ?_
    cases further <;> exact first
  | @newline pos rest tokens later ih =>
    intro lead before after split shape place
    cases before with
    | nil =>
      obtain ⟨same, -⟩ := List.cons.inj shape
      exact absurd same.symm (noNewline pos)
    | cons token before =>
      obtain ⟨rfl, tail⟩ := List.cons.inj shape
      have far := later.rising.from_start a (by rw [tail]; simp) earlier
      obtain ⟨lead, rfl, rfl⟩ := cut_lead (x := ['\n']) split (by simp; omega)
      obtain ⟨owed, leads⟩ := ih lead before after rfl tail (by rw [place, List.length_append]; simp; omega)
      refine ⟨owed, leads.owes, fun w stopped' => ?_⟩
      have scans := leads.scans w stopped'
      exact (Scans.newline _).trans scans
  | @idle pos closers lineOpen rest tokens within later ih =>
    intro lead before after split shape place
    have far := later.rising.from_start a (by rw [shape]; simp) earlier
    exact Leads.across ['\n'] split (by rw [List.length_singleton]; omega)
      (fun further split' long => ih further before after split' shape (by rw [List.length_singleton] at long; omega))
      fun further w _ => .passed_newline _ within
  | @blank pos closers lineOpen c rest tokens isBlank later ih =>
    intro lead before after split shape place
    have far := later.rising.from_start a (by rw [shape]; simp) earlier
    exact Leads.across [c] split (by rw [List.length_singleton]; omega)
      (fun further split' long => ih further before after split' shape (by rw [List.length_singleton] at long; omega))
      fun further w _ => .blank c _ isBlank
  | @lexeme pos n closers owed lineOpen c u after l tokens opens read step later ih =>
    intro lead before rest split shape place
    cases before with
    | nil =>
      obtain ⟨rfl, -⟩ := List.cons.inj shape
      obtain rfl : lead = [] := List.length_eq_zero_iff.mp (by simpa using place)
      refine ⟨owed, owed_through_step _ _ _ _ _ step, fun w stopped' => ?_⟩
      exact .lexeme d (more ++ w) w l dOpens (by simp) (fun pos' => ⟨_, text_read textOf earlier w stopped' pos'⟩)
        fun pos' => owed_anywhere _ _ _ pos pos' step
    | cons token before =>
      obtain ⟨rfl, tail⟩ := List.cons.inj shape
      obtain ⟨slice, sliced, rfl, sliceOf, inner⟩ := lexeme_text c u after l pos n read
      have far := later.rising.from_start a (by rw [tail]; simp) earlier
      obtain ⟨lead, rfl, rfl⟩ := cut_lead (sliced.symm.trans split) (by omega)
      obtain ⟨owed', leads⟩ := ih lead before rest rfl tail (by rw [place, List.length_append]; omega)
      obtain ⟨c', slice, rfl, -⟩ := text_begins sliceOf inner
      obtain ⟨rfl, rfl⟩ := List.cons.inj sliced
      have whole : Leads closers lineOpen (c :: (slice ++ (lead ++ d :: more))) (lexemes (⟨l, pos⟩ :: (before ++ [a]))) owed' :=
        leads.lexeme opens (by simpa using read) step stopped
      exact ⟨owed', by simpa using whole⟩

theorem relaid {lead text gap gap' rest : List Char} {tokens before after : List Token} {a : Token}
    (split : tokenizeList (lead ++ (text ++ (gap ++ rest))) = .ok tokens) (shape : tokens = before ++ a :: after)
    (place : a.pos = lead.length) (textOf : IsTextOf text a.lexeme) (earlier : a.lexeme ≠ .eof) (layout : IsLayout gap)
    (some_ : gap ≠ []) (layout' : IsLayout gap') (some_' : gap' ≠ [])
    (breaks : Nested (lexemes (before ++ [a])) → ('\n' ∈ gap' ↔ '\n' ∈ gap)) :
    ∃ tokens', tokenizeList (lead ++ (text ++ (gap' ++ rest))) = .ok tokens' ∧ lexemes tokens' = lexemes tokens := by
  have scanned := scanned_of_scan _ _ _ _ _ _ (Nat.le_refl _) split
  obtain ⟨owed, leads⟩ := scanned.leads a text (gap ++ rest) textOf earlier (layout_stopped layout some_ rest) lead before
    after rfl shape (by rw [place, Nat.zero_add])
  have same : endsLine owed true gap' = endsLine owed true gap := by
    cases owed with
    | nil =>
      have here := breaks ((nested_iff_owes _).mpr leads.owes)
      simp [endsLine, here]
    | cons closer owed => rfl
  have whole := (leads.scans _ (layout_stopped layout some_ rest)).trans (layout_scans layout owed rest true)
  have whole' := (leads.scans _ (layout_stopped layout' some_' rest)).trans (layout_scans layout' owed rest true)
  rw [same] at whole'
  rw [List.append_assoc] at whole whole'
  -- after the layout, either text goes on alike
  obtain ⟨front, fuel, pos, carried, enough, scans⟩ := whole _ 0 (Nat.le_refl _)
  obtain ⟨back, later, rfl⟩ := map_ok _ _ _ (scans.symm.trans split)
  obtain ⟨ls, open_, ends, final⟩ := (scanned_of_scan _ _ _ _ _ _ enough later).scans
  obtain ⟨tokens', split', carried'⟩ := Scans.tokens_of_end _ open_ (whole'.trans ends)
  have both : Carries (front ++ back) (_ ++ (ls ++ ending open_)) := Parser.append_carries _ _ _ _ carried final
  rw [← List.append_assoc] at both
  exact ⟨tokens', split', carried'.trans both.symm⟩

structure IsTokenStream (text : List Char) (tokens : List Token) : Prop where
  /-- Offsets increase up to the end token, which stands at the end of the text. -/
  rising : Rising 0 text.length tokens
  stands : ∀ token ∈ tokens, token.lexeme ≠ .newline → StandsIn text 0 token
  nested : Nested (lexemes tokens)
  /-- A newline comes outside brackets, and right after something that is no newline. -/
  newlines : ∀ before after, lexemes tokens = before ++ .newline :: after →
    Nested before ∧ ∃ front l, before = front ++ [l] ∧ l ≠ .newline
  ends : lexemes tokens = [.eof] ∨ ∃ front, lexemes tokens = front ++ [.newline, .eof]
  /-- Other layout right after a token leaves the lexemes as they are, if outside brackets it breaks the line where the old
  one did. -/
  relays : ∀ lead own gap gap' rest before a after, text = lead ++ (own ++ (gap ++ rest)) → tokens = before ++ a :: after →
    a.pos = lead.length → IsTextOf own a.lexeme → a.lexeme ≠ .eof → IsLayout gap → gap ≠ [] → IsLayout gap' → gap' ≠ [] →
      (Nested (lexemes (before ++ [a])) → ('\n' ∈ gap' ↔ '\n' ∈ gap)) →
        ∃ tokens', tokenizeList (lead ++ (own ++ (gap' ++ rest))) = .ok tokens' ∧ lexemes tokens' = lexemes tokens
  expression : KeepsTo exprAlone tokens
  script : ∀ rounds, tokens.length ≤ rounds → KeepsTo (allAssignments rounds) tokens

/-- The tokens of a text stand where their texts do, with brackets matched and newlines only between lines; they depend on
the layout between them by its line breaks alone; and neither parser leaves them. -/
theorem tokens_stream (text : String) (tokens : List Token) (split : tokenize text = .ok tokens) :
    IsTokenStream text.toList tokens ∧
    parseExpression text = ((exprAlone tokens).bind fun (e, rest) =>
      if atEnd rest then .ok e else .error ⟨.trailingToken (current rest).lexeme, (current rest).pos⟩) ∧
    parseScript text = (allAssignments tokens.length tokens).map fun (all, _) => { assignments := all } := by
  have scanned := tokenize_scanned text tokens split
  have lined := tokenize_lined text tokens split
  have anchored := Parser.lined_anchored lined
  refine ⟨?_, Parser.parse_expression_alone text tokens split, Parser.parse_script_all text tokens split⟩
  exact {
    rising := by simpa using scanned.rising
    stands := scanned.stands
    nested := (nested_iff_owes _).mpr scanned.owes
    newlines := by
      intro before after shape
      obtain ⟨front, back, rfl, carried, following⟩ := Parser.carries_append tokens before _ shape
      obtain ⟨pos, back, rfl, -⟩ := Parser.carries_cons back _ _ following
      have outside := scanned.newline_outside front pos back rfl
      rw [show lexemes front = before from carried] at outside
      rcases lined.before_newline before after shape with ⟨-, begun⟩ | behind
      · cases begun
      · exact ⟨(nested_iff_owes before).mpr outside, behind⟩
    ends := lined.last.imp And.left id
    relays := by
      intro lead own gap gap' rest before a after shape tokensShape place textOf earlier layout some_ layout' some_' breaks
      rw [tokenize, shape] at split
      exact relaid split tokensShape place textOf earlier layout some_ layout' some_' breaks
    expression := Parser.expr_alone_keeps anchored
    script := Parser.all_assignments_keep anchored }

/-- Between the items of a list, a comment gives way to a blank. -/
theorem list_without_comment : ∃ tokens, tokenize "f = [a, # one\n b]" = .ok tokens ∧
    ∃ tokens', tokenize "f = [a, b]" = .ok tokens' ∧ lexemes tokens' = lexemes tokens := by
  let before : List Token := [⟨.ident "f", 0⟩, ⟨.symbol .assign, 2⟩, ⟨.symbol .openBracket, 4⟩, ⟨.ident "a", 5⟩]
  let after : List Token := [⟨.ident "b", 15⟩, ⟨.symbol .closeBracket, 16⟩, ⟨.newline, 17⟩, ⟨.eof, 17⟩]
  have split : tokenize "f = [a, # one\n b]" = .ok (before ++ ⟨.symbol .comma, 6⟩ :: after) := rfl
  refine ⟨_, split, ?_⟩
  have comment : IsLayout ('#' :: (" one".toList ++ ['\n', ' '])) := .comment (by decide) (.newline (.blank rfl .nil))
  refine (tokens_stream _ _ split).1.relays "f = [a".toList ",".toList " # one\n ".toList " ".toList "b]".toList before _ after
    rfl rfl rfl (.symbol .comma) (by simp) (.blank rfl comment) (by decide) (.blank rfl .nil) (by decide) fun nested => ?_
  -- the list is open there
  cases (nested_iff_owes _).mp nested

end DamagePlan.Script
