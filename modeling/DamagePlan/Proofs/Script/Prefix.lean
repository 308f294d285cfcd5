import DamagePlan.Proofs.Script.Exported
import DamagePlan.Proofs.Script.IfRead
import DamagePlan.Proofs.Steps

/-!
How a script begins: what its first assignments are read as and export, whatever stands after them.
-/
set_option autoImplicit false

namespace DamagePlan.Script

open DamagePlan.Script.Parser (Carries carries_append carries_cons carries_singleton pull)

structure AssignsIfRead (a b : Assignment) : Prop where
  same : a.name = b.name
  named : isName a.name.toList = true
  free : a.name ∉ keywords
  reads : TextIfRead (a.value.print 0) b.value
  ends : (a.value.print 0).getLast? ≠ some '\n'

def AssignedIfRead (ls : List Lexeme) (b : Assignment) : Prop :=
  b.name ∉ keywords ∧ ∃ ms, ls = lineOf b ms ∧ Parser.IfRead ms b.value

theorem assigns_written_if_read (as bs : List Assignment) (assigns : List.Forall₂ AssignsIfRead as bs) :
    ∃ mss, List.Forall₂ Written as mss ∧ List.Forall₂ AssignedIfRead (List.zipWith lineOf as mss) bs := by
  have settling : List.Forall₂ (AssignsSettling (fun _ => True) 0) as bs := assigns.imp fun a b own => by
    obtain ⟨ls, spelled, part⟩ := own.reads
    exact ⟨own.same, own.named, own.free, ⟨ls, spelled, part.settles⟩, own.ends⟩
  obtain ⟨mss, written, assigned⟩ := assigns_written as bs settling
  refine ⟨mss, written, assigned.imp fun ls b own => ?_⟩
  obtain ⟨free, ms, shape, settles⟩ := own
  exact ⟨free, ms, shape, settles.if_read⟩

theorem assignments_step (ls : List Lexeme) (b : Assignment) (assigned : AssignedIfRead ls b) (front back : List Token)
    (rounds : Nat) (before : List Assignment) (carried : Carries front ls) (r : List Assignment × List Token)
    (read : Parser.assignments (rounds + 1) before (front ++ back) = .ok r) :
    Parser.assignments rounds (b :: before) (Parser.skipNewlines back) = .ok r := by
  obtain ⟨free, ms, rfl, part⟩ := assigned
  obtain ⟨namePos, signed, rfl, signs⟩ := carries_cons front _ _ carried
  obtain ⟨signPos, right, rfl, ended⟩ := carries_cons signed _ _ signs
  obtain ⟨body, ending, rfl, valued, closing⟩ := carries_append right _ _ ended
  obtain ⟨endPos, rfl⟩ := carries_singleton ending _ closing
  simp only [List.cons_append, List.append_assoc, List.nil_append, Parser.assignments, Parser.atEnd, Parser.current,
    Parser.expectName, Parser.expect_symbol_cons, List.contains_iff_mem, free] at read
  cases here : Parser.expr (body ++ ⟨.newline, endPos⟩ :: back) with
  | error fault =>
    rw [here] at read
    cases read
  | ok value =>
    obtain rfl := part.reads maxDepth body (⟨.newline, endPos⟩ :: back) value valued (by simp [pull]) here
    rw [here] at read
    exact read

theorem assignments_extend (rounds : Nat) : ∀ before tokens as rest,
    Parser.assignments rounds before tokens = .ok (as, rest) → ∃ more, as = before.reverse ++ more := by
  induction rounds with
  | zero =>
    intro before tokens as rest read
    cases read
    exact ⟨[], (List.append_nil _).symm⟩
  | succ rounds ih =>
    intro before tokens as rest read
    rw [Parser.assignments] at read
    split at read
    · cases read
      exact ⟨[], (List.append_nil _).symm⟩
    split at read
    · cases read
    rename_i name pos after named
    split at read
    · cases read
    split at read
    · cases read
    split at read
    · cases read
    rename_i value last body
    split at read
    · obtain ⟨more, rfl⟩ := ih _ _ _ _ read
      exact ⟨⟨name, value⟩ :: more, by simp⟩
    · split at read
      · cases read
        exact ⟨[⟨name, value⟩], by simp⟩
      · cases read

theorem assignments_begin (lss : List (List Lexeme)) (bs : List Assignment)
    (assigned : List.Forall₂ AssignedIfRead lss bs) : ∀ front back rounds before as rest, Carries front lss.flatten →
      bs.length ≤ rounds → Parser.assignments rounds before (Parser.skipNewlines (front ++ back)) = .ok (as, rest) →
        ∃ more, as = before.reverse ++ bs ++ more := by
  induction assigned with
  | nil =>
    intro front back rounds before as rest carried enough read
    obtain ⟨more, rfl⟩ := assignments_extend _ _ _ _ _ read
    exact ⟨more, by simp⟩
  | @cons ls b lss bs first _ ih =>
    intro front back rounds before as rest carried enough read
    obtain ⟨rounds, rfl⟩ : ∃ i, rounds = i + 1 := ⟨rounds - 1, by simp at enough; omega⟩
    obtain ⟨one, others, rfl, whole, tail⟩ := carries_append front _ _ carried
    have solid : Parser.skipNewlines (one ++ others ++ back) = one ++ (others ++ back) := by
      obtain ⟨_, ms, rfl, _⟩ := first
      obtain ⟨pos, more, rfl, _⟩ := carries_cons one _ _ whole
      simp [Parser.skipNewlines]
    rw [solid] at read
    have following := assignments_step ls b first one _ rounds before whole _ read
    obtain ⟨more, rfl⟩ := ih others back rounds (b :: before) as rest tail (by simpa using enough) following
    exact ⟨more, by simp⟩

theorem assignment_lines_extend (as : List Assignment) :
    ∀ before, ∃ more, as.foldl Program.assignmentLines before = before ++ more := by
  induction as with
  | nil => exact fun before => ⟨[], (List.append_nil _).symm⟩
  | cons a as ih =>
    intro before
    obtain ⟨gap, gap', shape, -, -⟩ := assignment_lines_shape before a
    obtain ⟨more, whole⟩ := ih (Program.assignmentLines before a)
    refine ⟨gap ++ (a.name ++ " = " ++ a.value.plainText) :: gap' ++ more, ?_⟩
    rw [List.foldl_cons, whole, shape]
    simp

theorem intercalate_append (texts more : List (List Char)) (some_ : more ≠ []) :
    ['\n'].intercalate (texts ++ more) = texts.flatMap (· ++ ['\n']) ++ ['\n'].intercalate more := by
  induction texts with
  | nil => simp
  | cons text texts ih => rw [List.cons_append, List.intercalate_cons_of_ne_nil (by simp [some_]), ih]; simp

theorem drop_end_append (drop : Char → Bool) (cs ds : List Char) (c : Char) (member : c ∈ ds) (stays : drop c = false) :
    Text.dropEndWhile drop (cs ++ ds) = cs ++ Text.dropEndWhile drop ds := by
  induction ds using List.reverseRecOn with
  | nil => cases member
  | append_singleton ds d ih =>
    rw [← List.append_assoc, drop_end_concat, drop_end_concat]
    by_cases dropped : drop d = true
    · have inside : c ∈ ds := by
        rcases List.mem_append.mp member with inside | last
        · exact inside
        · rw [List.mem_singleton.mp last, dropped] at stays
          cases stays
      simp only [dropped, if_true, ih inside]
    · simp [dropped]

theorem plain_text_begins (s : Program) (firsts rest : List Assignment) (a : Assignment)
    (split : s.assignments = firsts ++ a :: rest) (named : isName a.name.toList = true) :
    ∃ remainder, s.plainText.toList =
      ((firsts.foldl Program.assignmentLines (Program.headerLines s.header)).map String.toList).flatMap (· ++ ['\n'])
        ++ remainder := by
  obtain ⟨gap, gap', shape, -, -⟩ :=
    assignment_lines_shape (firsts.foldl Program.assignmentLines (Program.headerLines s.header)) a
  obtain ⟨more, whole⟩ := assignment_lines_extend rest
    (Program.assignmentLines (firsts.foldl Program.assignmentLines (Program.headerLines s.header)) a)
  obtain ⟨c, cs, name⟩ : ∃ c cs, a.name.toList = c :: cs := by
    cases text : a.name.toList with
    | nil => rw [text] at named; cases named
    | cons c cs => exact ⟨c, cs, rfl⟩
  have solid : (c == '\n') = false := by
    rw [name] at named
    simp only [isName, Bool.and_eq_true] at named
    rw [beq_eq_false_iff_ne]
    rintro rfl
    exact absurd named.1 (by decide)
  have inside : c ∈ ['\n'].intercalate ((gap ++ (a.name ++ " = " ++ a.value.plainText) :: (gap' ++ more)).map String.toList) := by
    rw [List.map_append, intercalate_append _ _ (by simp)]
    apply List.mem_append_right
    rw [List.map_cons]
    cases (gap' ++ more).map String.toList with
    | nil => simp [name]
    | cons text texts => rw [List.intercalate_cons_of_ne_nil (by simp)]; simp [name]
  refine ⟨Text.dropEndWhile (· == '\n') (['\n'].intercalate
    ((gap ++ (a.name ++ " = " ++ a.value.plainText) :: (gap' ++ more)).map String.toList)) ++ ['\n'], ?_⟩
  rw [← List.append_assoc, ← drop_end_append _ _ _ c inside solid, ← intercalate_append _ _ (by simp), ← List.map_append]
  have lines : s.assignments.foldl Program.assignmentLines (Program.headerLines s.header) =
      firsts.foldl Program.assignmentLines (Program.headerLines s.header) ++
        (gap ++ (a.name ++ " = " ++ a.value.plainText) :: (gap' ++ more)) := by
    rw [split, List.foldl_append, List.foldl_cons, whole, shape]
    simp
  simp [Program.plainText, lines, String.toList_intercalate]

theorem script_begins (s : Program) (firsts rest bs : List Assignment) (a : Assignment)
    (split : s.assignments = firsts ++ a :: rest) (named : isName a.name.toList = true)
    (assigns : List.Forall₂ AssignsIfRead firsts bs) (program : Program) (parsed : parseScript s.plainText = .ok program) :
    ∃ more, program.assignments = bs ++ more := by
  obtain ⟨remainder, text⟩ := plain_text_begins s firsts rest a split named
  obtain ⟨areHeader, shownHeader, noneHeader⟩ := silent_lines (Program.headerLines s.header) (header_line s.header)
  obtain ⟨mss, written, assigned⟩ := assigns_written_if_read firsts bs assigns
  obtain ⟨lines, areLines, shown, emitted⟩ := program_lines firsts mss written _ _ areHeader shownHeader
  have scans := lines_scan lines areLines remainder
  have begins : lines.flatMap (·.1 ++ ['\n']) ++ remainder = s.plainText.toList := by
    rw [text, ← shown, List.flatMap_map]
  rw [emitted, noneHeader, List.nil_append, begins] at scans
  simp only [parseScript, tokenize, tokenizeList, bind, Except.bind] at parsed
  -- the text itself is of no interest to the scan any more
  generalize s.plainText.toList = cs at scans parsed
  obtain ⟨front, fuel, pos, carried, -, scanned⟩ := scans cs.length 0 (Nat.le_refl _)
  rw [scanned] at parsed
  cases later : scan fuel remainder pos [] false with
  | error e => rw [later] at parsed; cases parsed
  | ok back =>
    simp only [later, Except.map] at parsed
    cases read : Parser.assignments (front ++ back).length [] (Parser.skipNewlines (front ++ back)) with
    | error e => rw [read] at parsed; cases parsed
    | ok result =>
      obtain ⟨as, last⟩ := result
      rw [read] at parsed
      cases parsed
      have count := lines_length _ bs (assigned.imp fun _ _ own => own.2.imp fun _ shape => shape.1) front carried
      obtain ⟨more, rfl⟩ := assignments_begin _ bs assigned front back _ [] as last carried (by simp; omega) read
      exact ⟨more, by simp⟩

theorem evaluate_assignments_extend (stack : Stack) (as : List Assignment) : ∀ scope marks scope' marks',
    evaluateAssignments stack scope marks as = .ok (scope', marks') → ∃ more, scope' = scope ++ more := by
  induction as with
  | nil =>
    intro scope marks scope' marks' evaluated
    cases evaluated
    exact ⟨[], (List.append_nil _).symm⟩
  | cons a as ih =>
    intro scope marks scope' marks' evaluated
    rw [evaluateAssignments] at evaluated
    split at evaluated
    · cases evaluated
    split at evaluated
    · cases evaluated
    split at evaluated
    · obtain ⟨more, rfl⟩ := ih _ _ _ _ evaluated
      exact ⟨[_] ++ more, List.append_assoc _ _ _⟩
    · split at evaluated <;> cases evaluated

structure AssignsConveying (a b : Assignment) : Prop where
  same : a.name = b.name
  named : isName a.name.toList = true
  free : a.name ∉ keywords
  conveys : Conveys 64 a.value b.value
  ends : (a.value.print 0).getLast? ≠ some '\n'

theorem Assignable.conveys {n : Nat} {a : Assignment} (assignable : Assignable n a) : AssignsConveying a a :=
  ⟨rfl, assignable.named, assignable.free, assignable.delivers.conveys, assignable.ends⟩

theorem assignments_convey (stack : Stack) (as bs : List Assignment) (assigns : List.Forall₂ AssignsConveying as bs) :
    ∃ gs, List.Forall₂ AssignsIfRead as gs ∧ ∀ scope marks more, (scope.map (·.1) ++ bs.map (·.name)).Nodup →
      evaluateAssignments stack scope marks (gs ++ more) = evaluateAssignments stack (exportsFrom scope bs) marks more := by
  obtain ⟨gs, reads, values⟩ := pairs_between as bs (R := AssignsIfRead)
    (S := fun g b => g.name = b.name ∧ Stands 64 g.value b.value) <|
      assigns.imp fun a b own => by
        obtain ⟨same, named, free, ⟨g, read, stands⟩, ends⟩ := own
        exact ⟨⟨b.name, g⟩, ⟨same, named, free, read 0, ends⟩, rfl, stands⟩
  exact ⟨gs, reads, assignments_evaluate stack gs bs values⟩

theorem script_exports (stack : Stack) (s : Program) (firsts rest bs : List Assignment) (a : Assignment)
    (split : s.assignments = firsts ++ a :: rest) (named : isName a.name.toList = true)
    (assigns : List.Forall₂ AssignsConveying firsts bs) (distinct : (bs.map (·.name)).Nodup) (script : LoadedScript)
    (loaded : load stack s.plainText = .ok script) :
    ∃ later marks, loadExports (exportsFrom [] bs ++ later) marks = .ok script := by
  obtain ⟨gs, reads, evaluates⟩ := assignments_convey stack firsts bs assigns
  unfold load at loaded
  cases parsed : parseScript s.plainText with
  | error e =>
    rw [parsed] at loaded
    cases loaded
  | ok program =>
    obtain ⟨more, begins⟩ := script_begins s firsts rest gs a split named reads program parsed
    simp only [parsed, begins, evaluates [] 0 more (by simpa using distinct)] at loaded
    cases evaluated : evaluateAssignments stack (exportsFrom [] bs) 0 more with
    | error e =>
      rw [evaluated] at loaded
      cases loaded
    | ok result =>
      obtain ⟨scope, marks⟩ := result
      obtain ⟨later, rfl⟩ := evaluate_assignments_extend stack _ _ _ _ _ evaluated
      rw [evaluated] at loaded
      exact ⟨later, marks, map_error_ok _ _ _ loaded⟩

end DamagePlan.Script
