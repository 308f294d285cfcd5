import DamagePlan.Proofs.Json.Grammar
import DamagePlan.Text.Lines

/-!
Line ends in JSON text: it is read alike with its carriage returns and with newlines in their place.
-/
set_option autoImplicit false

namespace DamagePlan.Json

open Text (isAsciiDigit)

def isLineEnd (c : Char) : Bool := c == '\n' || c == '\r'

structure IsBreak (cs : List Char) : Prop where
  nonempty : cs ≠ []
  ends : ∀ c ∈ cs, isLineEnd c = true

inductive Respaced : List Char → List Char → Prop
  | nil : Respaced [] []
  | char (c : Char) {cs ds : List Char} (same : Respaced cs ds) : Respaced (c :: cs) (c :: ds)
  | line {gap gap' cs ds : List Char} (isBreak : IsBreak gap) (isBreak' : IsBreak gap') (same : Respaced cs ds) :
      Respaced (gap ++ cs) (gap' ++ ds)

theorem Respaced.symm {cs ds : List Char} (same : Respaced cs ds) : Respaced ds cs := by
  induction same with
  | nil => exact .nil
  | char c _ ih => exact .char c ih
  | line isBreak isBreak' _ ih => exact .line isBreak' isBreak ih

theorem universal_newlines_respaced (cs : List Char) : Respaced cs (Text.universalNewlines cs) := by
  have newline : IsBreak ['\n'] := ⟨List.cons_ne_nil _ _, by simp [isLineEnd]⟩
  have carriages : IsBreak ['\r'] ∧ IsBreak ['\r', '\n'] := by
    constructor <;> exact ⟨List.cons_ne_nil _ _, by simp [isLineEnd]⟩
  induction cs using Text.universalNewlines.induct with
  | case1 => exact .nil
  | case2 cs ih =>
    exact Respaced.line carriages.2 newline ih
  | case3 c cs alone ih =>
    rw [Text.universalNewlines.eq_3 c cs alone]
    by_cases carriage : c = '\r'
    · subst carriage
      exact Respaced.line carriages.1 newline ih
    · rw [beq_false_of_ne carriage]
      exact .char c ih

theorem line_end_space (c : Char) (ends : isLineEnd c = true) : isSpace c = true := by
  simp only [isLineEnd, Bool.or_eq_true, beq_iff_eq] at ends
  rcases ends with rfl | rfl <;> rfl

theorem respaced_nil {ds : List Char} (same : Respaced [] ds) : ds = [] := by
  generalize whole : ([] : List Char) = text at same
  cases same with
  | nil => rfl
  | char => cases whole
  | line isBreak => exact absurd (List.append_eq_nil_iff.mp whole.symm).1 isBreak.nonempty

theorem respaced_char {c : Char} {cs ds : List Char} (visible : isLineEnd c = false) (same : Respaced (c :: cs) ds) :
    ∃ ds', ds = c :: ds' ∧ Respaced cs ds' := by
  generalize whole : c :: cs = text at same
  cases same with
  | nil => cases whole
  | char d same =>
    cases whole
    exact ⟨_, rfl, same⟩
  | @line gap gap' cs' ds isBreak isBreak' same =>
    cases gap with
    | nil => exact absurd rfl isBreak.nonempty
    | cons d gap =>
      have ends := isBreak.ends d List.mem_cons_self
      rw [← (List.cons.inj whole).1, visible] at ends
      cases ends

theorem respaced_token (token : List Char) {cs ds : List Char} (visible : ∀ c ∈ token, isLineEnd c = false)
    (same : Respaced (token ++ cs) ds) : ∃ ds', ds = token ++ ds' ∧ Respaced cs ds' := by
  induction token generalizing ds with
  | nil => exact ⟨ds, rfl, same⟩
  | cons c token ih =>
    obtain ⟨_, rfl, onward⟩ := respaced_char (visible c List.mem_cons_self) same
    obtain ⟨ds, rfl, rest⟩ := ih (fun d member => visible d (List.mem_cons_of_mem _ member)) onward
    exact ⟨ds, rfl, rest⟩

theorem respaced_gap (gap : List Char) {cs ds : List Char} (isGap : IsGap gap) (begins : Begins cs)
    (same : Respaced (gap ++ cs) ds) : ∃ gap' ds', ds = gap' ++ ds' ∧ IsGap gap' ∧ Respaced cs ds' := by
  generalize whole : gap ++ cs = text at same
  induction same generalizing gap with
  | nil =>
    obtain ⟨rfl, rfl⟩ := List.append_eq_nil_iff.mp whole
    exact ⟨[], [], rfl, nofun, .nil⟩
  | char c same ih =>
    cases gap with
    | nil =>
      obtain rfl : cs = _ := whole
      exact ⟨[], _, rfl, nofun, .char c same⟩
    | cons d gap =>
      obtain ⟨rfl, rest⟩ := List.cons.inj whole
      obtain ⟨gap', ds', rfl, isGap', onward⟩ := ih gap (fun e member => isGap e (List.mem_cons_of_mem _ member)) rest
      exact ⟨d :: gap', ds', rfl, List.forall_mem_cons.mpr ⟨isGap d List.mem_cons_self, isGap'⟩, onward⟩
  | @line line line' cs₀ ds isBreak isBreak' same ih =>
    rcases List.append_eq_append_iff.mp whole with ⟨more, rfl, rest⟩ | ⟨more, rfl, rest⟩
    · -- the line ends reach beyond the gap, where no blank stands
      cases more with
      | nil =>
        have isSpace' : IsGap line' := fun c member => line_end_space c (isBreak'.ends c member)
        exact ⟨line', ds, rfl, isSpace', by rw [rest]; exact same⟩
      | cons c more =>
        have ends := isBreak.ends c (by simp)
        have visible := begins c (by rw [rest]; rfl)
        rw [line_end_space c ends] at visible
        cases visible
    · obtain ⟨gap', ds', rfl, isGap', same⟩ := ih more (fun c member => isGap c (List.mem_append_right _ member)) rest.symm
      refine ⟨line' ++ gap', ds', by rw [List.append_assoc], ?_, same⟩
      exact List.forall_mem_append.mpr ⟨fun c member => line_end_space c (isBreak'.ends c member), isGap'⟩

theorem figure_visible (f : Figure) (formed : f.WellFormed) : ∀ c ∈ f.characters, isLineEnd c = false := by
  intro c member
  have figural := figure_figural f formed c member
  rw [isLineEnd, apart isFigural figural (rfl : isFigural '\n' = false), apart isFigural figural (rfl : isFigural '\r' = false)]
  rfl

theorem word_visible (w : String) (v : Json) (listed : (w, v) ∈ words) : ∀ c ∈ w.toList, isLineEnd c = false := by
  have all : words.all (fun entry => entry.1.toList.all fun c => !isLineEnd c) = true := by rfl
  intro c member
  have visible := List.all_eq_true.mp (List.all_eq_true.mp all (w, v) listed) c member
  rwa [Bool.not_eq_true'] at visible

theorem plain_visible (c : Char) (isPlain : IsPlain c) : isLineEnd c = false := by
  have printed : decide (32 ≤ c.toNat) = true := decide_eq_true isPlain.2.2
  rw [isLineEnd, apart (32 ≤ ·.toNat) printed (rfl : decide (32 ≤ '\n'.toNat) = false),
    apart (32 ≤ ·.toNat) printed (rfl : decide (32 ≤ '\r'.toNat) = false)]
  rfl

theorem contents_visible {high : Option Nat} {taken body result : List Char} (contents : Contents high taken body result) :
    ∀ c ∈ body, isLineEnd c = false := by
  induction contents with
  | nil => nofun
  | plain c isPlain _ ih => exact List.forall_mem_cons.mpr ⟨plain_visible c isPlain, ih⟩
  | escaped c mark means _ ih =>
    have known : (simpleEscape? mark).isSome = true := by rw [means]; rfl
    have visible : isLineEnd mark = false := by
      rw [isLineEnd, apart (simpleEscape? · |>.isSome) known (rfl : (simpleEscape? '\n').isSome = false),
        apart (simpleEscape? · |>.isSome) known (rfl : (simpleEscape? '\r').isSome = false)]
      rfl
    exact List.forall_mem_cons.mpr ⟨rfl, List.forall_mem_cons.mpr ⟨visible, ih⟩⟩
  | unicode h i j k unit means _ ih =>
    have digits := hex4_plain h i j k unit means
    simp only [List.forall_mem_cons] at digits ⊢
    exact ⟨rfl, rfl, plain_visible h digits.1, plain_visible i digits.2.1, plain_visible j digits.2.2.1,
      plain_visible k digits.2.2.2.1, ih⟩

theorem literal_visible {text : List Char} {s : String} (literal : Literal text s) : ∀ c ∈ text, isLineEnd c = false := by
  cases literal with
  | mk contents =>
    exact List.forall_mem_cons.mpr ⟨rfl, List.forall_mem_append.mpr ⟨contents_visible contents, by simp [isLineEnd]⟩⟩

theorem spells_begins {text : List Char} {part : Part} (spells : Spells text part) (rest : List Char) :
    Begins (text ++ rest) := by
  obtain ⟨c, cs, rfl, opens⟩ := spells_opens spells
  exact opened_begins (cs ++ rest) opens

theorem mark_begins (c : Char) (rest : List Char) (visible : isSpace c = false) : Begins (c :: rest) := by
  rintro _ ⟨⟩
  exact visible

-- Induction on the grammar with what follows open. Tokens hold no line ends and stay; only gaps come out differently.
theorem spells_respaced {text : List Char} {part : Part} (spells : Spells text part) (rest ds : List Char)
    (same : Respaced (text ++ rest) ds) : ∃ text' ds', ds = text' ++ ds' ∧ Spells text' part ∧ Respaced rest ds' := by
  induction spells generalizing rest ds with
  | word w v listed =>
    obtain ⟨ds, rfl, onward⟩ := respaced_token _ (word_visible w v listed) same
    exact ⟨_, ds, rfl, .word w v listed, onward⟩
  | number f formed v means =>
    obtain ⟨ds, rfl, onward⟩ := respaced_token _ (figure_visible f formed) same
    exact ⟨_, ds, rfl, .number f formed v means, onward⟩
  | string literal =>
    obtain ⟨ds, rfl, onward⟩ := respaced_token _ (literal_visible literal) same
    exact ⟨_, ds, rfl, .string literal, onward⟩
  | emptyArray gap isGap =>
    rw [List.cons_append, List.append_assoc] at same
    obtain ⟨_, rfl, inside⟩ := respaced_char rfl same
    obtain ⟨gap', _, rfl, isGap', closing⟩ := respaced_gap gap isGap (mark_begins ']' _ rfl) inside
    obtain ⟨ds, rfl, onward⟩ := respaced_char rfl closing
    exact ⟨_, ds, by simp, .emptyArray gap' isGap', onward⟩
  | array gap isGap elements ih =>
    rw [List.cons_append, List.append_assoc] at same
    obtain ⟨_, rfl, inside⟩ := respaced_char rfl same
    obtain ⟨gap', _, rfl, isGap', items⟩ := respaced_gap gap isGap (spells_begins elements rest) inside
    obtain ⟨text', ds, rfl, spelled, onward⟩ := ih rest _ items
    exact ⟨_, ds, by simp, .array gap' isGap' spelled, onward⟩
  | emptyObject gap isGap =>
    rw [List.cons_append, List.append_assoc] at same
    obtain ⟨_, rfl, inside⟩ := respaced_char rfl same
    obtain ⟨gap', _, rfl, isGap', closing⟩ := respaced_gap gap isGap (mark_begins '\x7d' _ rfl) inside
    obtain ⟨ds, rfl, onward⟩ := respaced_char rfl closing
    exact ⟨_, ds, by simp, .emptyObject gap' isGap', onward⟩
  | object gap isGap members ih =>
    rw [List.cons_append, List.append_assoc] at same
    obtain ⟨_, rfl, inside⟩ := respaced_char rfl same
    obtain ⟨gap', _, rfl, isGap', entries⟩ := respaced_gap gap isGap (spells_begins members rest) inside
    obtain ⟨text', ds, rfl, spelled, onward⟩ := ih rest _ entries
    exact ⟨_, ds, by simp, .object gap' isGap' spelled, onward⟩
  | lastElement item gap isGap ih =>
    rw [List.append_assoc, List.append_assoc] at same
    obtain ⟨text', _, rfl, spelled, after⟩ := ih _ _ same
    obtain ⟨gap', _, rfl, isGap', closing⟩ := respaced_gap gap isGap (mark_begins ']' _ rfl) after
    obtain ⟨ds, rfl, onward⟩ := respaced_char rfl closing
    exact ⟨_, ds, by simp, .lastElement spelled gap' isGap', onward⟩
  | nextElement item gap gap' isGap isGap' others ih ihOthers =>
    rw [List.append_assoc, List.append_assoc, List.cons_append, List.append_assoc] at same
    obtain ⟨text', _, rfl, spelled, after⟩ := ih _ _ same
    obtain ⟨last, _, rfl, isLast, comma⟩ := respaced_gap gap isGap (mark_begins ',' _ rfl) after
    obtain ⟨_, rfl, next⟩ := respaced_char rfl comma
    obtain ⟨last', _, rfl, isLast', more⟩ := respaced_gap gap' isGap' (spells_begins others rest) next
    obtain ⟨more', ds, rfl, spelledOthers, onward⟩ := ihOthers _ _ more
    exact ⟨_, ds, by simp, .nextElement spelled last last' isLast isLast' spelledOthers, onward⟩
  | lastMember literal before after gap isBefore isAfter isGap item ih =>
    simp only [List.append_assoc, List.cons_append] at same
    obtain ⟨_, rfl, name⟩ := respaced_token _ (literal_visible literal) same
    obtain ⟨before', _, rfl, isBefore', colon⟩ := respaced_gap before isBefore (mark_begins ':' _ rfl) name
    obtain ⟨_, rfl, next⟩ := respaced_char rfl colon
    obtain ⟨after', _, rfl, isAfter', itself⟩ := respaced_gap after isAfter (spells_begins item _) next
    obtain ⟨text', _, rfl, spelled, behind⟩ := ih _ _ itself
    obtain ⟨gap', _, rfl, isGap', closing⟩ := respaced_gap gap isGap (mark_begins '\x7d' _ rfl) behind
    obtain ⟨ds, rfl, onward⟩ := respaced_char rfl closing
    exact ⟨_, ds, by simp, .lastMember literal before' after' gap' isBefore' isAfter' isGap' spelled, onward⟩
  | nextMember literal before after gap gap' isBefore isAfter isGap isGap' item others ih ihOthers =>
    simp only [List.append_assoc, List.cons_append] at same
    obtain ⟨_, rfl, name⟩ := respaced_token _ (literal_visible literal) same
    obtain ⟨before', _, rfl, isBefore', colon⟩ := respaced_gap before isBefore (mark_begins ':' _ rfl) name
    obtain ⟨_, rfl, next⟩ := respaced_char rfl colon
    obtain ⟨after', _, rfl, isAfter', itself⟩ := respaced_gap after isAfter (spells_begins item _) next
    obtain ⟨text', _, rfl, spelled, behind⟩ := ih _ _ itself
    obtain ⟨last, _, rfl, isLast, comma⟩ := respaced_gap gap isGap (mark_begins ',' _ rfl) behind
    obtain ⟨_, rfl, following⟩ := respaced_char rfl comma
    obtain ⟨last', _, rfl, isLast', more⟩ := respaced_gap gap' isGap' (spells_begins others rest) following
    obtain ⟨more', ds, rfl, spelledOthers, onward⟩ := ihOthers _ _ more
    exact ⟨_, ds, by simp,
      .nextMember literal before' after' last last' isBefore' isAfter' isLast isLast' spelled spelledOthers, onward⟩

theorem respaced_parse {cs ds : List Char} (same : Respaced cs ds) (v : Json) (parsed : parseList cs = .ok v) :
    parseList ds = .ok v := by
  obtain ⟨gap, text, gap', isGap, isGap', spelled, rfl⟩ := (parse_list_iff cs v).mp parsed
  obtain ⟨before, _, rfl, isBefore, inside⟩ := respaced_gap gap isGap (spells_begins spelled gap') same
  obtain ⟨text', _, rfl, spelled', behind⟩ := spells_respaced spelled gap' _ inside
  obtain ⟨after, ds, rfl, isAfter, rest⟩ := respaced_gap gap' isGap' (nofun : Begins []) (by rwa [List.append_nil])
  obtain rfl := respaced_nil rest
  exact (parse_list_iff _ v).mpr ⟨before, text', after, isBefore, isAfter, spelled', by simp⟩

theorem universal_newlines_parse (cs : List Char) (v : Json) :
    parseList (Text.universalNewlines cs) = .ok v ↔ parseList cs = .ok v :=
  ⟨respaced_parse (universal_newlines_respaced cs).symm v, respaced_parse (universal_newlines_respaced cs) v⟩

end DamagePlan.Json
