import DamagePlan.Proofs.Json.Number
import DamagePlan.Proofs.Json.StringLiteral
import DamagePlan.Proofs.Steps

/-!
The grammar of JSON text. A text is read as a value exactly if the grammar derives it for that value.
-/
set_option autoImplicit false

namespace DamagePlan.Json

open Text (isAsciiDigit)

inductive Part where
  | value (v : Json)
  | elements (items : List Json)
  | members (entries : List (String × Json))

def IsGap (cs : List Char) : Prop := ∀ c ∈ cs, isSpace c = true

inductive Spells : List Char → Part → Prop
  | word (w : String) (v : Json) (listed : (w, v) ∈ words) : Spells w.toList (.value v)
  | number (f : Figure) (formed : f.WellFormed) (v : Json) (means : f.value = .ok v) : Spells f.characters (.value v)
  | string {text : List Char} {s : String} (literal : Literal text s) : Spells text (.value (.str s))
  | emptyArray (gap : List Char) (isGap : IsGap gap) : Spells ('[' :: (gap ++ [']'])) (.value (.arr []))
  | array (gap : List Char) (isGap : IsGap gap) {text : List Char} {items : List Json} (elements : Spells text (.elements items)) :
      Spells ('[' :: (gap ++ text)) (.value (.arr items))
  | emptyObject (gap : List Char) (isGap : IsGap gap) : Spells ('\x7b' :: (gap ++ ['\x7d'])) (.value (.obj []))
  | object (gap : List Char) (isGap : IsGap gap) {text : List Char} {entries : List (String × Json)}
      (members : Spells text (.members entries)) : Spells ('\x7b' :: (gap ++ text)) (.value (.obj (Fields.ofList entries)))
  | lastElement {text : List Char} {v : Json} (item : Spells text (.value v)) (gap : List Char) (isGap : IsGap gap) :
      Spells (text ++ (gap ++ [']'])) (.elements [v])
  | nextElement {text more : List Char} {v : Json} {items : List Json} (item : Spells text (.value v))
      (gap gap' : List Char) (isGap : IsGap gap) (isGap' : IsGap gap') (others : Spells more (.elements items)) :
      Spells (text ++ (gap ++ ',' :: (gap' ++ more))) (.elements (v :: items))
  | lastMember {name text : List Char} {key : String} {v : Json} (literal : Literal name key)
      (before after gap : List Char) (isBefore : IsGap before) (isAfter : IsGap after) (isGap : IsGap gap)
      (item : Spells text (.value v)) :
      Spells (name ++ (before ++ ':' :: (after ++ (text ++ (gap ++ ['\x7d']))))) (.members [(key, v)])
  | nextMember {name text more : List Char} {key : String} {v : Json} {entries : List (String × Json)}
      (literal : Literal name key) (before after gap gap' : List Char) (isBefore : IsGap before) (isAfter : IsGap after)
      (isGap : IsGap gap) (isGap' : IsGap gap') (item : Spells text (.value v)) (others : Spells more (.members entries)) :
      Spells (name ++ (before ++ ':' :: (after ++ (text ++ (gap ++ ',' :: (gap' ++ more)))))) (.members ((key, v) :: entries))

def Begins (cs : List Char) : Prop := ∀ c ∈ cs.head?, isSpace c = false

theorem skip_space_gap (gap rest : List Char) (isGap : IsGap gap) (begins : Begins rest) : ∀ pos,
    skipSpace (gap ++ rest) pos = (rest, pos + gap.length) := by
  induction gap with
  | nil =>
    intro pos
    cases rest with
    | nil => rfl
    | cons c rest =>
      have noSpace := begins c rfl
      simp [skipSpace, noSpace]
  | cons c gap ih =>
    intro pos
    have space := isGap c List.mem_cons_self
    rw [List.cons_append, skipSpace, if_pos space, ih (fun d member => isGap d (List.mem_cons_of_mem _ member)),
      List.length_cons, Nat.add_assoc, Nat.add_comm 1]

theorem skip_space_split (cs : List Char) : ∀ pos,
    skipSpace cs pos = (cs.dropWhile isSpace, pos + (cs.takeWhile isSpace).length) := by
  induction cs with
  | nil => exact fun pos => rfl
  | cons c cs ih =>
    intro pos
    by_cases space : isSpace c = true
    · rw [skipSpace, if_pos space, ih, List.dropWhile_cons_of_pos space, List.takeWhile_cons_of_pos space, List.length_cons,
        Nat.add_assoc, Nat.add_comm 1]
    · rw [skipSpace, if_neg space, List.dropWhile_cons_of_neg space, List.takeWhile_cons_of_neg space]
      rfl

theorem taken_gap (cs : List Char) : IsGap (cs.takeWhile isSpace) := fun _ member => List.mem_takeWhile_imp member

def mayOpen (c : Char) : Bool := !isSpace c && c != ']' && c != '\x7d' && c != '\ufeff'

theorem digit_opens (c : Char) (digit : isAsciiDigit c = true) : mayOpen c = true := by
  simp [mayOpen, isSpace, bne, apart isAsciiDigit digit (rfl : isAsciiDigit ' ' = false),
    apart isAsciiDigit digit (rfl : isAsciiDigit '\t' = false), apart isAsciiDigit digit (rfl : isAsciiDigit '\n' = false),
    apart isAsciiDigit digit (rfl : isAsciiDigit '\r' = false), apart isAsciiDigit digit (rfl : isAsciiDigit ']' = false),
    apart isAsciiDigit digit (rfl : isAsciiDigit '\x7d' = false), apart isAsciiDigit digit (rfl : isAsciiDigit '\ufeff' = false)]

theorem figure_opens (f : Figure) (formed : f.WellFormed) : ∃ c cs, f.characters = c :: cs ∧ mayOpen c = true ∧
    (c = '-' ∧ f.negative = true ∧ cs = f.unsigned ∨ isAsciiDigit c = true) := by
  obtain ⟨negative, whole, fraction, power⟩ := f
  cases negative with
  | true => exact ⟨'-', _, rfl, rfl, .inl ⟨rfl, rfl, rfl⟩⟩
  | false =>
    cases whole with
    | nil => exact absurd rfl formed.nonempty
    | cons d ds =>
      have digit := formed.whole d List.mem_cons_self
      exact ⟨d, _, rfl, digit_opens d digit, .inr digit⟩

theorem literal_opens {text : List Char} {s : String} (literal : Literal text s) : ∃ cs, text = '"' :: cs := by
  cases literal with
  | mk contents => exact ⟨_, rfl⟩

theorem spells_opens {text : List Char} {part : Part} (spells : Spells text part) :
    ∃ c cs, text = c :: cs ∧ mayOpen c = true := by
  induction spells with
  | word w v listed =>
    simp only [words, List.mem_cons, Prod.mk.injEq, List.not_mem_nil, or_false] at listed
    rcases listed with ⟨rfl, -⟩ | ⟨rfl, -⟩ | ⟨rfl, -⟩ | ⟨rfl, -⟩ | ⟨rfl, -⟩ | ⟨rfl, -⟩ <;> exact ⟨_, _, rfl, rfl⟩
  | number f formed v means =>
    obtain ⟨c, cs, split, opens, -⟩ := figure_opens f formed
    exact ⟨c, cs, split, opens⟩
  | string literal =>
    obtain ⟨cs, rfl⟩ := literal_opens literal
    exact ⟨_, _, rfl, rfl⟩
  | emptyArray | array | emptyObject | object => exact ⟨_, _, rfl, rfl⟩
  | lastElement item gap isGap ih =>
    obtain ⟨c, cs, rfl, opens⟩ := ih
    exact ⟨c, _, rfl, opens⟩
  | nextElement item gap gap' isGap isGap' others ih =>
    obtain ⟨c, cs, rfl, opens⟩ := ih
    exact ⟨c, _, rfl, opens⟩
  | lastMember literal | nextMember literal =>
    obtain ⟨cs, rfl⟩ := literal_opens literal
    exact ⟨_, _, rfl, rfl⟩

def isNumeric : Json → Bool
  | .int _ | .float _ => true
  | _ => false

theorem figure_numeric (f : Figure) (v : Json) (means : f.value = .ok v) : v.isNumeric = true := by
  unfold Figure.value at means
  split at means
  · cases whole : Decimal.readDigits f.whole <;> rw [whole] at means <;> cases means
    rfl
  · cases means
    rfl

def Part.ReadFrom (text : List Char) : Part → Prop
  | .value v => ∀ depth rest pos, text.length ≤ depth → (v.isNumeric = true → Ends rest) →
      Json.value depth (text ++ rest) pos = .ok ⟨v, rest, pos + text.length⟩
  | .elements items => ∀ depth before rest pos, text.length ≤ depth →
      Json.elements depth before (text ++ rest) pos = .ok ⟨.arr (before.reverse ++ items), rest, pos + text.length⟩
  | .members entries => ∀ depth before rest pos, text.length ≤ depth →
      Json.members depth before (text ++ rest) pos =
        .ok ⟨.obj (Fields.ofList (before.reverse ++ entries)), rest, pos + text.length⟩

theorem gap_ends (gap rest : List Char) (isGap : IsGap gap) (ends : Ends rest) : Ends (gap ++ rest) := by
  cases gap with
  | nil => exact ends
  | cons d gap =>
    have space := isGap d List.mem_cons_self
    simp only [isSpace, Bool.or_eq_true, beq_iff_eq] at space
    intro e first
    obtain rfl : d = e := Option.some.inj first
    rcases space with ((rfl | rfl) | rfl) | rfl <;> decide

theorem mark_ends (c : Char) (rest : List Char) (stops : isAsciiDigit c = false ∧ c ≠ '.' ∧ (c == 'e' || c == 'E') = false) :
    Ends (c :: rest) := by
  rintro _ ⟨⟩
  exact stops

theorem read_word (w : String) (v : Json) (listed : (w, v) ∈ words) (depth : Nat) (rest : List Char) (pos : Nat) :
    value (depth + 1) (w.toList ++ rest) pos = .ok ⟨v, rest, pos + w.toList.length⟩ := by
  simp only [words, List.mem_cons, Prod.mk.injEq, List.not_mem_nil, or_false] at listed
  rcases listed with ⟨rfl, rfl⟩ | ⟨rfl, rfl⟩ | ⟨rfl, rfl⟩ | ⟨rfl, rfl⟩ | ⟨rfl, rfl⟩ | ⟨rfl, rfl⟩ <;> rfl

theorem figure_no_word (f : Figure) (formed : f.WellFormed) (rest : List Char) :
    ∀ entry ∈ words, dropPrefix? entry.1.toList (f.characters ++ rest) = none := by
  -- the words begin with no digit, and the one with a minus goes on with none
  have unsigned (d : Char) (ds : List Char) (no : isAsciiDigit d = false) :
      dropPrefix? (d :: ds) (f.unsigned ++ rest) = none := by
    cases whole : f.whole with
    | nil => exact absurd whole formed.nonempty
    | cons c cs =>
      have digit := formed.whole c (by rw [whole]; exact List.mem_cons_self)
      rw [Figure.unsigned, whole, List.cons_append, List.cons_append, dropPrefix?, Bool.beq_comm, apart isAsciiDigit digit no]
      rfl
  have letter (d : Char) (ds : List Char) (no : isAsciiDigit d = false) (noMinus : (d == '-') = false) :
      dropPrefix? (d :: ds) (f.characters ++ rest) = none := by
    obtain ⟨c, cs, split, -, ⟨rfl, -, -⟩ | digit⟩ := figure_opens f formed
    · rw [split, List.cons_append, dropPrefix?, noMinus]
      rfl
    · rw [split, List.cons_append, dropPrefix?, Bool.beq_comm, apart isAsciiDigit digit no]
      rfl
  have minus (ds : List Char) (d : Char) (no : isAsciiDigit d = false) :
      dropPrefix? ('-' :: d :: ds) (f.characters ++ rest) = none := by
    obtain ⟨c, cs, split, -, ⟨rfl, -, rfl⟩ | digit⟩ := figure_opens f formed
    · rw [split, List.cons_append, dropPrefix?]
      exact unsigned d ds no
    · rw [split, List.cons_append, dropPrefix?, Bool.beq_comm, apart isAsciiDigit digit (rfl : isAsciiDigit '-' = false)]
      rfl
  simp only [words, List.forall_mem_cons]
  exact ⟨letter 'n' _ rfl rfl, letter 't' _ rfl rfl, letter 'f' _ rfl rfl, letter 'N' _ rfl rfl, letter 'I' _ rfl rfl,
    minus _ 'I' rfl, List.forall_mem_nil _⟩

attribute [local simp] value elements members

theorem figure_outcome (f : Figure) (formed : f.WellFormed) (depth : Nat) (rest : List Char) (pos : Nat) (ends : Ends rest) :
    value (depth + 1) (f.characters ++ rest) pos =
      match f.value with
      | .ok v => .ok ⟨v, rest, pos + f.characters.length⟩
      | .error e => fail (.integerTooLong e) pos := by
  have noWord : words.findSome? (fun entry => (dropPrefix? entry.1.toList (f.characters ++ rest)).map fun rest =>
      (⟨entry.2, rest, pos + entry.1.length⟩ : Read Json)) = none :=
    List.findSome?_eq_none_iff.mpr fun entry member => by rw [figure_no_word f formed rest entry member]; rfl
  have number := figure_read f formed rest ends
  have size : (f.characters ++ rest).length - rest.length = f.characters.length := by rw [List.length_append]; omega
  obtain ⟨c, cs, split, -, first⟩ := figure_opens f formed
  have other : (c == '"') = false ∧ (c == '[') = false ∧ (c == '\x7b') = false := by
    rcases first with ⟨rfl, -⟩ | digit
    · decide
    · exact ⟨apart isAsciiDigit digit rfl, apart isAsciiDigit digit rfl, apart isAsciiDigit digit rfl⟩
  have scalar_ : value (depth + 1) (f.characters ++ rest) pos = scalar (f.characters ++ rest) pos := by
    rw [split, List.cons_append, value, other.1, other.2.1, other.2.2]
    rfl
  rw [scalar_]
  cases means : f.value <;> simp only [scalar, noWord, number, means, size]

theorem read_figure (f : Figure) (formed : f.WellFormed) (v : Json) (means : f.value = .ok v) (depth : Nat)
    (rest : List Char) (pos : Nat) (ends : Ends rest) :
    value (depth + 1) (f.characters ++ rest) pos = .ok ⟨v, rest, pos + f.characters.length⟩ := by
  rw [figure_outcome f formed depth rest pos ends, means]

theorem read_literal {text : List Char} {s : String} (literal : Literal text s) (depth : Nat) (rest : List Char) (pos : Nat) :
    value (depth + 1) (text ++ rest) pos = .ok ⟨.str s, rest, pos + text.length⟩ := by
  cases literal with
  | @mk body result contents =>
    have read := contents_read contents pos rest (pos + 1)
    rw [List.cons_append, List.append_assoc, value, if_pos (beq_self_eq_true _)]
    simp only [List.cons_append, List.nil_append, read, Except.map, List.length_cons, List.length_append, List.length_nil]
    congr 2
    omega

theorem opened_begins {c : Char} (cs : List Char) (opens : mayOpen c = true) : Begins (c :: cs) := by
  intro d first
  cases first
  simp only [mayOpen, Bool.and_eq_true, Bool.not_eq_true'] at opens
  exact opens.1.1.1

section Brackets

variable (depth : Nat) (gap rest : List Char) (isGap : IsGap gap) (pos : Nat)
include isGap

theorem read_empty_array : value (depth + 1) ('[' :: (gap ++ ']' :: rest)) pos = .ok ⟨.arr [], rest, pos + 1 + gap.length + 1⟩ := by
  have skipped := skip_space_gap gap (']' :: rest) isGap (by intro c first; cases first; rfl) (pos + 1)
  rw [value, if_neg (by decide), if_pos (beq_self_eq_true _), skipped]
  rfl

theorem read_empty_object :
    value (depth + 1) ('\x7b' :: (gap ++ '\x7d' :: rest)) pos = .ok ⟨.obj [], rest, pos + 1 + gap.length + 1⟩ := by
  have skipped := skip_space_gap gap ('\x7d' :: rest) isGap (by intro c first; cases first; rfl) (pos + 1)
  rw [value, if_neg (by decide), if_neg (by decide), if_pos (beq_self_eq_true _), skipped]
  rfl

variable {c : Char} (cs : List Char) (opens : mayOpen c = true)
include opens

theorem read_array :
    value (depth + 1) ('[' :: (gap ++ c :: cs)) pos = elements depth [] (c :: cs) (pos + 1 + gap.length) := by
  have skipped := skip_space_gap gap (c :: cs) isGap (opened_begins cs opens) (pos + 1)
  rw [value, if_neg (by decide), if_pos (beq_self_eq_true _), skipped]
  split
  · rename_i same
    cases same
    cases opens
  · rename_i same
    cases same
    rfl

theorem read_object :
    value (depth + 1) ('\x7b' :: (gap ++ c :: cs)) pos = members depth [] (c :: cs) (pos + 1 + gap.length) := by
  have skipped := skip_space_gap gap (c :: cs) isGap (opened_begins cs opens) (pos + 1)
  rw [value, if_neg (by decide), if_neg (by decide), if_pos (beq_self_eq_true _), skipped]
  split
  · rename_i same
    cases same
    cases opens
  · rename_i same
    cases same
    rfl

end Brackets

theorem skip_space_mark (gap rest : List Char) (isGap : IsGap gap) (mark : Char) (visible : isSpace mark = false) (pos : Nat) :
    skipSpace (gap ++ mark :: rest) pos = (mark :: rest, pos + gap.length) :=
  skip_space_gap gap (mark :: rest) isGap (by rintro _ ⟨⟩; exact visible) pos

section Elements

variable {depth pos : Nat} {cs : List Char} (before : List Json) {item : Read Json} (read : value depth cs pos = .ok item)
  (gap rest : List Char) (isGap : IsGap gap)
include read isGap

theorem read_last_element (after : item.rest = gap ++ ']' :: rest) :
    elements (depth + 1) before cs pos = .ok ⟨.arr (item.value :: before).reverse, rest, item.offset + gap.length + 1⟩ := by
  rw [elements, read]
  simp only [after, skip_space_mark gap rest isGap ']' rfl]

theorem read_next_element (gap' : List Char) (isGap' : IsGap gap') {c : Char} (opens : mayOpen c = true)
    (after : item.rest = gap ++ ',' :: (gap' ++ c :: rest)) :
    elements (depth + 1) before cs pos =
      elements depth (item.value :: before) (c :: rest) (item.offset + gap.length + 1 + gap'.length) := by
  rw [elements, read]
  simp only [after, skip_space_mark gap _ isGap ',' rfl, skip_space_gap gap' _ isGap' (opened_begins rest opens)]

end Elements

section Members

variable {depth pos : Nat} {body result : List Char} (contents : Contents none [] body result)
  (entries : List (String × Json)) (before after : List Char) (isBefore : IsGap before) (isAfter : IsGap after)
  {c : Char} (cs : List Char) (opens : mayOpen c = true)
include contents isBefore isAfter opens

theorem read_wrong_member {e : ParseError}
    (wrong : value depth (c :: cs) (pos + 1 + body.length + 1 + before.length + 1 + after.length) = .error e) :
    members (depth + 1) entries ('"' :: (body ++ '"' :: (before ++ ':' :: (after ++ c :: cs)))) pos = .error e := by
  rw [members]
  simp only [contents_read contents, skip_space_mark before _ isBefore ':' rfl,
    skip_space_gap after _ isAfter (opened_begins cs opens), wrong]

variable {item : Read Json}
  (read : value depth (c :: cs) (pos + 1 + body.length + 1 + before.length + 1 + after.length) = .ok item)
  (gap rest : List Char) (isGap : IsGap gap)
include read isGap

theorem read_last_member (closes : item.rest = gap ++ '\x7d' :: rest) :
    members (depth + 1) entries ('"' :: (body ++ '"' :: (before ++ ':' :: (after ++ c :: cs)))) pos =
      .ok ⟨.obj (Fields.ofList ((String.ofList result.reverse, item.value) :: entries).reverse), rest,
        item.offset + gap.length + 1⟩ := by
  rw [members]
  simp only [contents_read contents, skip_space_mark before _ isBefore ':' rfl,
    skip_space_gap after _ isAfter (opened_begins cs opens), read, closes, skip_space_mark gap rest isGap '\x7d' rfl]

theorem read_next_member (gap' : List Char) (isGap' : IsGap gap') {d : Char} (opens' : mayOpen d = true)
    (goes : item.rest = gap ++ ',' :: (gap' ++ d :: rest)) :
    members (depth + 1) entries ('"' :: (body ++ '"' :: (before ++ ':' :: (after ++ c :: cs)))) pos =
      members depth ((String.ofList result.reverse, item.value) :: entries) (d :: rest)
        (item.offset + gap.length + 1 + gap'.length) := by
  rw [members]
  simp only [contents_read contents, skip_space_mark before _ isBefore ':' rfl,
    skip_space_gap after _ isAfter (opened_begins cs opens), read, goes, skip_space_mark gap _ isGap ',' rfl,
    skip_space_gap gap' _ isGap' (opened_begins rest opens')]

end Members

theorem spells_deep {text : List Char} {part : Part} (spells : Spells text part) {depth : Nat} (enough : text.length ≤ depth) :
    ∃ d, depth = d + 1 := by
  obtain ⟨c, cs, rfl, -⟩ := spells_opens spells
  exact Nat.exists_eq_succ_of_ne_zero (by rw [List.length_cons] at enough; omega)

-- Induction on the grammar with the depth, the offset and what follows open. A part inside of another is shorter, so the
-- depth is enough for it, and the mark behind it ends any number.
theorem spells_read {text : List Char} {part : Part} (spells : Spells text part) : part.ReadFrom text := by
  induction spells with
  | word w v listed =>
    intro depth rest pos enough _
    obtain ⟨depth, rfl⟩ := spells_deep (.word w v listed) enough
    exact read_word w v listed depth rest pos
  | number f formed v means =>
    intro depth rest pos enough ends
    obtain ⟨depth, rfl⟩ := spells_deep (.number f formed v means) enough
    exact read_figure f formed v means depth rest pos (ends (figure_numeric f v means))
  | string literal =>
    intro depth rest pos enough _
    obtain ⟨depth, rfl⟩ := spells_deep (.string literal) enough
    exact read_literal literal depth rest pos
  | emptyArray gap isGap =>
    intro depth rest pos enough _
    obtain ⟨depth, rfl⟩ := spells_deep (.emptyArray gap isGap) enough
    rw [List.cons_append, List.append_assoc, List.cons_append, List.nil_append, read_empty_array depth gap rest isGap pos]
    simp only [List.length_cons, List.length_append, List.length_nil]
    congr 2
    omega
  | array gap isGap elements ih =>
    intro depth rest pos enough _
    obtain ⟨depth, rfl⟩ := spells_deep (.array gap isGap elements) enough
    obtain ⟨c, cs, rfl, opens⟩ := spells_opens elements
    have read := ih depth [] rest (pos + 1 + gap.length) (by simp at enough ⊢; omega)
    rw [List.cons_append, List.append_assoc, List.cons_append, read_array depth gap isGap pos _ opens]
    rw [List.cons_append] at read
    rw [read]
    simp only [List.length_cons, List.length_append, List.reverse_nil, List.nil_append]
    congr 2
    omega
  | emptyObject gap isGap =>
    intro depth rest pos enough _
    obtain ⟨depth, rfl⟩ := spells_deep (.emptyObject gap isGap) enough
    rw [List.cons_append, List.append_assoc, List.cons_append, List.nil_append, read_empty_object depth gap rest isGap pos]
    simp only [List.length_cons, List.length_append, List.length_nil]
    congr 2
    omega
  | object gap isGap members ih =>
    intro depth rest pos enough _
    obtain ⟨depth, rfl⟩ := spells_deep (.object gap isGap members) enough
    obtain ⟨c, cs, rfl, opens⟩ := spells_opens members
    have read := ih depth [] rest (pos + 1 + gap.length) (by simp at enough ⊢; omega)
    rw [List.cons_append, List.append_assoc, List.cons_append, read_object depth gap isGap pos _ opens]
    rw [List.cons_append] at read
    rw [read]
    simp only [List.length_cons, List.length_append, List.reverse_nil, List.nil_append]
    congr 2
    omega
  | lastElement item gap isGap ih =>
    intro depth before rest pos enough
    obtain ⟨depth, rfl⟩ := spells_deep (.lastElement item gap isGap) enough
    have read := ih depth (gap ++ ']' :: rest) pos (by simp at enough; omega) fun _ => gap_ends gap _ isGap (mark_ends ']' _ (by decide))
    have closed := read_last_element before read gap rest isGap rfl
    simp only [List.append_assoc, List.cons_append, List.nil_append, List.length_append, List.length_cons, List.length_nil,
      List.reverse_cons] at closed ⊢
    rw [closed]
    congr 2
    omega
  | @nextElement text more v items item gap gap' isGap isGap' others ih ihOthers =>
    intro depth before rest pos enough
    obtain ⟨depth, rfl⟩ := spells_deep (.nextElement item gap gap' isGap isGap' others) enough
    obtain ⟨c, cs, rfl, opens⟩ := spells_opens others
    have read := ih depth (gap ++ ',' :: (gap' ++ c :: (cs ++ rest))) pos (by simp at enough; omega)
      fun _ => gap_ends gap _ isGap (mark_ends ',' _ (by decide))
    have goes := read_next_element before read gap (cs ++ rest) isGap gap' isGap' opens rfl
    have onward := ihOthers depth (v :: before) rest (pos + text.length + gap.length + 1 + gap'.length)
      (by simp at enough ⊢; omega)
    simp only [List.append_assoc, List.cons_append, List.nil_append, List.length_append, List.length_cons,
      List.reverse_cons] at goes onward ⊢
    rw [goes, onward]
    congr 2
    omega
  | @lastMember name text key v literal before after gap isBefore isAfter isGap item ih =>
    intro depth entries rest pos enough
    obtain ⟨depth, rfl⟩ := spells_deep (.lastMember literal before after gap isBefore isAfter isGap item) enough
    obtain ⟨c, cs, rfl, opens⟩ := spells_opens item
    cases literal with
    | @mk body result contents =>
      have read := ih depth (gap ++ '\x7d' :: rest) (pos + 1 + body.length + 1 + before.length + 1 + after.length)
        (by simp at enough ⊢; omega) fun _ => gap_ends gap _ isGap (mark_ends '\x7d' _ (by decide))
      have closed := read_last_member contents entries before after isBefore isAfter (cs ++ (gap ++ '\x7d' :: rest)) opens read gap
        rest isGap rfl
      simp only [List.append_assoc, List.cons_append, List.nil_append, List.length_append, List.length_cons, List.length_nil,
        List.reverse_cons] at closed ⊢
      rw [closed]
      congr 2
      omega
  | @nextMember name text more key v others literal before after gap gap' isBefore isAfter isGap isGap' item members ih ihMembers =>
    intro depth entries rest pos enough
    obtain ⟨depth, rfl⟩ :=
      spells_deep (.nextMember literal before after gap gap' isBefore isAfter isGap isGap' item members) enough
    obtain ⟨c, cs, rfl, opens⟩ := spells_opens item
    obtain ⟨d, ds, rfl, opens'⟩ := spells_opens members
    cases literal with
    | @mk body result contents =>
      have read := ih depth (gap ++ ',' :: (gap' ++ d :: (ds ++ rest)))
        (pos + 1 + body.length + 1 + before.length + 1 + after.length)
        (by simp at enough ⊢; omega) fun _ => gap_ends gap _ isGap (mark_ends ',' _ (by decide))
      have goes := read_next_member contents entries before after isBefore isAfter
        (cs ++ (gap ++ ',' :: (gap' ++ d :: (ds ++ rest)))) opens read gap (ds ++ rest) isGap gap' isGap' opens' rfl
      have onward := ihMembers depth ((String.ofList result.reverse, v) :: entries) rest
        (pos + 1 + body.length + 1 + before.length + 1 + after.length + (c :: cs).length + gap.length + 1 + gap'.length)
        (by simp at enough ⊢; omega)
      simp only [List.append_assoc, List.cons_append, List.nil_append, List.length_append, List.length_cons,
        List.reverse_cons] at goes onward ⊢
      rw [goes, onward]
      congr 2
      omega

theorem literal_taken (start : Nat) (cs : List Char) (pos : Nat) (r : Read String)
    (read : stringRest start none [] cs pos = .ok r) : ∃ text, '"' :: cs = text ++ r.rest ∧ Literal text r.value := by
  obtain ⟨body, result, split, contents, means⟩ := contents_taken start none [] cs pos r read
  rw [means]
  exact ⟨'"' :: (body ++ ['"']), by simp [split], .mk contents⟩

theorem drop_word_taken (w cs rest : List Char) (dropped : dropPrefix? w cs = some rest) : cs = w ++ rest := by
  induction w generalizing cs with
  | nil => exact Option.some.inj dropped
  | cons c w ih =>
    cases cs with
    | nil => cases dropped
    | cons d cs =>
      rw [dropPrefix?] at dropped
      split at dropped
      · rename_i same
        rw [eq_of_beq same, ih cs dropped, List.cons_append]
      · cases dropped

theorem scalar_taken (cs : List Char) (pos : Nat) (r : Read Json) (read : scalar cs pos = .ok r) :
    ∃ text, cs = text ++ r.rest ∧ Spells text (.value r.value) := by
  unfold scalar at read
  dsimp only at read
  split at read
  · rename_i word
    cases read
    obtain ⟨⟨w, v⟩, listed, found⟩ := List.exists_of_findSome?_eq_some word
    obtain ⟨rest, dropped, rfl⟩ := Option.map_eq_some_iff.mp found
    exact ⟨w.toList, drop_word_taken _ _ _ dropped, .word w v listed⟩
  · split at read
    · rename_i v rest number
      cases read
      obtain ⟨f, formed, taken, means⟩ := number_is_figure cs rest _ number
      exact ⟨f.characters, taken, .number f formed v means.symm⟩
    · cases read
    · cases read

theorem skipped_gap {cs rest : List Char} {pos at_ : Nat} (skipped : skipSpace cs pos = (rest, at_)) :
    ∃ gap, IsGap gap ∧ cs = gap ++ rest := by
  rw [skip_space_split] at skipped
  obtain ⟨rfl, -⟩ := Prod.mk.inj skipped
  exact ⟨_, taken_gap cs, List.takeWhile_append_dropWhile.symm⟩

-- Along the recursion of the parser: each way to read something is a rule of the grammar for what was taken.
mutual
theorem value_taken (depth : Nat) (cs : List Char) (pos : Nat) (r : Read Json) (read : value depth cs pos = .ok r) :
    ∃ text, cs = text ++ r.rest ∧ Spells text (.value r.value) := by
  cases depth with
  | zero => cases read
  | succ depth =>
    cases cs with
    | nil => cases read
    | cons c cs =>
      rw [value] at read
      split at read
      · rename_i quote
        obtain ⟨s, literal, same⟩ := map_ok _ _ _ read
        cases same
        obtain ⟨text, taken, spelled⟩ := literal_taken _ _ _ s literal
        rw [eq_of_beq quote]
        exact ⟨text, taken, .string spelled⟩
      split at read
      · rename_i bracket
        rw [eq_of_beq bracket]
        split at read
        · rename_i skipped
          obtain ⟨gap, isGap, split⟩ := skipped_gap skipped
          cases read
          exact ⟨'[' :: (gap ++ [']']), by simp [split], .emptyArray gap isGap⟩
        · rename_i skipped
          obtain ⟨gap, isGap, split⟩ := skipped_gap skipped
          obtain ⟨text, items, taken, elements, means⟩ := elements_taken depth [] _ _ r read
          rw [means]
          exact ⟨'[' :: (gap ++ text), by simp [split, taken], .array gap isGap elements⟩
      split at read
      · rename_i brace
        rw [eq_of_beq brace]
        split at read
        · rename_i skipped
          obtain ⟨gap, isGap, split⟩ := skipped_gap skipped
          cases read
          exact ⟨'\x7b' :: (gap ++ ['\x7d']), by simp [split], .emptyObject gap isGap⟩
        · rename_i skipped
          obtain ⟨gap, isGap, split⟩ := skipped_gap skipped
          obtain ⟨text, entries, taken, members, means⟩ := members_taken depth [] _ _ r read
          rw [means]
          exact ⟨'\x7b' :: (gap ++ text), by simp [split, taken], .object gap isGap members⟩
      · exact scalar_taken (c :: cs) pos r read

theorem elements_taken (depth : Nat) (before : List Json) (cs : List Char) (pos : Nat) (r : Read Json)
    (read : elements depth before cs pos = .ok r) :
    ∃ text items, cs = text ++ r.rest ∧ Spells text (.elements items) ∧ r.value = .arr (before.reverse ++ items) := by
  cases depth with
  | zero => cases read
  | succ depth =>
    rw [elements] at read
    split at read
    · cases read
    rename_i item first
    obtain ⟨text, taken, spelled⟩ := value_taken depth cs pos item first
    split at read
    · rename_i skipped
      obtain ⟨gap, isGap, split⟩ := skipped_gap skipped
      cases read
      exact ⟨text ++ (gap ++ [']']), [item.value], by simp [taken, split], .lastElement spelled gap isGap, by simp⟩
    · rename_i rest at_ skipped
      obtain ⟨gap, isGap, split⟩ := skipped_gap skipped
      obtain ⟨gap', isGap', split'⟩ := skipped_gap (Prod.eta (skipSpace rest (at_ + 1))).symm
      obtain ⟨more, items, takenMore, others, means⟩ := elements_taken depth (item.value :: before) _ _ r read
      refine ⟨text ++ (gap ++ ',' :: (gap' ++ more)), item.value :: items, ?_,
        .nextElement spelled gap gap' isGap isGap' others, ?_⟩
      · rw [taken, split, split', takenMore]
        simp
      · rw [means]
        simp
    · cases read

theorem members_taken (depth : Nat) (before : List (String × Json)) (cs : List Char) (pos : Nat) (r : Read Json)
    (read : members depth before cs pos = .ok r) :
    ∃ text entries, cs = text ++ r.rest ∧ Spells text (.members entries) ∧
      r.value = .obj (Fields.ofList (before.reverse ++ entries)) := by
  cases depth with
  | zero => cases read
  | succ depth =>
    unfold members at read
    split at read
    · rename_i cs
      split at read
      · cases read
      rename_i key literal
      obtain ⟨name, takenKey, spelledKey⟩ := literal_taken _ _ _ key literal
      split at read
      · rename_i rest at_ skipped
        obtain ⟨gap, isGap, split⟩ := skipped_gap skipped
        split at read
        rename_i start next skippedStart
        obtain ⟨gap', isGap', split'⟩ := skipped_gap skippedStart
        split at read
        · cases read
        rename_i item given
        obtain ⟨text, taken, spelled⟩ := value_taken _ _ _ item given
        split at read
        · rename_i skippedEnd
          obtain ⟨last, isLast, splitEnd⟩ := skipped_gap skippedEnd
          cases read
          refine ⟨_, [(key.value, item.value)], ?_, .lastMember spelledKey gap gap' last isGap isGap' isLast spelled, ?_⟩
          · rw [takenKey, split, split', taken, splitEnd]
            simp
          · simp
        · rename_i rest at_ skippedEnd
          obtain ⟨last, isLast, splitEnd⟩ := skipped_gap skippedEnd
          obtain ⟨last', isLast', splitEnd'⟩ := skipped_gap (Prod.eta (skipSpace rest (at_ + 1))).symm
          obtain ⟨more, entries, takenMore, others, means⟩ :=
            members_taken depth ((key.value, item.value) :: before) _ _ r read
          refine ⟨_, (key.value, item.value) :: entries, ?_,
            .nextMember spelledKey gap gap' last last' isGap isGap' isLast isLast' spelled others, ?_⟩
          · rw [takenKey, split, split', taken, splitEnd, splitEnd', takenMore]
            simp
          · rw [means]
            simp
        · cases read
      · cases read
    · cases read
end

theorem parse_list_read (gap text rest : List Char) (v : Json) (isGap : IsGap gap) (spelled : Spells text (.value v))
    (ends : v.isNumeric = true → Ends rest) : parseList (gap ++ (text ++ rest)) =
      if rest.dropWhile isSpace = [] then .ok v
      else .error ⟨.extraData, (gap ++ (text ++ rest.takeWhile isSpace)).length⟩ := by
  obtain ⟨c, cs, rfl, opens⟩ := spells_opens spelled
  have read := spells_read spelled (2 * (gap ++ (c :: cs ++ rest)).length + 2) rest (0 + gap.length) (by simp; omega) ends
  have start := skip_space_gap gap (c :: cs ++ rest) isGap (opened_begins (cs ++ rest) opens) 0
  unfold parseList
  split
  · rename_i more mark
    cases gap with
    | nil =>
      rw [(List.cons.inj mark).1] at opens
      cases opens
    | cons d gap =>
      have space := isGap d List.mem_cons_self
      rw [(List.cons.inj mark).1] at space
      cases space
  · rw [start]
    dsimp only
    rw [read]
    dsimp only
    rw [skip_space_split]
    cases behind : rest.dropWhile isSpace with
    | nil => rfl
    | cons d more =>
      simp only [List.length_append, Nat.zero_add, Nat.add_assoc]
      rfl

theorem parse_list_iff (cs : List Char) (v : Json) : parseList cs = .ok v ↔
    ∃ gap text gap', IsGap gap ∧ IsGap gap' ∧ Spells text (.value v) ∧ cs = gap ++ (text ++ gap') := by
  constructor
  · intro parsed
    unfold parseList at parsed
    split at parsed
    · cases parsed
    · obtain ⟨gap, isGap, split⟩ := skipped_gap (Prod.eta (skipSpace cs 0)).symm
      dsimp only at parsed
      cases read : value (2 * cs.length + 2) (skipSpace cs 0).1 (skipSpace cs 0).2 with
      | error e => rw [read] at parsed; cases parsed
      | ok r =>
        rw [read] at parsed
        obtain ⟨text, taken, spelled⟩ := value_taken _ _ _ r read
        dsimp only at parsed
        split at parsed
        · rename_i skipped
          obtain ⟨gap', isGap', split'⟩ := skipped_gap skipped
          cases parsed
          refine ⟨gap, text, gap', isGap, isGap', spelled, ?_⟩
          rw [split, taken, split', List.append_nil]
        · cases parsed
  · rintro ⟨gap, text, gap', isGap, isGap', spelled, rfl⟩
    have ends : Ends gap' := by simpa using gap_ends gap' [] isGap' nofun
    have blank : gap'.dropWhile isSpace = [] := List.dropWhile_eq_nil_iff.mpr isGap'
    rw [parse_list_read gap text gap' v isGap spelled fun _ => ends, if_pos blank]

end DamagePlan.Json
