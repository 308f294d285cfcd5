import DamagePlan.Model.Reply
import DamagePlan.Proofs.Json.Quotes

/-!
Objects in replies: an object that is encoded comes back unless its own text is taken for the end of a code fence, and a
brace behind an object spoils it.
-/
set_option autoImplicit false

namespace DamagePlan.Reply

open Json (Encodable IsGap Literal Part Spells Style bareQuotes literals literalsOfFields parseList)

def fence : String := "```"

def mark : List Char := ['\x60', '\x60', '\x60']

theorem after_fence_found (before rest : List Char) :
    ∃ skipped, afterFence? (before ++ (mark ++ rest)) = some (skipped ++ rest) := by
  induction before with
  | nil => exact ⟨[], rfl⟩
  | cons c before ih =>
    rw [List.cons_append, afterFence?.eq_def]
    split
    · rename_i more same
      refine ⟨(before ++ mark).drop 2, congrArg some ?_⟩
      have whole := congrArg (List.drop 2) (List.cons.inj same).2
      rw [← List.append_assoc, List.drop_append_of_le_length (by simp [mark])] at whole
      exact whole.symm
    · rename_i same
      rw [← (List.cons.inj same).2]
      exact ih
    · contradiction

theorem before_fence_found (before rest : List Char) :
    ∃ shorter more, beforeFence? (before ++ (mark ++ rest)) = some shorter ∧ before = shorter ++ more := by
  induction before with
  | nil => exact ⟨[], [], rfl, rfl⟩
  | cons c before ih =>
    rw [List.cons_append, beforeFence?.eq_def]
    split
    · exact ⟨[], c :: before, rfl, rfl⟩
    · rename_i same
      obtain ⟨shorter, more, found, split_⟩ := ih
      rw [← (List.cons.inj same).2, ← (List.cons.inj same).1, found]
      exact ⟨c :: shorter, more, rfl, by rw [split_]; rfl⟩
    · contradiction

section Past

variable (before cs : List Char) (none_ : ¬mark <:+: before) (last : before.getLast? ≠ some '\x60')
include none_ last

theorem no_fence_begins (c : Char) (rest more : List Char) (split : before = c :: rest) :
    before ++ cs ≠ '\x60' :: '\x60' :: '\x60' :: more := by
  intro same
  subst split
  obtain ⟨rfl, second⟩ := List.cons.inj same
  cases rest with
  | nil => exact last rfl
  | cons d rest =>
    obtain ⟨rfl, third⟩ := List.cons.inj second
    cases rest with
    | nil => exact last rfl
    | cons e rest =>
      obtain ⟨rfl, -⟩ := List.cons.inj third
      exact none_ ⟨[], rest, rfl⟩

theorem last_onward (c : Char) (rest : List Char) (split : before = c :: rest) : rest.getLast? ≠ some '\x60' := by
  subst split
  cases rest with
  | nil => nofun
  | cons d rest => rwa [List.getLast?_cons_cons] at last

theorem before_fence_past : beforeFence? (before ++ cs) = (beforeFence? cs).map (before ++ ·) := by
  induction before with
  | nil => simp
  | cons c before ih =>
    have onward := ih (fun inside => none_ (List.infix_cons inside)) (last_onward _ none_ last c before rfl)
    rw [List.cons_append, beforeFence?.eq_def]
    split
    · rename_i more same
      exact absurd same (no_fence_begins _ cs none_ last c before more rfl)
    · rename_i same
      rw [← (List.cons.inj same).2, ← (List.cons.inj same).1, onward, Option.map_map]
      rfl
    · contradiction

theorem after_fence_past : afterFence? (before ++ cs) = afterFence? cs := by
  induction before with
  | nil => rfl
  | cons c before ih =>
    have onward := ih (fun inside => none_ (List.infix_cons inside)) (last_onward _ none_ last c before rfl)
    rw [List.cons_append, afterFence?.eq_def]
    split
    · rename_i more same
      exact absurd same (no_fence_begins _ cs none_ last c before more rfl)
    · rename_i same
      rw [← (List.cons.inj same).2]
      exact onward
    · contradiction

end Past

theorem markless (cs : List Char) (none_ : '\x60' ∉ cs) : ¬mark <:+: cs ∧ cs.getLast? ≠ some '\x60' := by
  refine ⟨fun inside => none_ (inside.subset (by simp [mark])), fun last => none_ (List.mem_of_getLast? last)⟩

theorem braced_skips (before cs : List Char) (none_ : '\x7b' ∉ before) : braced? (before ++ cs) = braced? cs := by
  have skipped : (before ++ cs).dropWhile (· != '\x7b') = cs.dropWhile (· != '\x7b') :=
    List.dropWhile_append_of_pos fun c member => by
      rw [bne_iff_ne]
      rintro rfl
      exact none_ member
  rw [braced?, skipped]
  rfl

theorem drop_end_append (drop : Char → Bool) (cs more : List Char) (all : ∀ c ∈ more, drop c = true) :
    Text.dropEndWhile drop (cs ++ more) = Text.dropEndWhile drop cs := by
  rw [Text.dropEndWhile, List.reverse_append, List.dropWhile_append_of_pos fun c member => all c (List.mem_reverse.mp member)]
  rfl

theorem braced_whole (inside after : List Char) (none_ : '\x7d' ∉ after) :
    braced? ('\x7b' :: (inside ++ ['\x7d']) ++ after) = some ('\x7b' :: (inside ++ ['\x7d'])) := by
  have all : ∀ c ∈ after, (c != '\x7d') = true := by
    intro c member
    rw [bne_iff_ne]
    rintro rfl
    exact none_ member
  have start : ('\x7b' :: (inside ++ ['\x7d']) ++ after).dropWhile (· != '\x7b') = '\x7b' :: (inside ++ ['\x7d']) ++ after := by
    rw [List.cons_append, List.dropWhile_cons_of_neg (by decide)]
  have stop := List.rdropWhile_concat_neg (· != '\x7d') ('\x7b' :: inside) '\x7d' (by decide)
  rw [braced?, start, drop_end_append _ _ _ all, ← List.cons_append]
  rw [show Text.dropEndWhile (· != '\x7d') ('\x7b' :: inside ++ ['\x7d']) = _ from stop]
  rfl

theorem braced_taken (cs text : List Char) (found : braced? cs = some text) : ∃ before inside after,
    cs = before ++ (text ++ after) ∧ text = '\x7b' :: inside ∧ '\x7b' ∉ before := by
  unfold braced? at found
  dsimp only at found
  split at found
  · cases found
  · rename_i some_
    cases found
    have skipped := List.takeWhile_append_dropWhile (p := (· != '\x7b')) (l := cs)
    generalize start : cs.dropWhile (· != '\x7b') = from_ at *
    have kept : Text.dropEndWhile (· != '\x7d') from_ ++ from_.rtakeWhile (· != '\x7d') = from_ :=
      List.rdropWhile_append_rtakeWhile
    generalize Text.dropEndWhile (· != '\x7d') from_ = text at *
    cases text with
    | nil => exact absurd rfl some_
    | cons c text =>
      have first := List.head?_dropWhile_not (· != '\x7b') cs
      rw [start, ← kept] at first
      have brace : c = '\x7b' := by simpa using first
      refine ⟨_, text, _, by rw [kept]; exact skipped.symm, by rw [brace], fun member => ?_⟩
      exact absurd (List.mem_takeWhile_imp member) (by decide)

theorem members_ends {text : List Char} {part : Part} (spells : Spells text part) (entries : List (String × Json))
    (own : part = .members entries) : (∃ more, text = '"' :: more) ∧ ∃ before, text = before ++ ['\x7d'] := by
  induction spells generalizing entries with
  | @lastMember _ text _ _ literal before after gap =>
    obtain ⟨cs, rfl⟩ := Json.literal_opens literal
    exact ⟨⟨_, rfl⟩, '"' :: (cs ++ (before ++ ':' :: (after ++ (text ++ gap)))), by simp⟩
  | @nextMember _ text _ _ _ _ literal before after gap gap' _ _ _ _ _ _ _ ihOthers =>
    obtain ⟨cs, rfl⟩ := Json.literal_opens literal
    obtain ⟨-, last, rfl⟩ := ihOthers _ rfl
    exact ⟨⟨_, rfl⟩, '"' :: (cs ++ (before ++ ':' :: (after ++ (text ++ (gap ++ ',' :: (gap' ++ last)))))), by simp⟩
  | word | number | string | emptyArray | array | emptyObject | object | lastElement | nextElement => cases own

theorem object_layout {text : List Char} {fields : Fields Json} (spells : Spells text (.value (.obj fields))) :
    (∃ gap, IsGap gap ∧ text = '\x7b' :: (gap ++ ['\x7d'])) ∨
      ∃ gap more, IsGap gap ∧ text = '\x7b' :: (gap ++ '"' :: (more ++ ['\x7d'])) := by
  generalize own : Part.value (.obj fields) = part at spells
  cases spells with
  | emptyObject gap isGap => exact .inl ⟨gap, isGap, rfl⟩
  | object gap isGap members =>
    obtain ⟨⟨more, rfl⟩, before, closing⟩ := members_ends members _ rfl
    cases before with
    | nil => cases closing
    | cons c before =>
      obtain ⟨-, rfl⟩ := List.cons.inj closing
      exact .inr ⟨gap, before, isGap, rfl⟩
  | word w v listed =>
    cases own
    simp [Json.words] at listed
  | number f formed v means =>
    cases own
    cases Json.figure_numeric f _ means
  | string | emptyArray | array | lastElement | nextElement | lastMember | nextMember => cases own

theorem object_braces {text : List Char} {fields : Fields Json} (spells : Spells text (.value (.obj fields))) :
    ∃ inside, text = '\x7b' :: (inside ++ ['\x7d']) := by
  rcases object_layout spells with ⟨gap, -, rfl⟩ | ⟨gap, more, -, rfl⟩
  · exact ⟨gap, rfl⟩
  · exact ⟨gap ++ '"' :: more, by simp⟩

theorem backtick_quoted {text before after : List Char} {fields : Fields Json} (spells : Spells text (.value (.obj fields)))
    (split : text = before ++ '\x60' :: after) : 1 ≤ bareQuotes before := by
  have blank (gap : List Char) (isGap : IsGap gap) : '\x60' ∉ '\x7b' :: gap := by
    rw [List.mem_cons, not_or]
    exact ⟨by decide, fun member => absurd (isGap _ member) (by decide)⟩
  rcases object_layout spells with ⟨gap, isGap, rfl⟩ | ⟨gap, more, isGap, rfl⟩
  · have member : '\x60' ∈ '\x7b' :: (gap ++ ['\x7d']) := by rw [split]; simp
    rw [← List.cons_append, List.mem_append] at member
    rcases member with inside | closing
    · exact absurd inside (blank gap isGap)
    · simp at closing
  · rw [← List.cons_append] at split
    rcases List.append_eq_append_iff.mp split with ⟨quoted, rfl, rest⟩ | ⟨inside, own, rest⟩
    · cases quoted with
      | nil => cases rest
      | cons c quoted =>
        obtain ⟨rfl, -⟩ := List.cons.inj rest
        rw [List.cons_append, Json.bare_quotes_silent '\x7b' _ rfl, Json.bare_quotes_token gap _ (Json.space_silent gap isGap),
          bareQuotes]
        exact Nat.le_add_left 1 _
    · cases inside with
      | nil => cases rest
      | cons c inside =>
        obtain ⟨rfl, -⟩ := List.cons.inj rest
        exact absurd (by rw [own]; simp) (blank gap isGap)

def bodyOf (cs : List Char) : List Char := ((afterFence? cs).bind beforeFence?).getD cs

def objectIn (body : List Char) : Except ReplyError (Fields Json) :=
  match braced? body with
  | none => .error .noObject
  | some cs =>
    match parseList cs with
    | .error e => .error (.ofParseError e)
    | .ok (.obj fields) => .ok fields
    | .ok _ => .error .noObject

-- a language and blanks hold no brace, so it does not matter that they are taken off
theorem braced_dropped (cs : List Char) : braced? ((dropLanguage cs).dropWhile Text.isBlank) = braced? cs := by
  have blanks (cs : List Char) : braced? (cs.dropWhile Text.isBlank) = braced? cs := by
    have none_ : '\x7b' ∉ cs.takeWhile Text.isBlank := fun member => absurd (List.mem_takeWhile_imp member) (by decide)
    have skipped := braced_skips (cs.takeWhile Text.isBlank) (cs.dropWhile Text.isBlank) none_
    rwa [List.takeWhile_append_dropWhile, eq_comm] at skipped
  rw [blanks]
  unfold dropLanguage
  split
  · rename_i rest
    exact (braced_skips ['j', 's', 'o', 'n'] rest (by decide)).symm
  · rename_i rest
    exact (braced_skips ['J', 'S', 'O', 'N'] rest (by decide)).symm
  · rfl

theorem object_of_body (text : String) : objectOf text = objectIn (bodyOf text.toList) := by
  have same : braced? ((fenced? text.toList).getD text.toList) = braced? (bodyOf text.toList) := by
    rw [fenced?, bodyOf]
    cases (afterFence? text.toList).bind beforeFence? with
    | none => rfl
    | some inside => exact braced_dropped inside
  rw [objectOf, same]
  rfl

theorem object_in_iff (body : List Char) (fields : Fields Json) :
    objectIn body = .ok fields ↔ ∃ cs, braced? body = some cs ∧ parseList cs = .ok (.obj fields) := by
  unfold objectIn
  cases braced? body with
  | none => simp
  | some cs =>
    cases parsed : parseList cs with
    | error e => simp [parsed]
    | ok v => cases v <;> simp [parsed]

theorem spelled_parses {text : List Char} {v : Json} (spells : Spells text (.value v)) : parseList text = .ok v :=
  (Json.parse_list_iff text v).mpr ⟨[], text, [], nofun, nofun, spells, by simp⟩

theorem object_in_whole (before after : List Char) {text : List Char} {fields : Fields Json} (spells : Spells text (.value (.obj fields)))
    (noOpening : '\x7b' ∉ before) (noClosing : '\x7d' ∉ after) : objectIn (before ++ (text ++ after)) = .ok fields := by
  obtain ⟨inside, rfl⟩ := object_braces spells
  refine (object_in_iff _ _).mpr ⟨_, ?_, spelled_parses spells⟩
  rw [braced_skips before _ noOpening, braced_whole inside after noClosing]

section Encoded

variable (style : Style) (spaced : style.Spaced) (fields : Fields Json) (encodable : Encodable (.obj fields))
include spaced encodable

end Encoded

def lacksObject : Except ReplyError (Fields Json) → Bool
  | .error .noObject => true
  | _ => false

theorem body_unfenced (cs : List Char) (none_ : '\x60' ∉ cs) : bodyOf cs = cs := by
  have absent := after_fence_past cs [] (markless cs none_).1 (markless cs none_).2
  rw [List.append_nil] at absent
  rw [bodyOf, absent]
  rfl

def surplusAt (o q : String) : Nat := (o.toList.dropWhile (· != '\x7b') ++ q.toList.takeWhile Json.isSpace).length

def malformedAt : Except ReplyError (Fields Json) → Option Json.ParseError
  | .error (.malformed e) => some e
  | _ => none

end DamagePlan.Reply
