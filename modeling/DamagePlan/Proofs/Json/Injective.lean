import DamagePlan.Proofs.Json.Printing

/-!
Values told apart by their texts: on one line, no two values have the same text, and a text ends where its value does.
-/
set_option autoImplicit false

namespace DamagePlan.Json

def isClosing (c : Char) : Bool := c == ',' || c == ']' || c == '\x7d'

def Closes (rest : List Char) : Prop := ∀ c ∈ rest.head?, isClosing c = true

/-- No other thing's text goes on like the text of this one. -/
def Delimited {α : Type} (code : α → List Char) (a : α) : Prop :=
  ∀ b rest rest', Closes rest → Closes rest' → code a ++ rest = code b ++ rest' → a = b ∧ rest = rest'

section Lists

variable {α : Type} (code : α → List Char) (gap : List Char) (closing : Char)

def led : List α → List Char → List Char
  | [], rest => closing :: rest
  | a :: items, rest => ',' :: (gap ++ (code a ++ led items rest))

theorem intercalate_led (items : List α) (rest : List Char) : ∀ a,
    (',' :: gap).intercalate ((a :: items).map code) ++ closing :: rest = code a ++ led code gap closing items rest := by
  induction items with
  | nil => intro a; rw [List.map_singleton, List.intercalate_singleton]; rfl
  | cons b items ih =>
    intro a
    have onward := ih b
    rw [List.map_cons] at onward
    rw [List.map_cons, List.map_cons, List.intercalate_cons_cons, List.append_assoc, List.append_assoc, onward]
    rfl

variable (closes : isClosing closing = true) (last : closing ≠ ',')
include closes

theorem led_closes (items : List α) (rest : List Char) : Closes (led code gap closing items rest) := by
  cases items with
  | nil => rintro _ ⟨⟩; exact closes
  | cons a items => rintro _ ⟨⟩; rfl

include last

theorem led_delimited (items : List α) (each : ∀ a ∈ items, Delimited code a) (rest rest' : List Char) : ∀ items',
    led code gap closing items rest = led code gap closing items' rest' → items = items' ∧ rest = rest' := by
  induction items with
  | nil =>
    intro items' same
    cases items' with
    | nil => exact ⟨rfl, (List.cons.inj same).2⟩
    | cons b items' => exact absurd (List.cons.inj same).1 last
  | cons a items ih =>
    intro items' same
    cases items' with
    | nil => exact absurd (List.cons.inj same).1.symm last
    | cons b items' =>
      have texts := List.append_cancel_left (List.cons.inj same).2
      obtain ⟨rfl, others⟩ := each a List.mem_cons_self b _ _ (led_closes code gap closing closes _ _)
        (led_closes code gap closing closes _ _) texts
      obtain ⟨rfl, after⟩ := ih (fun c member => each c (List.mem_cons_of_mem _ member)) items' others
      exact ⟨rfl, after⟩

theorem listed_delimited (opens : ∀ a, ∃ c cs, code a = c :: cs ∧ isClosing c = false) (items : List α)
    (each : ∀ a ∈ items, Delimited code a) (items' : List α) (rest rest' : List Char)
    (same : (',' :: gap).intercalate (items.map code) ++ closing :: rest =
      (',' :: gap).intercalate (items'.map code) ++ closing :: rest') : items = items' ∧ rest = rest' := by
  have opened (a : α) (items : List α) (rest rest' : List Char) :
      closing :: rest ≠ (',' :: gap).intercalate ((a :: items).map code) ++ closing :: rest' := by
    obtain ⟨c, cs, text, noClosing⟩ := opens a
    rw [intercalate_led, text]
    intro same
    rw [← (List.cons.inj same).1, closes] at noClosing
    cases noClosing
  cases items with
  | nil =>
    cases items' with
    | nil => exact ⟨rfl, (List.cons.inj same).2⟩
    | cons b items' => exact absurd same (opened b items' rest rest')
  | cons a items =>
    cases items' with
    | nil => exact absurd same.symm (opened a items rest' rest)
    | cons b items' =>
      rw [intercalate_led, intercalate_led] at same
      obtain ⟨rfl, others⟩ := each a List.mem_cons_self b _ _ (led_closes code gap closing closes _ _)
        (led_closes code gap closing closes _ _) same
      obtain ⟨rfl, after⟩ := led_delimited code gap closing closes last items
        (fun c member => each c (List.mem_cons_of_mem _ member)) rest rest' items' others
      exact ⟨rfl, after⟩

end Lists

def isBare : Json → Bool
  | .null | .bool _ | .int _ | .float _ => true
  | .str _ | .arr _ | .obj _ => false

def isToken (c : Char) : Bool := !isClosing c && c != '"' && c != '[' && c != '\x7b'

theorem token_cut (text text' rest rest' : List Char) (tokens : ∀ c ∈ text, isToken c = true)
    (tokens' : ∀ c ∈ text', isToken c = true) (closes : Closes rest) (closes' : Closes rest')
    (same : text ++ rest = text' ++ rest') : text = text' ∧ rest = rest' := by
  have taken (text rest : List Char) (tokens : ∀ c ∈ text, isToken c = true) (closes : Closes rest) :
      (text ++ rest).takeWhile isToken = text := by
    rw [List.takeWhile_append_of_pos tokens]
    cases rest with
    | nil => simp
    | cons c rest =>
      have closing := closes c rfl
      rw [List.takeWhile_cons_of_neg (by simp [isToken, closing]), List.append_nil]
  have texts : text = text' := by rw [← taken text rest tokens closes, same, taken text' rest' tokens' closes']
  exact ⟨texts, List.append_cancel_left (by rw [texts] at same; exact same)⟩

theorem figural_token (c : Char) (figural : isFigural c = true) : isToken c = true := by
  have apart (d : Char) (no : isFigural d = false) : (c == d) = false := Json.apart isFigural figural no
  simp [isToken, isClosing, bne, apart ',' rfl, apart ']' rfl, apart '\x7d' rfl, apart '"' rfl, apart '[' rfl, apart '\x7b' rfl]

theorem word_tokens (w : String) (v : Json) (listed : (w, v) ∈ words) : ∀ c ∈ w.toList, isToken c = true := by
  simp only [words, List.mem_cons, Prod.mk.injEq, List.not_mem_nil, or_false] at listed
  rcases listed with ⟨rfl, -⟩ | ⟨rfl, -⟩ | ⟨rfl, -⟩ | ⟨rfl, -⟩ | ⟨rfl, -⟩ | ⟨rfl, -⟩ <;> simp [isToken, isClosing]

theorem spelled_tokens {text : List Char} {v : Json} (spelled : Spells text (.value v)) (bare : v.isBare = true) :
    ∀ c ∈ text, isToken c = true := by
  generalize own : Part.value v = part at spelled
  cases spelled with
  | word w _ listed => exact word_tokens w _ listed
  | number f formed => exact fun c member => figural_token c (figure_figural f formed c member)
  | string | emptyArray | array | emptyObject | object =>
    cases own
    cases bare
  | lastElement | nextElement | lastMember | nextMember => cases own

namespace Style

variable (style : Style)

theorem bare_cases (level : Nat) (v : Json) (bare : v.isBare = true) :
    (∃ n, v = .int n) ∨ Spells (style.print level v) (.value v) := by
  cases v with
  | null => exact .inr (.word "null" _ (.head _))
  | bool b =>
    cases b
    · exact .inr (.word "false" _ (.tail _ (.tail _ (.head _))))
    · exact .inr (.word "true" _ (.tail _ (.head _)))
  | int n => exact .inl ⟨n, rfl⟩
  | float x => exact .inr (float_spelled x)
  | str | arr | obj => cases bare

theorem bare_tokens (level : Nat) (v : Json) (bare : v.isBare = true) : ∀ c ∈ style.print level v, isToken c = true := by
  rcases bare_cases style level v bare with ⟨n, rfl⟩ | spelled
  · obtain ⟨f, formed, text, -⟩ := integer_figure n
    rw [print, text]
    exact fun c member => figural_token c (figure_figural f formed c member)
  · exact spelled_tokens spelled bare

theorem integer_text_injective (n m : Int) (same : Decimal.integerText n = Decimal.integerText m) : n = m := by
  have digits (k : Int) (rest : List Char) : Nat.toDigits 10 k.natAbs ≠ '-' :: rest := fun split =>
    absurd (Decimal.to_digits_all k.natAbs '-' (by rw [split]; exact List.mem_cons_self)) (by decide)
  have magnitude (whole : Nat.toDigits 10 n.natAbs = Nat.toDigits 10 m.natAbs) : n.natAbs = m.natAbs := by
    rw [← Decimal.digits_value_to_digits n.natAbs, whole, Decimal.digits_value_to_digits]
  have text := String.ofList_injective same
  rcases Int.lt_or_le n 0 with negative | positive <;> rcases Int.lt_or_le m 0 with negative' | positive'
  · rw [if_pos negative, if_pos negative'] at text
    have same := magnitude (List.append_cancel_left text)
    omega
  · rw [if_pos negative, if_neg (Int.not_lt.mpr positive')] at text
    exact absurd text.symm (digits m _)
  · rw [if_neg (Int.not_lt.mpr positive), if_pos negative'] at text
    exact absurd text (digits n _)
  · rw [if_neg (Int.not_lt.mpr positive), if_neg (Int.not_lt.mpr positive')] at text
    have same := magnitude text
    omega

theorem nothing_ends : Ends [] := by rintro _ ⟨⟩

theorem integer_apart (level : Nat) (n : Int) (v : Json) (bare : v.isBare = true)
    (same : style.print level (.int n) = style.print level v) : .int n = v := by
  rcases bare_cases style level v bare with ⟨m, rfl⟩ | spelled
  · rw [integer_text_injective n m (String.toList_injective same)]
  · obtain ⟨f, formed, text, value⟩ := integer_figure n
    rw [← same, print, text] at spelled
    have read := spells_read spelled (f.characters.length + 1) [] 0 (Nat.le_succ _) fun _ => nothing_ends
    rw [figure_outcome f formed f.characters.length [] 0 nothing_ends, value] at read
    cases count : Decimal.readDigits (Nat.toDigits 10 n.natAbs) <;> rw [count] at read <;> cases read
    rfl

theorem bare_injective (level : Nat) (v w : Json) (bare : v.isBare = true) (bare' : w.isBare = true)
    (same : style.print level v = style.print level w) : v = w := by
  rcases bare_cases style level v bare with ⟨n, rfl⟩ | spelled
  · exact integer_apart style level n w bare' same
  rcases bare_cases style level w bare' with ⟨n, rfl⟩ | spelled'
  · exact (integer_apart style level n v bare same.symm).symm
  rw [same] at spelled
  have read := spells_read spelled _ [] 0 (Nat.le_refl _) fun _ => nothing_ends
  have read' := spells_read spelled' _ [] 0 (Nat.le_refl _) fun _ => nothing_ends
  rw [read] at read'
  exact (Read.mk.inj (Except.ok.inj read')).1

/-- The styles that keep the order of keys and put everything on one line. -/
structure OneLine : Prop where
  unsorted : style.sortKeys = false
  flat : style.indent = none
  items : ∃ gap, style.itemSeparator.toList = ',' :: gap

theorem wrap_flat (flat : style.indent = none) (level : Nat) (opening closing : String) (texts : List (List Char)) :
    style.wrap level opening closing texts = opening.toList ++ style.itemSeparator.toList.intercalate texts ++ closing.toList := by
  rw [wrap]
  split
  · rename_i none_
    rw [List.isEmpty_iff.mp none_, List.intercalate_nil, List.append_nil]
  · rw [flat]

def isOpening (c : Char) : Bool := c == '"' || c == '[' || c == '\x7b'

def opening? : Json → Option Char
  | .str _ => some '"'
  | .arr _ => some '['
  | .obj _ => some '\x7b'
  | .null | .bool _ | .int _ | .float _ => none

theorem opening_none (v : Json) : opening? v = none ↔ v.isBare = true := by
  cases v <;> simp [opening?, isBare]

theorem print_opening (flat : style.indent = none) (level : Nat) (v : Json) (rest : List Char) (closes : Closes rest) :
    (style.print level v ++ rest).head?.filter isOpening = opening? v := by
  have bare (bare : v.isBare = true) : (style.print level v ++ rest).head?.filter isOpening = none := by
    have tokens := bare_tokens style level v bare
    generalize style.print level v = text at tokens
    cases text with
    | nil =>
      cases rest with
      | nil => rfl
      | cons c rest =>
        have closing := closes c rfl
        simp only [isClosing, Bool.or_eq_true, beq_iff_eq] at closing
        rcases closing with (rfl | rfl) | rfl <;> rfl
    | cons c text =>
      have token := tokens c List.mem_cons_self
      simp only [isToken, Bool.and_eq_true, bne_iff_ne] at token
      obtain ⟨⟨⟨-, noQuote⟩, noBracket⟩, noBrace⟩ := token
      simp [isOpening, noQuote, noBracket, noBrace]
  cases v with
  | null | bool _ | int _ | float _ => exact bare rfl
  | str s => rfl
  | arr items =>
    rw [print, wrap_flat style flat]
    rfl
  | obj fields =>
    rw [print, wrap_flat style flat]
    rfl

theorem same_opening (flat : style.indent = none) (level : Nat) (v w : Json) (rest rest' : List Char) (closes : Closes rest)
    (closes' : Closes rest') (same : style.print level v ++ rest = style.print level w ++ rest') : opening? v = opening? w := by
  rw [← print_opening style flat level v rest closes, same, print_opening style flat level w rest' closes']

theorem bare_nonempty (level : Nat) (v : Json) (bare : v.isBare = true) : style.print level v ≠ [] := by
  rcases bare_cases style level v bare with ⟨n, rfl⟩ | spelled
  · obtain ⟨f, formed, text, -⟩ := integer_figure n
    obtain ⟨c, cs, split, -⟩ := figure_opens f formed
    rw [print, text, split]
    exact List.cons_ne_nil c cs
  · obtain ⟨c, cs, split, -⟩ := spells_opens spelled
    rw [split]
    exact List.cons_ne_nil c cs

theorem print_opens (flat : style.indent = none) (level : Nat) (v : Json) :
    ∃ c cs, style.print level v = c :: cs ∧ isClosing c = false := by
  have bare (bare : v.isBare = true) : ∃ c cs, style.print level v = c :: cs ∧ isClosing c = false := by
    obtain ⟨c, cs, split⟩ := List.exists_cons_of_ne_nil (bare_nonempty style level v bare)
    have token := bare_tokens style level v bare c (by rw [split]; exact List.mem_cons_self)
    simp only [isToken, Bool.and_eq_true, Bool.not_eq_true'] at token
    exact ⟨c, cs, split, token.1.1.1⟩
  cases v with
  | null | bool _ | int _ | float _ => exact bare rfl
  | str s => exact ⟨'"', _, rfl, rfl⟩
  | arr items =>
    rw [print, wrap_flat style flat]
    exact ⟨'[', _, rfl, rfl⟩
  | obj fields =>
    rw [print, wrap_flat style flat]
    exact ⟨'\x7b', _, rfl, rfl⟩

theorem literal_delimited (asciiOnly : Bool) (s t : String) (rest rest' : List Char)
    (same : stringLiteral asciiOnly s ++ rest = stringLiteral asciiOnly t ++ rest') : s = t ∧ rest = rest' := by
  have read := read_literal (string_literal_reads asciiOnly s) 0 rest 0
  rw [same, read_literal (string_literal_reads asciiOnly t) 0 rest' 0] at read
  obtain ⟨value, after, -⟩ := Read.mk.inj (Except.ok.inj read)
  exact ⟨(Json.str.inj value).symm, after.symm⟩

theorem member_delimited (level : Nat) (field : String × Json) (delimited : Delimited (style.print level) field.2) :
    Delimited (style.member level) field := by
  obtain ⟨key, v⟩ := field
  intro other rest rest' closes closes' same
  obtain ⟨key', w⟩ := other
  simp only [member, List.append_assoc] at same
  obtain ⟨rfl, after⟩ := literal_delimited style.asciiOnly key key' _ _ same
  obtain ⟨rfl, rest_⟩ := delimited w rest rest' closes closes' (List.append_cancel_left after)
  exact ⟨rfl, rest_⟩

theorem bare_delimited (flat : style.indent = none) (level : Nat) (v : Json) (bare : v.isBare = true) :
    Delimited (style.print level) v := by
  intro w rest rest' closes closes' same
  have opening := same_opening style flat level v w rest rest' closes closes' same
  have bare' : w.isBare = true := (opening_none w).mp (opening.symm.trans ((opening_none v).mpr bare))
  obtain ⟨texts, after⟩ := token_cut _ _ rest rest' (bare_tokens style level v bare) (bare_tokens style level w bare')
    closes closes' same
  exact ⟨bare_injective style level v w bare bare' texts, after⟩

theorem text_delimited (flat : style.indent = none) (level : Nat) (s : String) : Delimited (style.print level) (.str s) := by
  intro w rest rest' closes closes' same
  have opening := same_opening style flat level (.str s) w rest rest' closes closes' same
  cases w with
  | str t =>
    obtain ⟨rfl, after⟩ := literal_delimited style.asciiOnly s t rest rest' same
    exact ⟨rfl, after⟩
  | null | bool | int | float | arr | obj => cases opening

theorem items_delimited (oneLine : style.OneLine) (level : Nat) (items : List Json)
    (each : ∀ v ∈ items, Delimited (style.print (level + 1)) v) : Delimited (style.print level) (.arr items) := by
  obtain ⟨gap, separator⟩ := oneLine.items
  intro w rest rest' closes closes' same
  have opening := same_opening style oneLine.flat level (.arr items) w rest rest' closes closes' same
  cases w with
  | arr items' =>
    simp only [print, wrap_flat style oneLine.flat, print_items_map, separator] at same
    obtain ⟨rfl, after⟩ := listed_delimited (style.print (level + 1)) gap ']' rfl (by decide)
      (print_opens style oneLine.flat (level + 1)) items each items' rest rest' (by simpa using same)
    exact ⟨rfl, after⟩
  | null | bool | int | float | str | obj => cases opening

theorem fields_delimited (oneLine : style.OneLine) (level : Nat) (fields : List (String × Json))
    (each : ∀ field ∈ fields, Delimited (style.print (level + 1)) field.2) : Delimited (style.print level) (.obj fields) := by
  obtain ⟨gap, separator⟩ := oneLine.items
  intro w rest rest' closes closes' same
  have opening := same_opening style oneLine.flat level (.obj fields) w rest rest' closes closes' same
  cases w with
  | obj fields' =>
    simp only [print, wrap_flat style oneLine.flat, order_fields_unsorted style oneLine.unsorted, separator] at same
    obtain ⟨rfl, after⟩ := listed_delimited (style.member (level + 1)) gap '\x7d' rfl (by decide)
      (fun field => ⟨'"', _, rfl, rfl⟩) fields
      (fun field member => member_delimited style (level + 1) field (each field member)) fields' rest rest' (by simpa using same)
    exact ⟨rfl, after⟩
  | null | bool | int | float | str | arr => cases opening

mutual
theorem print_delimited (oneLine : style.OneLine) (level : Nat) (v : Json) : Delimited (style.print level) v := by
  cases v with
  | null | bool _ | int _ | float _ => exact bare_delimited style oneLine.flat level _ rfl
  | str s => exact text_delimited style oneLine.flat level s
  | arr items => exact items_delimited style oneLine level items (print_items_delimited oneLine (level + 1) items)
  | obj fields => exact fields_delimited style oneLine level fields (print_fields_delimited oneLine (level + 1) fields)

theorem print_items_delimited (oneLine : style.OneLine) (level : Nat) (items : List Json) :
    ∀ v ∈ items, Delimited (style.print level) v := by
  cases items with
  | nil => exact List.forall_mem_nil _
  | cons v items => exact List.forall_mem_cons.mpr ⟨print_delimited oneLine level v, print_items_delimited oneLine level items⟩

theorem print_fields_delimited (oneLine : style.OneLine) (level : Nat) (fields : List (String × Json)) :
    ∀ field ∈ fields, Delimited (style.print level) field.2 := by
  cases fields with
  | nil => exact List.forall_mem_nil _
  | cons field fields =>
    obtain ⟨key, v⟩ := field
    exact List.forall_mem_cons.mpr ⟨print_delimited oneLine level v, print_fields_delimited oneLine level fields⟩
end

theorem print_injective (oneLine : style.OneLine) (level : Nat) (v w : Json)
    (same : style.print level v = style.print level w) : v = w :=
  (print_delimited style oneLine level v w [] [] nofun nofun (by rw [same])).1

end Style

def byKey {α : Type} (fields : Fields α) : Fields α := fields.mergeSort fun a b => a.1 ≤ b.1

theorem perm_same_keys {α : Type} (fields : Fields α) (distinct : (fields.map (·.1)).Nodup) : ∀ others : Fields α,
    fields.Perm others → fields.map (·.1) = others.map (·.1) → fields = others := by
  induction fields with
  | nil => exact fun others perm _ => perm.nil_eq
  | cons field fields ih =>
    intro others perm keys
    cases others with
    | nil => exact perm.eq_nil
    | cons other others =>
      obtain ⟨key, onward⟩ := List.cons.inj keys
      have member : other ∈ field :: fields := perm.mem_iff.mpr List.mem_cons_self
      obtain rfl := List.inj_on_of_nodup_map distinct List.mem_cons_self member key
      rw [ih (List.nodup_cons.mp distinct).2 others perm.cons_inv onward]

theorem by_key_iff {α : Type} (fields others : Fields α) (distinct : (fields.map (·.1)).Nodup) :
    byKey fields = byKey others ↔ fields.Perm others := by
  constructor
  · intro same
    exact (List.mergeSort_perm fields _).symm.trans (by rw [← byKey, same]; exact List.mergeSort_perm others _)
  · intro perm
    have ascends (entries : Fields α) : (byKey entries).Pairwise fun a b => decide (a.1 ≤ b.1) = true :=
      List.pairwise_mergeSort (by simp only [decide_eq_true_eq]; exact fun a b c => le_trans)
        (by simp only [Bool.or_eq_true, decide_eq_true_eq]; exact fun a b => le_total a.1 b.1) entries
    refine List.Perm.eq_of_pairwise (fun a b inFields inOthers low high => ?_) (ascends fields) (ascends others)
      ((List.mergeSort_perm fields _).trans (perm.trans (List.mergeSort_perm others _).symm))
    have own : a ∈ fields := (List.mergeSort_perm fields _).mem_iff.mp inFields
    have other : b ∈ fields := perm.mem_iff.mpr ((List.mergeSort_perm others _).mem_iff.mp inOthers)
    exact List.inj_on_of_nodup_map distinct own other (le_antisymm (of_decide_eq_true low) (of_decide_eq_true high))

mutual
def sorted : Json → Json
  | .arr items => .arr (sortedItems items)
  | .obj fields => .obj (byKey (sortedFields fields))
  | .null => .null
  | .bool b => .bool b
  | .int n => .int n
  | .float x => .float x
  | .str s => .str s

def sortedItems : List Json → List Json
  | [] => []
  | v :: items => sorted v :: sortedItems items

def sortedFields : List (String × Json) → List (String × Json)
  | [] => []
  | (key, v) :: fields => (key, sorted v) :: sortedFields fields
end

theorem sorted_fields_map (fields : List (String × Json)) :
    sortedFields fields = fields.map fun field => (field.1, field.2.sorted) := by
  induction fields with
  | nil => rfl
  | cons field fields ih => rw [sortedFields, ih, List.map_cons]

namespace Style

def unsorted (style : Style) : Style := { style with sortKeys := false }

theorem order_fields_sorted (style : Style) (sorts : style.sortKeys = true) (level : Nat) (fields : List (String × Json)) :
    style.orderFields (fields.map fun field => (field.1, style.unsorted.print level field.2)) =
      (byKey fields).map (style.unsorted.member level) := by
  have sorting : (fields.map fun field => (field.1, style.unsorted.print level field.2)).mergeSort (fun a b => a.1 ≤ b.1) =
      (byKey fields).map fun field => (field.1, style.unsorted.print level field.2) := by
    rw [byKey, List.map_mergeSort (s := fun a b => a.1 ≤ b.1)]
    exact fun _ _ _ _ => rfl
  rw [orderFields, sorts, if_pos rfl, sorting, List.map_map]
  rfl

mutual
theorem print_sorted (style : Style) (sorts : style.sortKeys = true) (level : Nat) (v : Json) :
    style.print level v = style.unsorted.print level v.sorted := by
  cases v with
  | null | bool _ | int _ | float _ | str _ => rfl
  | arr items =>
    rw [print, print_items_sorted style sorts (level + 1) items]
    rfl
  | obj fields =>
    rw [print, print_fields_sorted style sorts (level + 1) fields, sorted, print, order_fields_unsorted style.unsorted rfl,
      print_fields_map, order_fields_sorted style sorts]
    rfl

theorem print_items_sorted (style : Style) (sorts : style.sortKeys = true) (level : Nat) (items : List Json) :
    style.printItems level items = style.unsorted.printItems level (sortedItems items) := by
  cases items with
  | nil => rfl
  | cons v items =>
    rw [printItems, print_sorted style sorts level v, print_items_sorted style sorts level items]
    rfl

theorem print_fields_sorted (style : Style) (sorts : style.sortKeys = true) (level : Nat) (fields : List (String × Json)) :
    style.printFields level fields = style.unsorted.printFields level (sortedFields fields) := by
  cases fields with
  | nil => rfl
  | cons field fields =>
    obtain ⟨key, v⟩ := field
    rw [printFields, print_sorted style sorts level v, print_fields_sorted style sorts level fields]
    rfl
end

theorem print_same_iff (style : Style) (sorts : style.sortKeys = true) (oneLine : style.unsorted.OneLine) (level : Nat)
    (v w : Json) : style.print level v = style.print level w ↔ v.sorted = w.sorted := by
  rw [print_sorted style sorts, print_sorted style sorts]
  exact ⟨print_injective style.unsorted oneLine level v.sorted w.sorted, congrArg _⟩

end Style

end DamagePlan.Json
