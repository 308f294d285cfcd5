import DamagePlan.Proofs.Json.Printing

/-!
Quotes in JSON text: two stand bare for every literal, so that a text is too short for any value with more literals.
-/
set_option autoImplicit false

namespace DamagePlan.Json

open Text (isAsciiDigit)

def bareQuotes : List Char → Nat
  | '\\' :: _ :: rest => bareQuotes rest
  | '"' :: rest => bareQuotes rest + 1
  | _ :: rest => bareQuotes rest
  | [] => 0

mutual
def literals : Json → Nat
  | .str _ => 1
  | .arr items => literalsOfItems items
  | .obj fields => literalsOfFields fields
  | .null | .bool _ | .int _ | .float _ => 0

def literalsOfItems : List Json → Nat
  | [] => 0
  | v :: items => literals v + literalsOfItems items

def literalsOfFields : List (String × Json) → Nat
  | [] => 0
  | (_, v) :: fields => 1 + literals v + literalsOfFields fields
end

def Part.literals : Part → Nat
  | .value v => Json.literals v
  | .elements items => literalsOfItems items
  | .members entries => literalsOfFields entries

def isSilent (c : Char) : Bool := c != '"' && c != '\\'

theorem bare_quotes_silent (c : Char) (rest : List Char) (silent : isSilent c = true) :
    bareQuotes (c :: rest) = bareQuotes rest := by
  simp only [isSilent, Bool.and_eq_true, bne_iff_ne] at silent
  rw [bareQuotes.eq_def]
  split
  · rename_i same
    exact absurd (List.cons.inj same).1 silent.2
  · rename_i same
    exact absurd (List.cons.inj same).1 silent.1
  · rename_i same
    rw [(List.cons.inj same).2]
  · rename_i same
    cases same

theorem bare_quotes_token (token rest : List Char) (silent : ∀ c ∈ token, isSilent c = true) :
    bareQuotes (token ++ rest) = bareQuotes rest := by
  induction token with
  | nil => rfl
  | cons c token ih =>
    rw [List.cons_append, bare_quotes_silent c _ (silent c List.mem_cons_self)]
    exact ih fun d member => silent d (List.mem_cons_of_mem _ member)

theorem bare_quotes_append (cs : List Char) (c : Char) (rest : List Char) (silent : isSilent c = true) :
    bareQuotes (cs ++ c :: rest) = bareQuotes cs + bareQuotes rest := by
  fun_induction bareQuotes cs with
  | case1 d cs ih => rw [List.cons_append, List.cons_append, bareQuotes, ih]
  | case2 cs ih => rw [List.cons_append, bareQuotes, ih, Nat.add_right_comm]
  | case3 d cs noEscape noQuote ih =>
    by_cases backslash : d = '\\'
    · -- a backslash at the end covers the character
      cases cs with
      | nil => rw [backslash, List.cons_append, List.nil_append, bareQuotes]; simp [bareQuotes]
      | cons e cs => exact (noEscape e cs backslash rfl).elim
    · have silent' : isSilent d = true := by
        simp only [isSilent, Bool.and_eq_true, bne_iff_ne]
        exact ⟨noQuote, backslash⟩
      rw [List.cons_append, bare_quotes_silent d _ silent', ih]
  | case4 => rw [List.nil_append, bare_quotes_silent c rest silent]; simp

theorem plain_silent (c : Char) (isPlain : IsPlain c) : isSilent c = true := by
  simp [isSilent, isPlain.1, isPlain.2.1]

theorem space_silent (gap : List Char) (isGap : IsGap gap) : ∀ c ∈ gap, isSilent c = true := by
  intro c member
  have space := isGap c member
  simp only [isSpace, Bool.or_eq_true, beq_iff_eq] at space
  rcases space with ((rfl | rfl) | rfl) | rfl <;> rfl

theorem contents_quotes {high : Option Nat} {taken body result : List Char} (contents : Contents high taken body result)
    (rest : List Char) : bareQuotes (body ++ rest) = bareQuotes rest := by
  induction contents with
  | nil => rfl
  | plain c isPlain _ ih => rw [List.cons_append, bare_quotes_silent c _ (plain_silent c isPlain), ih]
  | escaped c mark means _ ih => rw [List.cons_append, List.cons_append, bareQuotes, ih]
  | unicode h i j k unit means _ ih =>
    have digits := hex4_plain h i j k unit means
    simp only [List.forall_mem_cons] at digits
    simp only [List.cons_append, bareQuotes, bare_quotes_silent _ _ (plain_silent _ digits.1),
      bare_quotes_silent _ _ (plain_silent _ digits.2.1), bare_quotes_silent _ _ (plain_silent _ digits.2.2.1),
      bare_quotes_silent _ _ (plain_silent _ digits.2.2.2.1), ih]

theorem literal_quotes {text : List Char} {s : String} (literal : Literal text s) (rest : List Char) :
    bareQuotes (text ++ rest) = bareQuotes rest + 2 := by
  cases literal with
  | mk contents =>
    rw [List.cons_append, bareQuotes, List.append_assoc, contents_quotes contents, List.cons_append, bareQuotes]
    rfl

theorem figure_silent (f : Figure) (formed : f.WellFormed) : ∀ c ∈ f.characters, isSilent c = true := by
  intro c member
  have figural := figure_figural f formed c member
  rw [isSilent, bne, bne, apart isFigural figural (rfl : isFigural '"' = false),
    apart isFigural figural (rfl : isFigural '\\' = false)]
  rfl

theorem word_silent (w : String) (v : Json) (listed : (w, v) ∈ words) : ∀ c ∈ w.toList, isSilent c = true := by
  have all : words.all (fun entry => entry.1.toList.all isSilent) = true := by rfl
  exact List.all_eq_true.mp (List.all_eq_true.mp all (w, v) listed)

theorem word_literals (w : String) (v : Json) (listed : (w, v) ∈ words) : v.literals = 0 := by
  simp only [words, List.mem_cons, Prod.mk.injEq, List.not_mem_nil, or_false] at listed
  rcases listed with ⟨-, rfl⟩ | ⟨-, rfl⟩ | ⟨-, rfl⟩ | ⟨-, rfl⟩ | ⟨-, rfl⟩ | ⟨-, rfl⟩ <;> rfl

theorem numeric_literals (v : Json) (numeric : v.isNumeric = true) : v.literals = 0 := by
  cases v with
  | int n => rfl
  | float x => rfl
  | null | bool | str | arr | obj => cases numeric

theorem insert_literals (fields : Fields Json) (key : String) (v : Json) :
    literalsOfFields (Fields.insert key v fields) ≤ literalsOfFields fields + (1 + v.literals) := by
  induction fields with
  | nil => simp [Fields.insert, literalsOfFields]
  | cons first rest ih =>
    obtain ⟨k, w⟩ := first
    unfold Fields.insert
    split <;> simp only [literalsOfFields] <;> omega

theorem literals_append (fields more : List (String × Json)) :
    literalsOfFields (fields ++ more) = literalsOfFields fields + literalsOfFields more := by
  induction fields with
  | nil => simp [literalsOfFields]
  | cons field fields ih => simp only [List.cons_append, literalsOfFields, ih]; omega

theorem of_list_literals (entries : List (String × Json)) : literalsOfFields (Fields.ofList entries) ≤ literalsOfFields entries := by
  induction entries using List.reverseRecOn with
  | nil => exact Nat.le_refl _
  | append_singleton entries entry ih =>
    obtain ⟨k, v⟩ := entry
    have inserted := insert_literals (Fields.ofList entries) k v
    have step : Fields.ofList (entries ++ [(k, v)]) = Fields.insert k v (Fields.ofList entries) := by
      rw [Fields.ofList, List.foldl_append]
      rfl
    rw [step, literals_append]
    simp only [literalsOfFields]
    omega

theorem spells_quotes {text : List Char} {part : Part} (spells : Spells text part) (rest : List Char) :
    2 * part.literals + bareQuotes rest ≤ bareQuotes (text ++ rest) := by
  have gaps (gap more : List Char) (isGap : IsGap gap) : bareQuotes (gap ++ more) = bareQuotes more :=
    bare_quotes_token gap more (space_silent gap isGap)
  have mark (c : Char) (more : List Char) (silent : isSilent c = true) : bareQuotes (c :: more) = bareQuotes more :=
    bare_quotes_silent c more silent
  induction spells generalizing rest with
  | word w v listed =>
    rw [bare_quotes_token _ _ (word_silent w v listed), Part.literals, word_literals w v listed]
    omega
  | number f formed v means =>
    rw [bare_quotes_token _ _ (figure_silent f formed), Part.literals, numeric_literals v (figure_numeric f v means)]
    omega
  | string literal =>
    rw [literal_quotes literal, Part.literals, literals]
    omega
  | emptyArray gap isGap =>
    rw [List.cons_append, List.append_assoc, mark '[' _ rfl, gaps gap _ isGap, List.cons_append, mark ']' _ rfl]
    simp [Part.literals, literals, literalsOfItems]
  | array gap isGap elements ih =>
    rw [List.cons_append, List.append_assoc, mark '[' _ rfl, gaps gap _ isGap]
    exact ih rest
  | emptyObject gap isGap =>
    rw [List.cons_append, List.append_assoc, mark '\x7b' _ rfl, gaps gap _ isGap, List.cons_append, mark '\x7d' _ rfl]
    simp [Part.literals, literals, literalsOfFields]
  | @object gap isGap text entries members ih =>
    rw [List.cons_append, List.append_assoc, mark '\x7b' _ rfl, gaps gap _ isGap]
    have inside := ih rest
    have fewer := of_list_literals entries
    simp only [Part.literals, literals] at inside ⊢
    omega
  | lastElement item gap isGap ih =>
    have inside := ih (gap ++ ']' :: rest)
    rw [gaps gap _ isGap, mark ']' _ rfl] at inside
    simp only [Part.literals, literalsOfItems, List.append_assoc, List.cons_append, List.nil_append] at inside ⊢
    omega
  | @nextElement text more v items item gap gap' isGap isGap' others ih ihOthers =>
    have inside := ih (gap ++ ',' :: (gap' ++ (more ++ rest)))
    have onward := ihOthers rest
    rw [gaps gap _ isGap, mark ',' _ rfl, gaps gap' _ isGap'] at inside
    simp only [Part.literals, literalsOfItems, List.append_assoc, List.cons_append] at inside onward ⊢
    omega
  | lastMember literal before after gap isBefore isAfter isGap item ih =>
    have inside := ih (gap ++ '\x7d' :: rest)
    rw [gaps gap _ isGap, mark '\x7d' _ rfl] at inside
    simp only [List.append_assoc, List.cons_append, List.nil_append]
    rw [literal_quotes literal, gaps before _ isBefore, mark ':' _ rfl, gaps after _ isAfter]
    simp only [Part.literals, literalsOfFields] at inside ⊢
    omega
  | @nextMember name text more key v entries literal before after gap gap' isBefore isAfter isGap isGap' item others ih ihOthers =>
    have inside := ih (gap ++ ',' :: (gap' ++ (more ++ rest)))
    have onward := ihOthers rest
    rw [gaps gap _ isGap, mark ',' _ rfl, gaps gap' _ isGap'] at inside
    simp only [List.append_assoc, List.cons_append]
    rw [literal_quotes literal, gaps before _ isBefore, mark ':' _ rfl, gaps after _ isAfter]
    simp only [Part.literals, literalsOfFields] at inside onward ⊢
    omega

theorem float_text_silent (x : Float) : ∀ c ∈ (floatText x).toList, isSilent c = true := by
  unfold floatText
  cases decoded : Decimal.Binary.ofFloat x with
  | nan => exact word_silent "NaN" _ (.tail _ (.tail _ (.tail _ (.head _))))
  | infinite negative =>
    cases negative
    · exact word_silent "Infinity" _ (.tail _ (.tail _ (.tail _ (.tail _ (.head _)))))
    · exact word_silent "-Infinity" _ (.tail _ (.tail _ (.tail _ (.tail _ (.tail _ (.head _))))))
  | finite negative m e =>
    obtain ⟨f, formed, text, -⟩ := finite_figure x negative m e decoded
    dsimp only
    rw [text]
    exact figure_silent f formed

def Counts (text : List Char) (count : Nat) : Prop := ∀ rest, bareQuotes (text ++ rest) = 2 * count + bareQuotes rest

theorem silent_counts (text : List Char) (silent : ∀ c ∈ text, isSilent c = true) : Counts text 0 := by
  intro rest
  rw [bare_quotes_token text rest silent]
  omega

theorem literal_counts (asciiOnly : Bool) (s : String) : Counts (stringLiteral asciiOnly s) 1 := by
  intro rest
  rw [literal_quotes (string_literal_reads asciiOnly s)]
  omega

theorem separated_counts {α : Type} (between : List Char) (isBetween : IsGap between) (text : α → List Char) (count : α → Nat)
    (items : List α) (each : ∀ a ∈ items, Counts (text a) (count a)) :
    Counts ((',' :: between).intercalate (items.map text)) (items.map count).sum := by
  induction items with
  | nil => exact silent_counts [] nofun
  | cons a items ih =>
    intro rest
    have first := each a List.mem_cons_self
    have others := ih (fun b member => each b (List.mem_cons_of_mem _ member)) rest
    rw [List.map_cons (f := count), List.sum_cons]
    cases items with
    | nil =>
      rw [List.map_singleton, List.intercalate_singleton, first rest]
      rfl
    | cons b items =>
      rw [List.map_cons, List.map_cons, List.intercalate_cons_cons, List.append_assoc, List.append_assoc, first,
        List.cons_append, bare_quotes_silent ',' _ rfl, bare_quotes_token between _ (space_silent between isBetween),
        ← List.map_cons, others]
      omega

theorem literals_of_items (items : List Json) : literalsOfItems items = (items.map literals).sum := by
  induction items with
  | nil => rfl
  | cons v items ih => rw [literalsOfItems, ih, List.map_cons, List.sum_cons]

theorem literals_of_fields (fields : List (String × Json)) :
    literalsOfFields fields = (fields.map fun field => 1 + field.2.literals).sum := by
  induction fields with
  | nil => rfl
  | cons field fields ih => rw [literalsOfFields, ih, List.map_cons, List.sum_cons]

namespace Style

variable (style : Style) (spaced : style.Spaced) (level : Nat)
include spaced

theorem member_counts (field : String × Json) (own : Counts (style.print level field.2) field.2.literals) :
    Counts (style.member level field) (1 + field.2.literals) := by
  obtain ⟨gap, isGap, separator⟩ := spaced.keys
  intro rest
  rw [member, separator, List.append_assoc, List.append_assoc, literal_counts, List.cons_append, bare_quotes_silent ':' _ rfl,
    bare_quotes_token gap _ (space_silent gap isGap), own]
  omega

theorem wrapped_counts (opening closing : String) (opens : ∀ c ∈ opening.toList, isSilent c = true)
    (closes : ∀ c ∈ closing.toList, isSilent c = true) (texts : List (List Char)) (count : Nat)
    (inside : ∀ between, IsGap between → Counts ((',' :: between).intercalate texts) count) :
    Counts (style.wrap level opening closing texts) count := by
  intro rest
  by_cases empty : texts = []
  · have none_ := inside [] nofun rest
    rw [empty, List.intercalate_nil, List.nil_append] at none_
    rw [wrap, if_pos (by simpa using empty), List.append_assoc, bare_quotes_token _ _ opens, bare_quotes_token _ _ closes]
    exact none_
  · obtain ⟨before, between, after, isBefore, isBetween, isAfter, layout⟩ :=
      wrap_layout style spaced level opening closing texts empty
    rw [layout]
    simp only [List.append_assoc]
    rw [bare_quotes_token _ _ opens, bare_quotes_token before _ (space_silent before isBefore), inside between isBetween,
      bare_quotes_token after _ (space_silent after isAfter), bare_quotes_token _ _ closes]

theorem print_counts {v : Json} (encodable : Encodable v) : ∀ level, Counts (style.print level v) v.literals := by
  induction encodable with
  | null => exact fun _ => silent_counts _ (word_silent "null" _ (.head _))
  | bool b =>
    intro _
    cases b
    · exact silent_counts _ (word_silent "false" _ (.tail _ (.tail _ (.head _))))
    · exact silent_counts _ (word_silent "true" _ (.tail _ (.head _)))
  | int n short =>
    intro _
    obtain ⟨f, formed, text, -⟩ := integer_figure n
    rw [print, text]
    exact silent_counts _ (figure_silent f formed)
  | float x => exact fun _ => silent_counts _ (float_text_silent x)
  | str s => exact fun _ => literal_counts style.asciiOnly s
  | arr items _ ih =>
    intro level
    rw [print, print_items_map, literals, literals_of_items]
    exact wrapped_counts style spaced level "[" "]" (by simp [isSilent]) (by simp [isSilent]) _ _ fun between isBetween =>
      separated_counts between isBetween _ _ items fun v member => ih v member (level + 1)
  | obj fields distinct _ ih =>
    intro level
    rw [print, order_fields_unsorted style spaced.unsorted, literals, literals_of_fields]
    exact wrapped_counts style spaced level "\x7b" "\x7d" (by simp [isSilent]) (by simp [isSilent]) _ _ fun between isBetween =>
      separated_counts between isBetween _ _ fields fun field member =>
        member_counts style spaced (level + 1) field (ih field member (level + 1))

end Style

end DamagePlan.Json
