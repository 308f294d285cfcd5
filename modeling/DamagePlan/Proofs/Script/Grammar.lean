import DamagePlan.Proofs.Script.Phrase

/-!
How phrases are made of smaller phrases, one law for each form of the grammar.
-/
set_option autoImplicit false

namespace DamagePlan.Script

def UnaryOp.symbol : UnaryOp → Symbol
  | .negate => .minus
  | .plus => .plus
  | .not => .bang

def BinaryOp.symbol : BinaryOp → Symbol
  | .or => .or
  | .and => .and
  | .equal => .equal
  | .notEqual => .notEqual
  | .less => .less
  | .lessEqual => .lessEqual
  | .greater => .greater
  | .greaterEqual => .greaterEqual
  | .add => .plus
  | .subtract => .minus
  | .multiply => .star
  | .divide => .slash
  | .remainder => .percent

namespace Parser

def IsClosing (s : Symbol) : Prop := s = .closeParen ∨ s = .closeBracket ∨ s = .closeBrace

theorem unary_at_closing_fails (d : Nat) (s : Symbol) (pos : Nat) (rest : List Token) (closing : IsClosing s) :
    ∃ e, unaryAt d (⟨.symbol s, pos⟩ :: rest) = .error e := by
  rw [unary_at_eq]
  rcases closing with rfl | rfl | rfl <;> exact ⟨_, rfl⟩

theorem expr_at_closing_fails (d : Nat) (s : Symbol) (pos : Nat) (rest : List Token) (closing : IsClosing s) :
    ∃ e, exprAt d (⟨.symbol s, pos⟩ :: rest) = .error e := by
  cases d with
  | zero => exact ⟨_, rfl⟩
  | succ d =>
    obtain ⟨e, fails⟩ := unary_at_closing_fails d s pos rest closing
    have plain : symbol? .arrow (⟨.symbol s, pos⟩ :: rest) = none := by
      rcases closing with rfl | rfl | rfl <;> rfl
    exact ⟨e, by simp [expr_at_succ, exprOver, plain, binary, binaryLevels, chain, fails]⟩

theorem no_closing (d : Nat) (s : Symbol) (tokens rest : List Token) (e : Expr) (closing : IsClosing s)
    (read : exprAt d tokens = .ok (e, rest)) : symbol? s tokens = none := by
  apply symbol_none
  intro same
  cases tokens with
  | nil => cases same
  | cons token more =>
    obtain ⟨l, pos⟩ := token
    obtain rfl : l = .symbol s := same
    obtain ⟨fault, fails⟩ := expr_at_closing_fails d s pos more closing
    rw [fails] at read
    cases read

def led (lss : List (List Lexeme)) : List Lexeme := lss.flatMap (.symbol .comma :: ·)

def separated : List (List Lexeme) → List Lexeme
  | [] => []
  | ls :: more => ls ++ led more

namespace Phrase

variable {ls ms ks : List Lexeme} {e f g : Expr} {q r s : Int} {n m k : Nat}

theorem of_primary (whole : List Lexeme) (reads : ∀ d tokens rest, n ≤ d → Carries tokens whole →
    primary (exprAt d) (tokens ++ rest) = .ok (e, rest)) : Phrase whole e 9 n := by
  apply of_extends
  intro d tokens rest deep carried
  exact ⟨rest.length + 1, Nat.lt_succ_self _, by simp [postfixed, reads d tokens rest deep carried]⟩

theorem number (x : Float) : Phrase [.number x] (.number x) 9 0 := by
  apply of_primary
  intro d tokens rest _ carried
  obtain ⟨pos, rfl⟩ := carries_singleton tokens _ carried
  rfl

theorem string (t : String) : Phrase [.string t] (.string t) 9 0 := by
  apply of_primary
  intro d tokens rest _ carried
  obtain ⟨pos, rfl⟩ := carries_singleton tokens _ carried
  rfl

theorem word (id : String) : Phrase [.ident id] (ofWord id) 9 0 := by
  apply of_primary
  intro d tokens rest _ carried
  obtain ⟨pos, rfl⟩ := carries_singleton tokens _ carried
  rfl

theorem paren (phrase : Phrase ls e q n) :
    Phrase (.symbol .openParen :: ls ++ [.symbol .closeParen]) e 9 (n + 1) := by
  apply of_primary
  intro d tokens rest deep carried
  obtain ⟨pos, more, rfl, bracketed⟩ := carries_cons tokens _ _ carried
  obtain ⟨inside, closing, rfl, within, closed⟩ := carries_append more _ _ bracketed
  obtain ⟨pos', rfl⟩ := carries_singleton closing _ closed
  have read := phrase.nested d inside (⟨.symbol .closeParen, pos'⟩ :: rest) deep within (by simp [pull])
  simp [primary, read, Except.map]

theorem member (part : String) (tight : 8 ≤ q) (phrase : Phrase ls e q n) :
    Phrase (ls ++ [.symbol .dot, .ident part]) (.member e part) 9 n := by
  apply of_extends
  intro d tokens rest deep carried
  obtain ⟨front, back, rfl, first, tail⟩ := carries_append tokens _ _ carried
  obtain ⟨pos, name, rfl, named⟩ := carries_cons back _ _ tail
  obtain ⟨pos', rfl⟩ := carries_singleton name _ named
  obtain ⟨rounds, enough, read⟩ :=
    phrase.extends_ tight d front (⟨.symbol .dot, pos⟩ :: ⟨.ident part, pos'⟩ :: rest) deep first
  obtain ⟨rounds, rfl⟩ : ∃ i, rounds = i + 1 := ⟨rounds - 1, by simp at enough; omega⟩
  refine ⟨rounds, by simp at enough; omega, ?_⟩
  simp only [List.append_assoc, List.cons_append, List.nil_append, read]
  rfl

theorem index (tight : 8 ≤ q) (obj : Phrase ls e q n) (key : Phrase ms f r m) :
    Phrase (ls ++ .symbol .openBracket :: ms ++ [.symbol .closeBracket]) (.index e f) 9 (max n (m + 1)) := by
  apply of_extends
  intro d tokens rest deep carried
  rw [List.append_assoc] at carried
  obtain ⟨front, back, rfl, first, tail⟩ := carries_append tokens _ _ carried
  obtain ⟨pos, bracketed, rfl, keyed⟩ := carries_cons back _ _ tail
  obtain ⟨inside, closing, rfl, within, closed⟩ := carries_append bracketed _ _ keyed
  obtain ⟨pos', rfl⟩ := carries_singleton closing _ closed
  have read := key.nested d inside (⟨.symbol .closeBracket, pos'⟩ :: rest) (by omega) within (by simp [pull])
  obtain ⟨rounds, enough, start⟩ := obj.extends_ tight d front
    (⟨.symbol .openBracket, pos⟩ :: (inside ++ ⟨.symbol .closeBracket, pos'⟩ :: rest)) (by omega) first
  obtain ⟨rounds, rfl⟩ : ∃ i, rounds = i + 1 := ⟨rounds - 1, by simp at enough; omega⟩
  refine ⟨rounds, by simp at enough; omega, ?_⟩
  simp only [List.append_assoc, List.cons_append, List.nil_append, start]
  simp [postfixFrom, read]

def Nests (k : Nat) (ls : List Lexeme) (e : Expr) : Prop := ∃ n, n < k ∧ Phrase ls e (-1) n

theorem Nests.read (part : Nests k ls e) (d : Nat) (tokens rest : List Token) (deep : k ≤ d)
    (carried : Carries tokens ls) (free : pullOf rest < 0) : exprAt d (tokens ++ rest) = .ok (e, rest) := by
  obtain ⟨n, less, phrase⟩ := part
  exact phrase.nested d tokens rest (by omega) carried free

def Frees (ls : List Lexeme) : Prop := ∃ l more, ls = l :: more ∧ pull l < 0

theorem frees_pull (frees : Frees ls) (tokens rest : List Token) (carried : Carries tokens ls) :
    pullOf (tokens ++ rest) < 0 := by
  obtain ⟨l, more, rfl, low⟩ := frees
  obtain ⟨pos, back, rfl, _⟩ := carries_cons tokens _ _ carried
  exact low

theorem frees_cons (l : Lexeme) (low : pull l < 0) : Frees (l :: ls) := ⟨l, ls, rfl, low⟩

def ReadsFurther (k : Nat) (ls : List Lexeme) (es : List Expr) : Prop :=
  Frees ls ∧ ∀ d tokens rest rounds before, k ≤ d → Carries tokens ls → ls.length ≤ rounds →
    argumentsFrom (exprAt d) rounds before (tokens ++ rest) = .ok (before.reverse ++ es, rest)

theorem further_closed : ReadsFurther k [.symbol .closeParen] [] := by
  refine ⟨frees_cons _ (by decide), ?_⟩
  intro d tokens rest rounds before _ carried enough
  obtain ⟨pos, rfl⟩ := carries_singleton tokens _ carried
  obtain ⟨rounds, rfl⟩ : ∃ i, rounds = i + 1 := ⟨rounds - 1, by simp at enough; omega⟩
  have stop : symbol? .comma (⟨.symbol .closeParen, pos⟩ :: rest) = none := rfl
  simp [argumentsFrom, stop, Except.map]

theorem further_more {es : List Expr} (part : Nests k ls e) (more : ReadsFurther k ms es) :
    ReadsFurther k (.symbol .comma :: (ls ++ ms)) (e :: es) := by
  refine ⟨frees_cons _ (by decide), ?_⟩
  intro d tokens rest rounds before deep carried enough
  obtain ⟨pos, tail, rfl, led⟩ := carries_cons tokens _ _ carried
  obtain ⟨front, back, rfl, first, second⟩ := carries_append tail _ _ led
  obtain ⟨rounds, rfl⟩ : ∃ i, rounds = i + 1 := ⟨rounds - 1, by simp at enough; omega⟩
  have read := part.read d front (back ++ rest) deep first (frees_pull more.1 back rest second)
  have following := more.2 d back rest rounds (e :: before) deep second (by simp at enough; omega)
  simp only [List.cons_append, List.append_assoc, argumentsFrom, symbol_cons, read, following]
  simp

def ReadsArguments (k : Nat) (ls : List Lexeme) (es : List Expr) : Prop :=
  ∀ d tokens rest, k ≤ d → Carries tokens ls → arguments (exprAt d) (tokens ++ rest) = .ok (es, rest)

theorem arguments_none : ReadsArguments k [.symbol .closeParen] [] := by
  intro d tokens rest _ carried
  obtain ⟨pos, rfl⟩ := carries_singleton tokens _ carried
  simp [arguments]

theorem arguments_some {es : List Expr} (part : Nests k ls e) (more : ReadsFurther k ms es) :
    ReadsArguments k (ls ++ ms) (e :: es) := by
  intro d tokens rest deep carried
  obtain ⟨front, back, rfl, first, second⟩ := carries_append tokens _ _ carried
  have read := part.read d front (back ++ rest) deep first (frees_pull more.1 back rest second)
  have opened := no_closing d .closeParen _ _ _ (.inl rfl) read
  have count : ms.length = back.length := by rw [← second, List.length_map]
  have following := more.2 d back rest ((back ++ rest).length + 1) [e] deep second (by simp; omega)
  simp only [List.append_assoc, arguments, opened, read, following]
  rfl

theorem call_of_arguments {es : List Expr} (tight : 8 ≤ q) (func : Phrase ls e q n) (args : ReadsArguments k ms es) :
    Phrase (ls ++ .symbol .openParen :: ms) (.call e es) 9 (max n k) := by
  apply of_extends
  intro d tokens rest deep carried
  obtain ⟨front, back, rfl, first, tail⟩ := carries_append tokens _ _ carried
  obtain ⟨pos, inside, rfl, within⟩ := carries_cons back _ _ tail
  have read := args d inside rest (by omega) within
  obtain ⟨rounds, enough, start⟩ := func.extends_ tight d front (⟨.symbol .openParen, pos⟩ :: (inside ++ rest)) (by omega)
    first
  obtain ⟨rounds, rfl⟩ : ∃ i, rounds = i + 1 := ⟨rounds - 1, by simp at enough; omega⟩
  refine ⟨rounds, by simp at enough; omega, ?_⟩
  simp only [List.append_assoc, List.cons_append, start]
  simp [postfixFrom, read]

def ReadsItems (k : Nat) (ls : List Lexeme) (es : List Expr) : Prop :=
  ∀ d tokens rest rounds before, k ≤ d → Carries tokens ls → ls.length ≤ rounds →
    items (exprAt d) rounds before (tokens ++ rest) = .ok (before.reverse ++ es, rest)

theorem items_closed : ReadsItems k [.symbol .closeBracket] [] := by
  intro d tokens rest rounds before _ carried enough
  obtain ⟨pos, rfl⟩ := carries_singleton tokens _ carried
  obtain ⟨rounds, rfl⟩ : ∃ i, rounds = i + 1 := ⟨rounds - 1, by simp at enough; omega⟩
  simp [items]

theorem items_last (part : Nests k ls e) : ReadsItems k (ls ++ [.symbol .closeBracket]) [e] := by
  intro d tokens rest rounds before deep carried enough
  obtain ⟨front, back, rfl, first, second⟩ := carries_append tokens _ _ carried
  obtain ⟨pos, rfl⟩ := carries_singleton back _ second
  obtain ⟨rounds, rfl⟩ : ∃ i, rounds = i + 1 := ⟨rounds - 1, by simp at enough; omega⟩
  have read := part.read d front (⟨.symbol .closeBracket, pos⟩ :: rest) deep first (by simp [pull])
  have opened := no_closing d .closeBracket _ _ _ (.inr (.inl rfl)) read
  have stop : symbol? .comma (⟨.symbol .closeBracket, pos⟩ :: rest) = none := rfl
  simp [items, opened, read, stop, Except.map]

theorem items_more {es : List Expr} (part : Nests k ls e) (more : ReadsItems k ms es) :
    ReadsItems k (ls ++ .symbol .comma :: ms) (e :: es) := by
  intro d tokens rest rounds before deep carried enough
  obtain ⟨front, back, rfl, first, second⟩ := carries_append tokens _ _ carried
  obtain ⟨pos, back, rfl, tail⟩ := carries_cons back _ _ second
  obtain ⟨rounds, rfl⟩ : ∃ i, rounds = i + 1 := ⟨rounds - 1, by simp at enough; omega⟩
  have read := part.read d front (⟨.symbol .comma, pos⟩ :: (back ++ rest)) deep first (by simp [pull])
  have opened := no_closing d .closeBracket _ _ _ (.inr (.inl rfl)) read
  have following := more d back rest rounds (e :: before) deep tail (by simp at enough; omega)
  simp [items, opened, read, following]

theorem list_of_items {es : List Expr} (read : ReadsItems k ls es) :
    Phrase (.symbol .openBracket :: ls) (.list es) 9 k := by
  apply of_primary
  intro d tokens rest deep carried
  obtain ⟨pos, inside, rfl, within⟩ := carries_cons tokens _ _ carried
  have count : ls.length = inside.length := by rw [← within, List.length_map]
  have all := read d inside rest ((inside ++ rest).length + 1) [] deep within (by simp; omega)
  simp only [List.cons_append, primary, all]
  rfl

inductive IsKey : Lexeme → String → Prop
  | name (key : String) : IsKey (.ident key) key
  | quoted (key : String) : IsKey (.string key) key

theorem record_key (l : Lexeme) (key : String) (pos : Nat) (rest : List Token) (isKey : IsKey l key) :
    recordKey (⟨l, pos⟩ :: rest) = .ok (key, rest) := by
  cases isKey <;> rfl

theorem key_no_symbol (l : Lexeme) (key : String) (s : Symbol) (pos : Nat) (rest : List Token) (isKey : IsKey l key) :
    symbol? s (⟨l, pos⟩ :: rest) = none := by
  cases isKey <;> rfl

def ReadsEntries (k : Nat) (ls : List Lexeme) (fields : List (String × Expr)) : Prop :=
  ∀ d tokens rest rounds before, k ≤ d → Carries tokens ls → ls.length ≤ rounds →
    ((before.reverse ++ fields).map (·.1)).Nodup →
    entries (exprAt d) rounds before (tokens ++ rest) = .ok (before.reverse ++ fields, rest)

theorem entries_closed : ReadsEntries k [.symbol .closeBrace] [] := by
  intro d tokens rest rounds before _ carried enough _
  obtain ⟨pos, rfl⟩ := carries_singleton tokens _ carried
  obtain ⟨rounds, rfl⟩ : ∃ i, rounds = i + 1 := ⟨rounds - 1, by simp at enough; omega⟩
  simp [entries]

theorem fresh_key (before more : List (String × Expr)) (key : String) (value : Expr)
    (distinct : ((before.reverse ++ (key, value) :: more).map (·.1)).Nodup) : before.any (·.1 == key) = false := by
  rw [List.any_eq_false]
  intro other member same
  obtain rfl : other.1 = key := by simpa using same
  simp only [List.map_append, List.map_cons, List.nodup_append] at distinct
  exact distinct.2.2 other.1 (by simpa using ⟨other.2, member⟩) other.1 (by simp) rfl

theorem entries_last {l : Lexeme} {key : String} (isKey : IsKey l key) (part : Nests k ls e) :
    ReadsEntries k (l :: .symbol .colon :: (ls ++ [.symbol .closeBrace])) [(key, e)] := by
  intro d tokens rest rounds before deep carried enough distinct
  obtain ⟨keyPos, keyed, rfl, colon⟩ := carries_cons tokens _ _ carried
  obtain ⟨colonPos, tail, rfl, valued⟩ := carries_cons keyed _ _ colon
  obtain ⟨front, back, rfl, first, second⟩ := carries_append tail _ _ valued
  obtain ⟨pos, rfl⟩ := carries_singleton back _ second
  obtain ⟨rounds, rfl⟩ : ∃ i, rounds = i + 1 := ⟨rounds - 1, by simp at enough; omega⟩
  have read := part.read d front (⟨.symbol .closeBrace, pos⟩ :: rest) deep first (by simp [pull])
  have stop : symbol? .comma (⟨.symbol .closeBrace, pos⟩ :: rest) = none := rfl
  simp [entries, key_no_symbol l key _ _ _ isKey, record_key l key _ _ isKey, fresh_key before [] key e distinct, read,
    stop, Except.map]

theorem entries_more {l : Lexeme} {key : String} {fields : List (String × Expr)} (isKey : IsKey l key)
    (part : Nests k ls e) (more : ReadsEntries k ms fields) :
    ReadsEntries k (l :: .symbol .colon :: (ls ++ .symbol .comma :: ms)) ((key, e) :: fields) := by
  intro d tokens rest rounds before deep carried enough distinct
  obtain ⟨keyPos, keyed, rfl, colon⟩ := carries_cons tokens _ _ carried
  obtain ⟨colonPos, tail, rfl, valued⟩ := carries_cons keyed _ _ colon
  obtain ⟨front, back, rfl, first, second⟩ := carries_append tail _ _ valued
  obtain ⟨pos, back, rfl, last⟩ := carries_cons back _ _ second
  obtain ⟨rounds, rfl⟩ : ∃ i, rounds = i + 1 := ⟨rounds - 1, by simp at enough; omega⟩
  have read := part.read d front (⟨.symbol .comma, pos⟩ :: (back ++ rest)) deep first (by simp [pull])
  have following := more d back rest rounds ((key, e) :: before) deep last (by simp at enough; omega)
    (by simpa using distinct)
  simp [entries, key_no_symbol l key _ _ _ isKey, record_key l key _ _ isKey, fresh_key before fields key e distinct, read,
    following]

theorem record_of_entries {fields : List (String × Expr)} (distinct : (fields.map (·.1)).Nodup)
    (read : ReadsEntries k ls fields) : Phrase (.symbol .openBrace :: ls) (.record fields) 9 k := by
  apply of_primary
  intro d tokens rest deep carried
  obtain ⟨pos, inside, rfl, within⟩ := carries_cons tokens _ _ carried
  have count : ls.length = inside.length := by rw [← within, List.length_map]
  have all := read d inside rest ((inside ++ rest).length + 1) [] deep within (by simp; omega) (by simpa using distinct)
  simp only [List.cons_append, primary, all]
  rfl

def Parts (n : Nat) (lss : List (List Lexeme)) (es : List Expr) : Prop :=
  List.Forall₂ (fun ls e => Phrase ls e (-1) n) lss es

def EntryPhrase (n : Nat) (ls : List Lexeme) (entry : String × Expr) : Prop :=
  ∃ l ms, ls = l :: .symbol .colon :: ms ∧ IsKey l entry.1 ∧ Phrase ms entry.2 (-1) n

theorem parts_further (lss : List (List Lexeme)) (es : List Expr) (parts : Parts n lss es) :
    ReadsFurther (n + 1) (led lss ++ [.symbol .closeParen]) es := by
  induction parts with
  | nil => exact further_closed
  | cons phrase _ ih => simpa [led] using further_more ⟨n, Nat.lt_succ_self n, phrase⟩ ih

theorem parts_arguments (lss : List (List Lexeme)) (es : List Expr) (parts : Parts n lss es) :
    ReadsArguments (n + 1) (separated lss ++ [.symbol .closeParen]) es := by
  cases parts with
  | nil => exact arguments_none
  | cons phrase more =>
    simpa [separated] using arguments_some ⟨n, Nat.lt_succ_self n, phrase⟩ (parts_further _ _ more)

theorem parts_items (lss : List (List Lexeme)) (es : List Expr) (parts : Parts n lss es) :
    ReadsItems (n + 1) (separated lss ++ [.symbol .closeBracket]) es := by
  induction parts with
  | nil => exact items_closed
  | @cons ls e lss es phrase parts ih =>
    have part : Nests (n + 1) ls e := ⟨n, Nat.lt_succ_self n, phrase⟩
    cases parts with
    | nil => simpa [separated, led] using items_last part
    | cons _ _ => simpa [separated, led] using items_more part ih

theorem parts_entries (lss : List (List Lexeme)) (fields : List (String × Expr))
    (parts : List.Forall₂ (EntryPhrase n) lss fields) :
    ReadsEntries (n + 1) (separated lss ++ [.symbol .closeBrace]) fields := by
  induction parts with
  | nil => exact entries_closed
  | @cons ls field lss fields entry parts ih =>
    obtain ⟨l, ms, rfl, isKey, phrase⟩ := entry
    have part : Nests (n + 1) ms field.2 := ⟨n, Nat.lt_succ_self n, phrase⟩
    cases parts with
    | nil => simpa [separated, led] using entries_last isKey part
    | cons _ _ => simpa [separated, led] using entries_more isKey part ih

theorem call (lss : List (List Lexeme)) (es : List Expr) (tight : 8 ≤ q) (func : Phrase ls e q n)
    (parts : Parts m lss es) :
    Phrase (ls ++ .symbol .openParen :: separated lss ++ [.symbol .closeParen]) (.call e es) 9 (max n (m + 1)) := by
  simpa using call_of_arguments tight func (parts_arguments lss es parts)

theorem list (lss : List (List Lexeme)) (es : List Expr) (parts : Parts n lss es) :
    Phrase (.symbol .openBracket :: separated lss ++ [.symbol .closeBracket]) (.list es) 9 (n + 1) :=
  list_of_items (parts_items lss es parts)

theorem record (lss : List (List Lexeme)) (fields : List (String × Expr)) (distinct : (fields.map (·.1)).Nodup)
    (parts : List.Forall₂ (EntryPhrase n) lss fields) :
    Phrase (.symbol .openBrace :: separated lss ++ [.symbol .closeBrace]) (.record fields) 9 (n + 1) :=
  record_of_entries distinct (parts_entries lss fields parts)

theorem unary_op (op : UnaryOp) (tight : 7 ≤ q) (phrase : Phrase ls e q n) :
    Phrase (.symbol op.symbol :: ls) (.unary op e) 7 (n + 1) := by
  apply of_unary
  intro d tokens rest deep carried free
  obtain ⟨pos, operand, rfl, under⟩ := carries_cons tokens _ _ carried
  obtain ⟨d, rfl⟩ : ∃ i, d = i + 1 := ⟨d - 1, by omega⟩
  have read : unaryAt d (operand ++ rest) = .ok (e, rest) := phrase.unary tight d operand rest (by omega) under free
  have op? : unaryOp? (⟨.symbol op.symbol, pos⟩ :: (operand ++ rest)) = some (op, operand ++ rest) := by cases op <;> rfl
  change unaryAt (d + 1) (⟨.symbol op.symbol, pos⟩ :: (operand ++ rest)) = _
  rw [unary_at_eq]
  simp only [unaryOver, op?, operandAt, read]
  rfl

theorem reads_tighter (p : Nat) (low : 1 ≤ p) (high : p ≤ 6) (tight : (p : Int) + 1 ≤ q) (phrase : Phrase ls e q n) :
    ReadsAt (p + 1) ls e n := by
  rcases Nat.lt_or_ge p 6 with less | top
  · exact reads_of_chains (p + 1) ls e n (by omega) less (phrase.chains (p + 1) (by omega) less (by push_cast; omega))
  · obtain rfl : p = 6 := by omega
    exact phrase.unary tight

theorem binary_op (op : BinaryOp) (loose : (op.power : Int) ≤ q) (tight : (op.power : Int) + 1 ≤ r)
    (left : Phrase ls e q n) (right : Phrase ms f r m) :
    Phrase (ls ++ .symbol op.symbol :: ms) (.binary op e f) op.power (max n m) := by
  have low : 1 ≤ op.power := by cases op <;> decide
  have high : op.power ≤ 6 := by cases op <;> decide
  apply of_chains op.power low high
  intro d tokens rest deep carried free
  obtain ⟨front, back, rfl, first, tail⟩ := carries_append tokens _ _ carried
  obtain ⟨pos, back, rfl, second⟩ := carries_cons back _ _ tail
  have pulls : pull (.symbol op.symbol) = op.power := by cases op <;> rfl
  have found : operator? (opsAt op.power) (⟨.symbol op.symbol, pos⟩ :: (back ++ rest)) = some (op, back ++ rest) := by
    cases op <;> rfl
  obtain ⟨rounds, enough, start⟩ := left.chains op.power low high loose d front
    (⟨.symbol op.symbol, pos⟩ :: (back ++ rest)) (by omega) first (by rw [pull_of_cons, pulls])
  obtain ⟨rounds, rfl⟩ : ∃ i, rounds = i + 1 := ⟨rounds - 1, by simp at enough; omega⟩
  have read := reads_tighter op.power low high tight right d back rest (by omega) second (by push_cast; omega)
  refine ⟨rounds, by simp at enough; omega, ?_⟩
  simp only [List.append_assoc, List.cons_append, start, chainFrom, found, read]

theorem conditional (tight : 1 ≤ q) (test : Phrase ls e q n) (consequent : Phrase ms f r m)
    (alternative : Phrase ks g s k) :
    Phrase (ls ++ .symbol .question :: ms ++ .symbol .colon :: ks) (.conditional e f g) 0
      (max n (max m k + 1)) := by
  apply of_expr (by decide)
  intro d tokens rest deep carried free
  rw [List.append_assoc] at carried
  obtain ⟨front, back, rfl, first, tail⟩ := carries_append tokens _ _ carried
  obtain ⟨pos, middle, rfl, asked⟩ := carries_cons back _ _ tail
  obtain ⟨between, last, rfl, second, tail⟩ := carries_append middle _ _ asked
  obtain ⟨pos', last, rfl, third⟩ := carries_cons last _ _ tail
  have reads := reads_of_chains 1 ls e n (by decide) (by decide) (test.chains 1 (by decide) (by decide) tight)
  have below : pullOf (⟨.symbol .question, pos⟩ :: (between ++ ⟨.symbol .colon, pos'⟩ :: (last ++ rest))) < (1 : Nat) := by
    simp [pull]
  have plain := reads_no_arrow 1 ls e n (by decide) (by decide) reads d front _ (by omega) first below
  have readTest : Parser.binary (unaryAt d) binaryLevels (front ++ _) = _ :=
    reads d front _ (by omega) first below
  have readConsequent := consequent.nested d between (⟨.symbol .colon, pos'⟩ :: (last ++ rest)) (by omega) second
    (by simp [pull])
  have readAlternative := alternative.nested d last rest (by omega) third free
  rw [expr_at_succ]
  simp [exprOver, plain, readTest, readConsequent, readAlternative, Except.map]

theorem deferred (phrase : Phrase ls e q n) : Phrase (.symbol .arrow :: ls) (.deferred e) (-1) (n + 1) := by
  apply of_expr (by decide)
  intro d tokens rest deep carried free
  obtain ⟨pos, body, rfl, under⟩ := carries_cons tokens _ _ carried
  have read := phrase.nested d body rest deep under free
  rw [expr_at_succ]
  simp [exprOver, read, Except.map]

end Phrase

end Parser

end DamagePlan.Script
