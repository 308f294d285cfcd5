import DamagePlan.Proofs.Script.Grammar

/-!
The grammar as a relation between lexemes and what they are read as.

An expression has a power: -1 for any, 0 for a conditional, 1 to 6 for the binary levels, 7 for a unary expression and
9 for a postfixed one or a primary.
-/
set_option autoImplicit false

namespace DamagePlan.Script.Parser

/-- What lexemes may stand for: an expression, one that is nested in another, or what follows an opening bracket, or a
first argument, through the closing bracket. -/
inductive Constituent
  | expr (power : Int) (e : Expr)
  | nested (e : Expr)
  | arguments (es : List Expr)
  | further (es : List Expr)
  | items (es : List Expr)
  | entries (fields : List (String × Expr))

/-- The rules of the grammar, with room for `d` further levels of nesting. A nested expression takes one level, and so
does the operand of a unary operator. -/
inductive Derives : Nat → List Lexeme → Constituent → Prop
  | loosen {d : Nat} {ls : List Lexeme} {e : Expr} {q r : Int} (less : r ≤ q) (tight : Derives d ls (.expr q e)) :
      Derives d ls (.expr r e)
  | number {d : Nat} (x : Float) : Derives d [.number x] (.expr 9 (.number x))
  | string {d : Nat} (t : String) : Derives d [.string t] (.expr 9 (.string t))
  | word {d : Nat} (id : String) : Derives d [.ident id] (.expr 9 (ofWord id))
  | paren {d : Nat} {ls : List Lexeme} {e : Expr} (inner : Derives d ls (.nested e)) :
      Derives d (.symbol .openParen :: (ls ++ [.symbol .closeParen])) (.expr 9 e)
  | list {d : Nat} {ls : List Lexeme} {es : List Expr} (all : Derives d ls (.items es)) :
      Derives d (.symbol .openBracket :: ls) (.expr 9 (.list es))
  | record {d : Nat} {ls : List Lexeme} {fields : List (String × Expr)} (distinct : (fields.map (·.1)).Nodup)
      (all : Derives d ls (.entries fields)) : Derives d (.symbol .openBrace :: ls) (.expr 9 (.record fields))
  | member {d : Nat} {ls : List Lexeme} {e : Expr} (part : String) (obj : Derives d ls (.expr 9 e)) :
      Derives d (ls ++ [.symbol .dot, .ident part]) (.expr 9 (.member e part))
  | index {d : Nat} {ls ms : List Lexeme} {e f : Expr} (obj : Derives d ls (.expr 9 e)) (key : Derives d ms (.nested f)) :
      Derives d (ls ++ .symbol .openBracket :: (ms ++ [.symbol .closeBracket])) (.expr 9 (.index e f))
  | call {d : Nat} {ls ms : List Lexeme} {e : Expr} {es : List Expr} (func : Derives d ls (.expr 9 e))
      (args : Derives d ms (.arguments es)) : Derives d (ls ++ .symbol .openParen :: ms) (.expr 9 (.call e es))
  | unary {d : Nat} {ls : List Lexeme} {e : Expr} (op : UnaryOp) (operand : Derives d ls (.expr 7 e)) :
      Derives (d + 1) (.symbol op.symbol :: ls) (.expr 7 (.unary op e))
  | binary {d : Nat} {ls ms : List Lexeme} {e f : Expr} (op : BinaryOp) (left : Derives d ls (.expr op.power e))
      (right : Derives d ms (.expr (op.power + 1) f)) :
      Derives d (ls ++ .symbol op.symbol :: ms) (.expr op.power (.binary op e f))
  | conditional {d : Nat} {ls ms ks : List Lexeme} {e f g : Expr} (test : Derives d ls (.expr 1 e))
      (consequent : Derives d ms (.nested f)) (alternative : Derives d ks (.nested g)) :
      Derives d (ls ++ .symbol .question :: (ms ++ .symbol .colon :: ks)) (.expr 0 (.conditional e f g))
  | deferred {d : Nat} {ls : List Lexeme} {e : Expr} (body : Derives d ls (.nested e)) :
      Derives d (.symbol .arrow :: ls) (.expr (-1) (.deferred e))
  | nested {d : Nat} {ls : List Lexeme} {e : Expr} (whole : Derives d ls (.expr (-1) e)) : Derives (d + 1) ls (.nested e)
  | argumentsNone {d : Nat} : Derives d [.symbol .closeParen] (.arguments [])
  | argumentsSome {d : Nat} {ls ms : List Lexeme} {e : Expr} {es : List Expr} (part : Derives d ls (.nested e))
      (more : Derives d ms (.further es)) : Derives d (ls ++ ms) (.arguments (e :: es))
  | furtherClosed {d : Nat} : Derives d [.symbol .closeParen] (.further [])
  | furtherMore {d : Nat} {ls ms : List Lexeme} {e : Expr} {es : List Expr} (part : Derives d ls (.nested e))
      (more : Derives d ms (.further es)) : Derives d (.symbol .comma :: (ls ++ ms)) (.further (e :: es))
  | itemsClosed {d : Nat} : Derives d [.symbol .closeBracket] (.items [])
  | itemsLast {d : Nat} {ls : List Lexeme} {e : Expr} (part : Derives d ls (.nested e)) :
      Derives d (ls ++ [.symbol .closeBracket]) (.items [e])
  | itemsMore {d : Nat} {ls ms : List Lexeme} {e : Expr} {es : List Expr} (part : Derives d ls (.nested e))
      (more : Derives d ms (.items es)) : Derives d (ls ++ .symbol .comma :: ms) (.items (e :: es))
  | entriesClosed {d : Nat} : Derives d [.symbol .closeBrace] (.entries [])
  | entriesLast {d : Nat} {l : Lexeme} {key : String} {ls : List Lexeme} {e : Expr} (isKey : Phrase.IsKey l key)
      (part : Derives d ls (.nested e)) :
      Derives d (l :: .symbol .colon :: (ls ++ [.symbol .closeBrace])) (.entries [(key, e)])
  | entriesMore {d : Nat} {l : Lexeme} {key : String} {ls ms : List Lexeme} {e : Expr} {fields : List (String × Expr)}
      (isKey : Phrase.IsKey l key) (part : Derives d ls (.nested e)) (more : Derives d ms (.entries fields)) :
      Derives d (l :: .symbol .colon :: (ls ++ .symbol .comma :: ms)) (.entries ((key, e) :: fields))

def Constituent.ReadFrom (d : Nat) (ls : List Lexeme) : Constituent → Prop
  | .expr q e => Phrase ls e q d
  | .nested e => Phrase.Nests d ls e
  | .arguments es => Phrase.ReadsArguments d ls es
  | .further es => Phrase.ReadsFurther d ls es
  | .items es => Phrase.ReadsItems d ls es
  | .entries fields => Phrase.ReadsEntries d ls fields

theorem Derives.read {d : Nat} {ls : List Lexeme} {c : Constituent} (derived : Derives d ls c) : c.ReadFrom d ls := by
  induction derived with
  | loosen less _ ih => exact ih.loosen less
  | number x => exact (Phrase.number x).mono (Nat.zero_le _)
  | string t => exact (Phrase.string t).mono (Nat.zero_le _)
  | word id => exact (Phrase.word id).mono (Nat.zero_le _)
  | paren _ ih =>
    obtain ⟨n, less, phrase⟩ := ih
    exact phrase.paren.mono less
  | list _ ih => exact Phrase.list_of_items ih
  | record distinct _ ih => exact Phrase.record_of_entries distinct ih
  | member part _ ih => exact ih.member part (by decide)
  | index _ _ obj key =>
    obtain ⟨n, less, phrase⟩ := key
    have whole := (obj.index (by decide) phrase).mono (Nat.max_le.mpr ⟨Nat.le_refl _, less⟩)
    rwa [List.append_assoc] at whole
  | call _ _ func args => exact (Phrase.call_of_arguments (by decide) func args).mono (Nat.max_le.mpr ⟨Nat.le_refl _, Nat.le_refl _⟩)
  | unary op _ ih => exact ih.unary_op op (by decide)
  | binary op _ _ left right =>
    exact (left.binary_op op (Int.le_refl _) (Int.le_refl _) right).mono (Nat.max_le.mpr ⟨Nat.le_refl _, Nat.le_refl _⟩)
  | conditional _ _ _ test consequent alternative =>
    obtain ⟨n, less, one⟩ := consequent
    obtain ⟨m, less', other⟩ := alternative
    have whole := (test.conditional (by decide) one other).mono (Nat.max_le.mpr ⟨Nat.le_refl _, Nat.max_lt.mpr ⟨less, less'⟩⟩)
    rwa [List.append_assoc] at whole
  | deferred _ ih =>
    obtain ⟨n, less, phrase⟩ := ih
    exact phrase.deferred.mono less
  | nested _ ih => exact ⟨_, Nat.lt_succ_self _, ih⟩
  | argumentsNone => exact Phrase.arguments_none
  | argumentsSome _ _ part more => exact Phrase.arguments_some part more
  | furtherClosed => exact Phrase.further_closed
  | furtherMore _ _ part more => exact Phrase.further_more part more
  | itemsClosed => exact Phrase.items_closed
  | itemsLast _ ih => exact Phrase.items_last ih
  | itemsMore _ _ part more => exact Phrase.items_more part more
  | entriesClosed => exact Phrase.entries_closed
  | entriesLast isKey _ ih => exact Phrase.entries_last isKey ih
  | entriesMore isKey _ _ part more => exact Phrase.entries_more isKey part more

end DamagePlan.Script.Parser
