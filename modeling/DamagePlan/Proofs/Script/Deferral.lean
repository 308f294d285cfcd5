import DamagePlan.Proofs.Script.Splice

/-!
Deferred expressions and arrows: one deferred expression derives from each arrow.
-/
set_option autoImplicit false

namespace DamagePlan.Script

namespace Expr

mutual
def deferrals : Expr → Nat
  | .number _ | .string _ | .bool _ | .null | .name _ | .verbatim _ => 0
  | .member obj _ => deferrals obj
  | .index obj key => deferrals obj + deferrals key
  | .call func args => deferrals func + deferralsOfList args
  | .unary _ operand => deferrals operand
  | .binary _ left right => deferrals left + deferrals right
  | .conditional test consequent alternative => deferrals test + deferrals consequent + deferrals alternative
  | .list items => deferralsOfList items
  | .record entries => deferralsOfEntries entries
  | .deferred body => deferrals body + 1

def deferralsOfList : List Expr → Nat
  | [] => 0
  | e :: es => deferrals e + deferralsOfList es

def deferralsOfEntries : List (String × Expr) → Nat
  | [] => 0
  | (_, e) :: rest => deferrals e + deferralsOfEntries rest
end

theorem deferrals_of_word (id : String) : (Parser.ofWord id).deferrals = 0 := by
  unfold Parser.ofWord
  split <;> [rfl; skip]
  split <;> [rfl; skip]
  split <;> rfl

end Expr

def arrowsAmong (ls : List Lexeme) : Nat :=
  ls.countP fun
    | .symbol .arrow => true
    | _ => false

def arrows (tokens : List Token) : Nat := arrowsAmong (Parser.lexemes tokens)

@[simp] theorem arrows_among_nil : arrowsAmong [] = 0 := rfl

@[simp] theorem arrows_among_append (ls ms : List Lexeme) : arrowsAmong (ls ++ ms) = arrowsAmong ls + arrowsAmong ms :=
  List.countP_append

@[simp] theorem arrows_among_symbol (s : Symbol) (ls : List Lexeme) :
    arrowsAmong (.symbol s :: ls) = arrowsAmong ls + if s = .arrow then 1 else 0 := by
  cases s <;> simp [arrowsAmong]

theorem any_arrow (tokens : List Token) : tokens.any isArrow = false ↔ arrows tokens = 0 := by
  simp only [arrows, arrowsAmong, Parser.lexemes, List.countP_eq_zero, List.mem_map, List.any_eq_false]
  constructor
  · rintro none l ⟨token, member, rfl⟩ found
    apply none token member
    unfold isArrow
    split at found
    · rename_i same
      obtain ⟨l, pos⟩ := token
      obtain rfl : l = .symbol .arrow := same
      rfl
    · cases found
  · rintro none token member found
    apply none token.lexeme ⟨token, member, rfl⟩
    unfold isArrow at found
    split at found
    · rfl
    · cases found

theorem arrows_of_words (tokens : List Token) : arrowsAmong (words tokens) = arrows tokens := by
  simp only [arrows, arrowsAmong, words, List.countP_filter]
  apply List.countP_congr
  intro l _
  cases l <;> simp

namespace Parser

def Constituent.deferrals : Constituent → Nat
  | .expr _ e | .nested e => e.deferrals
  | .arguments es | .further es | .items es => Expr.deferralsOfList es
  | .entries fields => Expr.deferralsOfEntries fields

theorem arrows_among_key (l : Lexeme) (key : String) (isKey : Phrase.IsKey l key) (ls : List Lexeme) :
    arrowsAmong (l :: ls) = arrowsAmong ls := by
  cases isKey <;> simp [arrowsAmong]

theorem Derives.arrows {d : Nat} {ls : List Lexeme} {c : Constituent} (derived : Derives d ls c) :
    arrowsAmong ls = c.deferrals := by
  induction derived with
  | loosen _ _ ih | nested _ ih => exact ih
  | number x => rfl
  | string t => rfl
  | word id => exact (Expr.deferrals_of_word id).symm
  | paren _ ih | list _ ih | record _ _ ih | deferred _ ih =>
    simpa [Constituent.deferrals, Expr.deferrals] using ih
  | member part _ ih => simpa [Constituent.deferrals, Expr.deferrals, arrows_among_key _ _ (.name part)] using ih
  | index _ _ whole part => simp [Constituent.deferrals, Expr.deferrals, whole, part]
  | call _ _ func args => simp [Constituent.deferrals, Expr.deferrals, func, args]
  | unary op _ ih => cases op <;> simpa [UnaryOp.symbol, Constituent.deferrals, Expr.deferrals] using ih
  | binary op _ _ left right =>
    have plain : op.symbol ≠ .arrow := by cases op <;> nofun
    simp [Constituent.deferrals, Expr.deferrals, left, right, plain]
  | conditional _ _ _ test consequent alternative =>
    simp [Constituent.deferrals, Expr.deferrals, test, consequent, alternative, Nat.add_assoc]
  | argumentsNone | furtherClosed | itemsClosed | entriesClosed => rfl
  | argumentsSome _ _ part more | furtherMore _ _ part more | itemsMore _ _ part more =>
    simp [Constituent.deferrals, Expr.deferralsOfList, part, more]
  | itemsLast _ part => simp [Constituent.deferrals, Expr.deferralsOfList, part]
  | entriesLast isKey _ part =>
    simp [Constituent.deferrals, Expr.deferralsOfEntries, arrows_among_key _ _ isKey, part]
  | entriesMore isKey _ _ part more =>
    simp [Constituent.deferrals, Expr.deferralsOfEntries, arrows_among_key _ _ isKey, part, more]

end Parser

theorem expr_arrows (tokens : List Token) (e : Expr) (rest : List Token) (read : Parser.expr tokens = .ok (e, rest)) :
    arrows tokens = e.deferrals + arrows rest := by
  obtain ⟨front, rfl, -, derived⟩ := Parser.expr_takes tokens e rest read
  have count : arrows front = e.deferrals := derived.arrows
  rw [← count, arrows, Parser.lexemes, List.map_append, arrows_among_append]
  rfl

theorem accepted_defers_nothing (text : String) (accepted : isContextExpression text = true) :
    ∃ e, parseExpression ("(" ++ text ++ ")") = .ok e ∧ e.deferrals = 0 ∧ e.readsContextOnly = true := by
  obtain ⟨tokens, e, front, newline, eof, -, plain, parsed, known, carried, read⟩ := accepted_reads _ accepted
  refine ⟨e, parsed, ?_, known⟩
  have none := (any_arrow tokens).mp plain
  have count := expr_arrows _ _ _ read
  have inner : arrows front = arrows tokens := by
    have words := arrows_of_words tokens
    rw [arrows, Parser.lexemes, carried]
    simpa [arrowsAmong] using words
  have whole : arrows (front ++ [⟨.newline, newline⟩, ⟨.eof, eof⟩]) = arrows front := by
    simp [arrows, arrowsAmong, Parser.lexemes]
  omega

theorem taken_is_context_expression (text taken : String) (accepted : acceptedExpression? text = some taken) :
    isContextExpression taken = true := by
  unfold acceptedExpression? at accepted
  dsimp only at accepted
  split at accepted
  · cases accepted
  · split at accepted
    · rename_i reads
      cases accepted
      exact reads
    · cases accepted

end DamagePlan.Script
