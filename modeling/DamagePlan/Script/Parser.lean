import DamagePlan.Script.Lexer

/-!
Reading expressions and scripts from tokens:

    script   := (name "=" expr newline)* end
    expr     := "=>" expr | binary ("?" expr ":" expr)?
    binary   := six levels of left-associative operators over unary
    unary    := ("-" | "+" | "!") unary | postfix
    postfix  := primary ("." name | "[" expr "]" | "(" (expr ("," expr)*)? ")")*
    primary  := number | string | name | "(" expr ")" | list | record

At most `maxDepth` expressions and unary operators are nested at any place.
-/
set_option autoImplicit false

namespace DamagePlan.Script

def maxDepth : Nat := 64

def keywords : List String := ["true", "false", "null"]

abbrev Parser (α : Type) := List Token → Except SyntaxError (α × List Token)

namespace Parser

def current : List Token → Token
  | [] => ⟨.eof, 0⟩
  | t :: _ => t

def failHere {α : Type} (kind : SyntaxErrorKind) (tokens : List Token) : Except SyntaxError (α × List Token) :=
  .error ⟨kind, (current tokens).pos⟩

def symbol? (s : Symbol) : List Token → Option (List Token)
  | ⟨.symbol t, _⟩ :: rest => if t = s then some rest else none
  | _ => none

def expectSymbol (s : Symbol) (tokens : List Token) : Except SyntaxError (List Token) :=
  match symbol? s tokens with
  | some rest => .ok rest
  | none => .error ⟨.expected (.symbol s) (current tokens).lexeme, (current tokens).pos⟩

def expectName : Parser (String × Nat)
  | ⟨.ident id, pos⟩ :: rest => .ok ((id, pos), rest)
  | tokens => failHere (.expected .ident (current tokens).lexeme) tokens

def skipNewlines : List Token → List Token
  | ⟨.newline, _⟩ :: rest => skipNewlines rest
  | tokens => tokens

def atEnd (tokens : List Token) : Bool :=
  match (current tokens).lexeme with
  | .eof => true
  | _ => false

def binaryLevels : List (List (Symbol × BinaryOp)) := [
  [(.or, .or)],
  [(.and, .and)],
  [(.equal, .equal), (.notEqual, .notEqual)],
  [(.less, .less), (.lessEqual, .lessEqual), (.greater, .greater), (.greaterEqual, .greaterEqual)],
  [(.plus, .add), (.minus, .subtract)],
  [(.star, .multiply), (.slash, .divide), (.percent, .remainder)]]

def operator? (ops : List (Symbol × BinaryOp)) : List Token → Option (BinaryOp × List Token)
  | ⟨.symbol s, _⟩ :: rest => (ops.lookup s).map (·, rest)
  | _ => none

/-- Operators and operands after a left operand. Every round takes an operator, so the count of tokens
bounds the rounds; so it does in the loops below. -/
def chainFrom (ops : List (Symbol × BinaryOp)) (operand : Parser Expr) : (rounds : Nat) → Expr → Parser Expr
  | 0, left, tokens => .ok (left, tokens)
  | rounds + 1, left, tokens =>
    match operator? ops tokens with
    | none => .ok (left, tokens)
    | some (op, rest) =>
      match operand rest with
      | .error e => .error e
      | .ok (right, rest) => chainFrom ops operand rounds (.binary op left right) rest

def chain (ops : List (Symbol × BinaryOp)) (operand : Parser Expr) : Parser Expr := fun tokens =>
  match operand tokens with
  | .error e => .error e
  | .ok (left, rest) => chainFrom ops operand rest.length left rest

def binary (unary : Parser Expr) : List (List (Symbol × BinaryOp)) → Parser Expr
  | [] => unary
  | ops :: tighter => chain ops (binary unary tighter)

def argumentsFrom (nested : Parser Expr) : (rounds : Nat) → (before : List Expr) → Parser (List Expr)
  | 0, before, tokens => .ok (before.reverse, tokens)
  | rounds + 1, before, tokens =>
    match symbol? .comma tokens with
    | some rest =>
      match nested rest with
      | .error e => .error e
      | .ok (arg, rest) => argumentsFrom nested rounds (arg :: before) rest
    | none => (expectSymbol .closeParen tokens).map (before.reverse, ·)

def arguments (nested : Parser Expr) : Parser (List Expr) := fun tokens =>
  match symbol? .closeParen tokens with
  | some rest => .ok ([], rest)
  | none =>
    match nested tokens with
    | .error e => .error e
    | .ok (arg, rest) => argumentsFrom nested (rest.length + 1) [arg] rest

def postfixFrom (nested : Parser Expr) : (rounds : Nat) → Expr → Parser Expr
  | 0, obj, tokens => .ok (obj, tokens)
  | rounds + 1, obj, tokens =>
    match tokens with
    | ⟨.symbol .dot, _⟩ :: rest =>
      match expectName rest with
      | .error e => .error e
      | .ok ((id, _), rest) => postfixFrom nested rounds (.member obj id) rest
    | ⟨.symbol .openBracket, _⟩ :: rest =>
      match nested rest with
      | .error e => .error e
      | .ok (key, rest) =>
        match expectSymbol .closeBracket rest with
        | .error e => .error e
        | .ok rest => postfixFrom nested rounds (.index obj key) rest
    | ⟨.symbol .openParen, _⟩ :: rest =>
      match arguments nested rest with
      | .error e => .error e
      | .ok (args, rest) => postfixFrom nested rounds (.call obj args) rest
    | _ => .ok (obj, tokens)

def items (nested : Parser Expr) : (rounds : Nat) → (before : List Expr) → Parser (List Expr)
  | 0, before, tokens => .ok (before.reverse, tokens)
  | rounds + 1, before, tokens =>
    match symbol? .closeBracket tokens with
    | some rest => .ok (before.reverse, rest)
    | none =>
      match nested tokens with
      | .error e => .error e
      | .ok (item, rest) =>
        match symbol? .comma rest with
        | some rest => items nested rounds (item :: before) rest
        | none => (expectSymbol .closeBracket rest).map ((item :: before).reverse, ·)

def recordKey : Parser String
  | ⟨.ident id, _⟩ :: rest => .ok (id, rest)
  | ⟨.string s, _⟩ :: rest => .ok (s, rest)
  | tokens => failHere (.notARecordKey (current tokens).lexeme) tokens

def entries (nested : Parser Expr) : (rounds : Nat) → (before : List (String × Expr)) →
    Parser (List (String × Expr))
  | 0, before, tokens => .ok (before.reverse, tokens)
  | rounds + 1, before, tokens =>
    match symbol? .closeBrace tokens with
    | some rest => .ok (before.reverse, rest)
    | none =>
      match recordKey tokens with
      | .error e => .error e
      | .ok (key, rest) =>
        if before.any (·.1 == key) then failHere (.duplicateRecordKey key) tokens
        else match expectSymbol .colon rest with
          | .error e => .error e
          | .ok rest =>
            match nested rest with
            | .error e => .error e
            | .ok (value, rest) =>
              match symbol? .comma rest with
              | some rest => entries nested rounds ((key, value) :: before) rest
              | none => (expectSymbol .closeBrace rest).map (((key, value) :: before).reverse, ·)

def ofWord (id : String) : Expr :=
  if id == "true" then .bool true
  else if id == "false" then .bool false
  else if id == "null" then .null
  else .name id

def primary (nested : Parser Expr) : Parser Expr := fun tokens =>
  match tokens with
  | ⟨.number x, _⟩ :: rest => .ok (.number x, rest)
  | ⟨.string s, _⟩ :: rest => .ok (.string s, rest)
  | ⟨.ident id, _⟩ :: rest => .ok (ofWord id, rest)
  | ⟨.symbol .openParen, _⟩ :: rest =>
    match nested rest with
    | .error e => .error e
    | .ok (inner, rest) => (expectSymbol .closeParen rest).map (inner, ·)
  | ⟨.symbol .openBracket, _⟩ :: rest =>
    (items nested (rest.length + 1) [] rest).map fun (es, rest) => (.list es, rest)
  | ⟨.symbol .openBrace, _⟩ :: rest =>
    (entries nested (rest.length + 1) [] rest).map fun (es, rest) => (.record es, rest)
  | _ => failHere (.unexpectedToken (current tokens).lexeme) tokens

def postfixed (nested : Parser Expr) : Parser Expr := fun tokens =>
  match primary nested tokens with
  | .error e => .error e
  | .ok (obj, rest) => postfixFrom nested (rest.length + 1) obj rest

def unaryOp? : List Token → Option (UnaryOp × List Token)
  | ⟨.symbol .minus, _⟩ :: rest => some (.negate, rest)
  | ⟨.symbol .plus, _⟩ :: rest => some (.plus, rest)
  | ⟨.symbol .bang, _⟩ :: rest => some (.not, rest)
  | _ => none

def unaryOver (operand nested : Parser Expr) : Parser Expr := fun tokens =>
  match unaryOp? tokens with
  | some (op, rest) => (operand rest).map fun (e, rest) => (.unary op e, rest)
  | none => postfixed nested tokens

def exprOver (nested unary : Parser Expr) : Parser Expr := fun tokens =>
  match symbol? .arrow tokens with
  | some rest => (nested rest).map fun (e, rest) => (.deferred e, rest)
  | none =>
    match binary unary binaryLevels tokens with
    | .error e => .error e
    | .ok (test, rest) =>
      match symbol? .question rest with
      | none => .ok (test, rest)
      | some rest =>
        match nested rest with
        | .error e => .error e
        | .ok (consequent, rest) =>
          match expectSymbol .colon rest with
          | .error e => .error e
          | .ok rest =>
            (nested rest).map fun (alternative, rest) => (.conditional test consequent alternative, rest)

def tooDeep : Parser Expr := failHere .nestedTooDeeply

def levels : (depth : Nat) → Parser Expr × Parser Expr
  | 0 => (tooDeep, unaryOver tooDeep tooDeep)
  | depth + 1 =>
    let (nested, unary) := levels depth
    let expr := exprOver nested unary
    (expr, unaryOver unary expr)

def expr : Parser Expr := (levels maxDepth).1

def assignments : (rounds : Nat) → (before : List Assignment) → Parser (List Assignment)
  | 0, before, tokens => .ok (before.reverse, tokens)
  | rounds + 1, before, tokens =>
    if atEnd tokens then .ok (before.reverse, tokens) else
    match expectName tokens with
    | .error e => .error e
    | .ok ((name, pos), rest) =>
      if keywords.contains name then .error ⟨.notAssignable name, pos⟩
      else match expectSymbol .assign rest with
        | .error e => .error e
        | .ok rest =>
          match expr rest with
          | .error e => .error e
          | .ok (value, rest) =>
            let before := ⟨name, value⟩ :: before
            match rest with
            | ⟨.newline, _⟩ :: rest => assignments rounds before (skipNewlines rest)
            | _ =>
              if atEnd rest then .ok (before.reverse, rest)
              else failHere (.expected .newline (current rest).lexeme) rest

end Parser

def parseExpression (s : String) : Except SyntaxError Expr := do
  let tokens ← tokenize s
  let (e, rest) ← Parser.expr tokens
  let rest := Parser.skipNewlines rest
  if Parser.atEnd rest then return e
  else .error ⟨.trailingToken (Parser.current rest).lexeme, (Parser.current rest).pos⟩

def parseScript (s : String) : Except SyntaxError Program := do
  let tokens ← tokenize s
  let (assignments, _) ← Parser.assignments tokens.length [] (Parser.skipNewlines tokens)
  return { assignments }

end DamagePlan.Script
