import DamagePlan.Json.Parser
import DamagePlan.Script.Expr

/-!
Tokens of the calculation language, and the causes of syntax errors with their wording.
-/
set_option autoImplicit false

namespace DamagePlan.Script

inductive Symbol where
  | arrow | equal | notEqual | lessEqual | greaterEqual | and | or
  | plus | minus | star | slash | percent | less | greater | bang | question | colon | dot | comma
  | openParen | closeParen | openBracket | closeBracket | openBrace | closeBrace | assign
deriving DecidableEq, Repr

namespace Symbol

def text : Symbol → String
  | .arrow => "=>" | .equal => "==" | .notEqual => "!=" | .lessEqual => "<=" | .greaterEqual => ">="
  | .and => "&&" | .or => "||"
  | .plus => "+" | .minus => "-" | .star => "*" | .slash => "/" | .percent => "%"
  | .less => "<" | .greater => ">" | .bang => "!" | .question => "?" | .colon => ":" | .dot => "."
  | .comma => "," | .openParen => "(" | .closeParen => ")" | .openBracket => "[" | .closeBracket => "]"
  | .openBrace => "\x7b" | .closeBrace => "\x7d" | .assign => "="

def ofPair? (a b : Char) : Option Symbol :=
  if a == '=' && b == '>' then some .arrow
  else if a == '=' && b == '=' then some .equal
  else if a == '!' && b == '=' then some .notEqual
  else if a == '<' && b == '=' then some .lessEqual
  else if a == '>' && b == '=' then some .greaterEqual
  else if a == '&' && b == '&' then some .and
  else if a == '|' && b == '|' then some .or
  else none

def ofChar? (c : Char) : Option Symbol :=
  if c == '+' then some .plus
  else if c == '-' then some .minus
  else if c == '*' then some .star
  else if c == '/' then some .slash
  else if c == '%' then some .percent
  else if c == '<' then some .less
  else if c == '>' then some .greater
  else if c == '!' then some .bang
  else if c == '?' then some .question
  else if c == ':' then some .colon
  else if c == '.' then some .dot
  else if c == ',' then some .comma
  else if c == '(' then some .openParen
  else if c == ')' then some .closeParen
  else if c == '[' then some .openBracket
  else if c == ']' then some .closeBracket
  else if c == '\x7b' then some .openBrace
  else if c == '\x7d' then some .closeBrace
  else if c == '=' then some .assign
  else none

def closer? : Symbol → Option Symbol
  | .openParen => some .closeParen
  | .openBracket => some .closeBracket
  | .openBrace => some .closeBrace
  | _ => none

def isCloser (s : Symbol) : Bool := s == .closeParen || s == .closeBracket || s == .closeBrace

def read? : List Char → Option (Symbol × List Char)
  | [] => none
  | [a] => (ofChar? a).map (·, [])
  | a :: b :: rest =>
    match ofPair? a b with
    | some s => some (s, rest)
    | none => (ofChar? a).map (·, b :: rest)

end Symbol

inductive Lexeme where
  | number (x : Float)
  | string (s : String)
  | ident (id : String)
  | symbol (s : Symbol)
  | newline
  | eof

structure Token where
  lexeme : Lexeme
  pos : Nat

namespace Lexeme

def kindName : Lexeme → String
  | .number _ => "NUMBER"
  | .string _ => "STRING"
  | .ident _ => "IDENT"
  | .symbol _ => "OP"
  | .newline => "NEWLINE"
  | .eof => "EOF"

def shown : Lexeme → String
  | .number x => Decimal.shortestText x
  | .string s => Text.quoted s
  | .ident id => Text.quoted id
  | .symbol s => Text.quoted s.text
  | .newline => Text.quoted "\n"
  | .eof => Text.quoted ""

def isVoid : Lexeme → Bool
  | .number x => x == 0
  | .string s => s.isEmpty
  | .eof => true
  | _ => false

def shownOrKind (l : Lexeme) : String := if l.isVoid then Text.quoted l.kindName else l.shown

end Lexeme

inductive Wanted where
  | symbol (s : Symbol)
  | ident
  | newline

def Wanted.name : Wanted → String
  | .symbol s => s.text
  | .ident => "IDENT"
  | .newline => "NEWLINE"

inductive SyntaxErrorKind where
  | invalidString (cause : Json.ParseErrorKind)
  | unterminatedString
  | malformedNumber (text : String)
  | unbalanced (closer : Symbol)
  | unexpectedCharacter (c : Char)
  | missingCloser (closer : Symbol)
  | expected (wanted : Wanted) (got : Lexeme)
  | unexpectedToken (got : Lexeme)
  | notARecordKey (got : Lexeme)
  | duplicateRecordKey (key : String)
  | notAssignable (name : String)
  | nestedTooDeeply
  | trailingToken (got : Lexeme)

structure SyntaxError where
  kind : SyntaxErrorKind
  position : Nat

def SyntaxErrorKind.message : SyntaxErrorKind → String
  | .invalidString cause => s!"Invalid string literal: {cause.message}"
  | .unterminatedString => "Unterminated string literal"
  | .malformedNumber text => s!"Malformed number {Text.quoted text}"
  | .unbalanced closer => s!"Unbalanced {Text.quoted closer.text}"
  | .unexpectedCharacter c => s!"Unexpected character {Text.quoted (String.singleton c)}"
  | .missingCloser closer => s!"Missing {Text.quoted closer.text} before end of script"
  | .expected wanted got => s!"Expected {Text.quoted wanted.name}, got {got.shownOrKind}"
  | .unexpectedToken got => s!"Unexpected token {got.shownOrKind}"
  | .notARecordKey got => s!"Expected record key, got {got.shown}"
  | .duplicateRecordKey key => s!"Duplicate record key {Text.quoted key}"
  | .notAssignable name => s!"Cannot assign to {Text.quoted name}"
  | .nestedTooDeeply => "Expression nested too deeply"
  | .trailingToken got => s!"Unexpected trailing token {got.shown}"

def SyntaxError.message (e : SyntaxError) : String := s!"{e.kind.message} (at offset {e.position})"

end DamagePlan.Script
