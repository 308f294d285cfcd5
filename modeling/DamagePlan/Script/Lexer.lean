import DamagePlan.Script.Token

/-!
Splitting script text into tokens. A newline ends an assignment and is a token only outside brackets and
only after another token; a number sign starts a comment that runs to the end of its line.
-/
set_option autoImplicit false

namespace DamagePlan.Script

open Text

def spanString : List Char → Option (List Char × List Char)
  | [] => none
  | ['\\'] => none
  | '\\' :: c :: rest => (spanString rest).map fun (inside, rest) => ('\\' :: c :: inside, rest)
  | '"' :: rest => some (['"'], rest)
  | c :: rest => if c == '\n' then none else (spanString rest).map fun (inside, rest) => (c :: inside, rest)

def readString (cs : List Char) (pos : Nat) : Except SyntaxError (String × List Char × Nat) :=
  match spanString cs with
  | none => .error ⟨.unterminatedString, pos⟩
  | some (inside, rest) =>
    match Json.stringRest 0 none [] inside 1 with
    | .error e => .error ⟨.invalidString e.kind, pos⟩
    | .ok read => .ok (read.value, rest, inside.length + 1)

def spanFraction : List Char → List Char × List Char
  | '.' :: cs =>
    match Decimal.spanDigits cs with
    | ([], _) => ([], '.' :: cs)
    | (digits, rest) => ('.' :: digits, rest)
  | cs => ([], cs)

def spanExponent : List Char → List Char × List Char
  | [] => ([], [])
  | mark :: rest =>
    if mark == 'e' || mark == 'E' then
      let (sign, digitsFrom) := match rest with
        | '+' :: cs => (['+'], cs)
        | '-' :: cs => (['-'], cs)
        | cs => ([], cs)
      match Decimal.spanDigits digitsFrom with
      | ([], _) => ([], mark :: rest)
      | (digits, rest) => (mark :: sign ++ digits, rest)
    else ([], mark :: rest)

def spanNumber (cs : List Char) : List Char × List Char :=
  let (whole, rest) := Decimal.spanDigits cs
  let (fraction, rest) := spanFraction rest
  let (exponent, rest) := spanExponent rest
  (whole ++ fraction ++ exponent, rest)

def readNumber (cs : List Char) (pos : Nat) : Except SyntaxError (Float × List Char × Nat) :=
  let (taken, rest) := spanNumber cs
  let malformed := rest.head?.any fun c => isLetter c || c == '_'
  if malformed then .error ⟨.malformedNumber (String.ofList (taken ++ rest.take 1)), pos⟩
  else .ok ((Decimal.readUnsigned? false taken).getD 0, rest, taken.length)

def startsNumber : List Char → Bool
  | c :: rest => isAsciiDigit c || (c == '.' && rest.head?.any isAsciiDigit)
  | [] => false

def startsName (c : Char) : Bool := isLetter c || c == '_' || c == '$'

def continuesName (c : Char) : Bool := isLetterOrNumeral c || c == '_' || c == '$'

def readLexeme (cs : List Char) (pos : Nat) : Except SyntaxError (Lexeme × List Char × Nat) :=
  match cs with
  | [] => .ok (.eof, [], 0)
  | c :: rest =>
    if c == '"' then (readString rest pos).map fun (s, rest, n) => (.string s, rest, n)
    else if startsNumber (c :: rest) then
      (readNumber (c :: rest) pos).map fun (x, rest, n) => (.number x, rest, n)
    else if startsName c then
      let more := rest.takeWhile continuesName
      .ok (.ident (String.ofList (c :: more)), rest.dropWhile continuesName, more.length + 1)
    else match Symbol.read? (c :: rest) with
      | some (s, after) => .ok (.symbol s, after, s.text.length)
      | none => .error ⟨.unexpectedCharacter c, pos⟩

def owedAfter (closers : List Symbol) (lexeme : Lexeme) (pos : Nat) : Except SyntaxError (List Symbol) :=
  match lexeme with
  | .symbol s =>
    match s.closer? with
    | some closer => .ok (closer :: closers)
    | none =>
      if s.isCloser then
        match closers with
        | [] => .error ⟨.unbalanced s, pos⟩
        | owed :: rest => if owed = s then .ok rest else .error ⟨.unbalanced s, pos⟩
      else .ok closers
  | _ => .ok closers

def isLayoutBlank (c : Char) : Bool := c == ' ' || c == '\t' || c == '\r'

/-- Tokens from an offset on. `closers` are the brackets owed, the innermost first; `lineOpen` says that a
token of the present line came before. Every round takes a character, so `fuel` is the text's length. -/
def scan : (fuel : Nat) → List Char → (pos : Nat) → (closers : List Symbol) → (lineOpen : Bool) →
    Except SyntaxError (List Token)
  | _, [], pos, closers, lineOpen =>
    match closers with
    | owed :: _ => .error ⟨.missingCloser owed, pos⟩
    | [] => .ok (if lineOpen then [⟨.newline, pos⟩, ⟨.eof, pos⟩] else [⟨.eof, pos⟩])
  | 0, _ :: _, pos, _, _ => .ok [⟨.eof, pos⟩]
  | fuel + 1, c :: rest, pos, closers, lineOpen =>
    if c == '#' then
      let comment := rest.takeWhile (· != '\n')
      scan fuel (rest.dropWhile (· != '\n')) (pos + 1 + comment.length) closers lineOpen
    else if c == '\n' then
      if closers.isEmpty && lineOpen then
        (scan fuel rest (pos + 1) closers false).map (⟨.newline, pos⟩ :: ·)
      else scan fuel rest (pos + 1) closers lineOpen
    else if isLayoutBlank c then scan fuel rest (pos + 1) closers lineOpen
    else
      match readLexeme (c :: rest) pos with
      | .error e => .error e
      | .ok (lexeme, after, taken) =>
        match owedAfter closers lexeme pos with
        | .error e => .error e
        | .ok owed => (scan fuel after (pos + taken) owed true).map (⟨lexeme, pos⟩ :: ·)

def tokenizeList (cs : List Char) : Except SyntaxError (List Token) := scan cs.length cs 0 [] false

def tokenize (s : String) : Except SyntaxError (List Token) := tokenizeList s.toList

end DamagePlan.Script
