import DamagePlan.Json.Basic
import DamagePlan.Decimal.Reading

/-!
Reading JSON text. A failure carries its kind and the offset where it was noticed. The words for
not-a-number and the infinities are accepted, and of a repeated key the last value counts.
-/
set_option autoImplicit false

namespace DamagePlan.Json

inductive ParseErrorKind where
  | expectingValue
  | expectingPropertyName
  | expectingColon
  | expectingComma
  | extraData
  | controlCharacter
  | invalidEscape
  | invalidUnicodeEscape
  | unterminatedString
  | byteOrderMark
  | integerTooLong (e : Decimal.IntegerTooLong)
deriving DecidableEq

def ParseErrorKind.message : ParseErrorKind → String
  | .expectingValue => "Expecting value"
  | .expectingPropertyName => "Expecting property name enclosed in double quotes"
  | .expectingColon => "Expecting ':' delimiter"
  | .expectingComma => "Expecting ',' delimiter"
  | .extraData => "Extra data"
  | .controlCharacter => "Invalid control character at"
  | .invalidEscape => "Invalid \\escape"
  | .invalidUnicodeEscape => "Invalid \\uXXXX escape"
  | .unterminatedString => "Unterminated string starting at"
  | .byteOrderMark => "Unexpected UTF-8 BOM (decode using utf-8-sig)"
  | .integerTooLong e => e.message

structure ParseError where
  kind : ParseErrorKind
  offset : Nat
deriving DecidableEq

def ParseError.isOfNumber (e : ParseError) : Bool :=
  match e.kind with
  | .integerTooLong _ => true
  | _ => false

def ParseError.message (e : ParseError) (source : List Char) : String :=
  let read := source.take e.offset
  let line := read.count '\n' + 1
  let column := (read.reverse.takeWhile (· != '\n')).length + 1
  match e.kind with
  | .integerTooLong number => number.message
  | kind => s!"{kind.message}: line {line} column {column} (char {e.offset})"

structure Read (α : Type) where
  value : α
  rest : List Char
  offset : Nat

abbrev Result (α : Type) := Except ParseError (Read α)

def fail {α : Type} (kind : ParseErrorKind) (offset : Nat) : Result α := .error ⟨kind, offset⟩

def isSpace (c : Char) : Bool := c == ' ' || c == '\t' || c == '\n' || c == '\r'

def skipSpace : List Char → Nat → List Char × Nat
  | [], pos => ([], pos)
  | c :: cs, pos => if isSpace c then skipSpace cs (pos + 1) else (c :: cs, pos)

def hexValue? (c : Char) : Option Nat :=
  if '0' ≤ c && c ≤ '9' then some (c.toNat - 48)
  else if 'a' ≤ c && c ≤ 'f' then some (c.toNat - 87)
  else if 'A' ≤ c && c ≤ 'F' then some (c.toNat - 55)
  else none

def hex4? (a b c d : Char) : Option Nat := do
  return (← hexValue? a) * 4096 + (← hexValue? b) * 256 + (← hexValue? c) * 16 + (← hexValue? d)

def simpleEscape? (c : Char) : Option Char :=
  if c == '"' || c == '\\' || c == '/' then some c
  else if c == 'b' then some '\x08'
  else if c == 'f' then some '\x0c'
  else if c == 'n' then some '\n'
  else if c == 'r' then some '\r'
  else if c == 't' then some '\t'
  else none

def unitChar (n : Nat) : Char := if 0xd800 ≤ n && n ≤ 0xdfff then '\ufffd' else Char.ofNat n

def pushUnit (high : Option Nat) (unit : Nat) (taken : List Char) : List Char :=
  match high with
  | some first =>
    if 0xdc00 ≤ unit && unit ≤ 0xdfff then
      Char.ofNat (0x10000 + (first - 0xd800) * 0x400 + (unit - 0xdc00)) :: taken.tail
    else unitChar unit :: taken
  | none => unitChar unit :: taken

/-- Reads string contents up to the closing quote. `start` is the offset of the opening quote, `pos` that
of the rest, `high` the first half of a pair right before it, and `taken` holds the characters so far in
reverse. A unicode escape needs a character after its digits. -/
def stringRest (start : Nat) : (high : Option Nat) → (taken : List Char) → List Char → (pos : Nat) → Result String
  | _, _, [], _ => fail .unterminatedString start
  | _, taken, '"' :: rest, pos => .ok ⟨String.ofList taken.reverse, rest, pos + 1⟩
  | _, _, ['\\'], _ => fail .unterminatedString start
  | high, taken, '\\' :: 'u' :: a :: b :: c :: d :: e :: rest, pos =>
    match hex4? a b c d with
    | none => fail .invalidUnicodeEscape (pos + 1)
    | some unit =>
      stringRest start (if 0xd800 ≤ unit && unit ≤ 0xdbff then some unit else none)
        (pushUnit high unit taken) (e :: rest) (pos + 6)
  | _, taken, '\\' :: c :: rest, pos =>
    if c == 'u' then fail .invalidUnicodeEscape (pos + 1)
    else match simpleEscape? c with
      | some escaped => stringRest start none (escaped :: taken) rest (pos + 2)
      | none => fail .invalidEscape pos
  | _, taken, c :: rest, pos =>
    if c.toNat < 32 then fail .controlCharacter pos
    else stringRest start none (c :: taken) rest (pos + 1)
termination_by _ _ cs => cs.length

def integerPart? : List Char → Option (List Char × List Char)
  | '0' :: rest => some (['0'], rest)
  | cs => match Decimal.spanDigits cs with
    | ([], _) => none
    | split => some split

def fractionPart : List Char → List Char × List Char
  | '.' :: cs => match Decimal.spanDigits cs with
    | ([], _) => ([], '.' :: cs)
    | split => split
  | cs => ([], cs)

def number? (cs : List Char) : Option (Except Decimal.IntegerTooLong Json × List Char) :=
  let (negative, unsigned) := match cs with
    | '-' :: rest => (true, rest)
    | _ => (false, cs)
  match integerPart? unsigned with
  | none => none
  | some (whole, rest) =>
    let (fraction, rest) := fractionPart rest
    let (exponent, final) := Decimal.readExponent rest
    if fraction.isEmpty && final.length == rest.length then
      some ((Decimal.readDigits whole).map fun n => .int (if negative then -(n : Int) else n), final)
    else
      some (.ok (.float (Decimal.ofDecimal negative (Decimal.digitsValue (whole ++ fraction))
        (exponent - fraction.length))), final)

def words : List (String × Json) := [
  ("null", .null), ("true", .bool true), ("false", .bool false), ("NaN", .float Decimal.notANumber),
  ("Infinity", .float Decimal.infinity), ("-Infinity", .float (-Decimal.infinity))]

def dropPrefix? : (word : List Char) → List Char → Option (List Char)
  | [], rest => some rest
  | _ :: _, [] => none
  | w :: ws, c :: cs => if w == c then dropPrefix? ws cs else none

def scalar (cs : List Char) (pos : Nat) : Result Json :=
  let word := words.findSome? fun (w, v) =>
    (dropPrefix? w.toList cs).map fun rest => (⟨v, rest, pos + w.length⟩ : Read Json)
  match word with
  | some read => .ok read
  | none => match number? cs with
    | some (.ok v, rest) => .ok ⟨v, rest, pos + (cs.length - rest.length)⟩
    | some (.error e, _) => fail (.integerTooLong e) pos
    | none => fail .expectingValue pos

mutual
/-- A value at the start of the text. Every nested value takes at least one character, so twice the length of
the text bounds `depth`. -/
def value : (depth : Nat) → List Char → (pos : Nat) → Result Json
  | 0, _, pos => fail .expectingValue pos
  | _ + 1, [], pos => fail .expectingValue pos
  | depth + 1, c :: cs, pos =>
    if c == '"' then (stringRest pos none [] cs (pos + 1)).map fun s => ⟨.str s.value, s.rest, s.offset⟩
    else if c == '[' then
      match skipSpace cs (pos + 1) with
      | (']' :: rest, at_) => .ok ⟨.arr [], rest, at_ + 1⟩
      | (rest, at_) => elements depth [] rest at_
    else if c == '\x7b' then
      match skipSpace cs (pos + 1) with
      | ('\x7d' :: rest, at_) => .ok ⟨.obj [], rest, at_ + 1⟩
      | (rest, at_) => members depth [] rest at_
    else scalar (c :: cs) pos

def elements : (depth : Nat) → (before : List Json) → List Char → (pos : Nat) → Result Json
  | 0, _, _, pos => fail .expectingValue pos
  | depth + 1, before, cs, pos =>
    match value depth cs pos with
    | .error e => .error e
    | .ok item =>
      match skipSpace item.rest item.offset with
      | (']' :: rest, at_) => .ok ⟨.arr (item.value :: before).reverse, rest, at_ + 1⟩
      | (',' :: rest, at_) =>
        let (rest, next) := skipSpace rest (at_ + 1)
        elements depth (item.value :: before) rest next
      | (_, at_) => fail .expectingComma at_

def members : (depth : Nat) → (before : List (String × Json)) → List Char → (pos : Nat) → Result Json
  | 0, _, _, pos => fail .expectingPropertyName pos
  | depth + 1, before, cs, pos =>
    match cs with
    | '"' :: cs =>
      match stringRest pos none [] cs (pos + 1) with
      | .error e => .error e
      | .ok key =>
        match skipSpace key.rest key.offset with
        | (':' :: rest, at_) =>
          let (rest, next) := skipSpace rest (at_ + 1)
          match value depth rest next with
          | .error e => .error e
          | .ok item =>
            let fields := (key.value, item.value) :: before
            match skipSpace item.rest item.offset with
            | ('\x7d' :: rest, at_) => .ok ⟨.obj (Fields.ofList fields.reverse), rest, at_ + 1⟩
            | (',' :: rest, at_) =>
              let (rest, next) := skipSpace rest (at_ + 1)
              members depth fields rest next
            | (_, at_) => fail .expectingComma at_
        | (_, at_) => fail .expectingColon at_
    | _ => fail .expectingPropertyName pos
end

def parseList (cs : List Char) : Except ParseError Json :=
  match cs with
  | '\ufeff' :: _ => .error ⟨.byteOrderMark, 0⟩
  | _ =>
    let (start, pos) := skipSpace cs 0
    match value (2 * cs.length + 2) start pos with
    | .error e => .error e
    | .ok read =>
      match skipSpace read.rest read.offset with
      | ([], _) => .ok read.value
      | (_, at_) => .error ⟨.extraData, at_⟩

def parse (s : String) : Except ParseError Json := parseList s.toList

end DamagePlan.Json
