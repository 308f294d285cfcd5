import DamagePlan.Json.Parser
import DamagePlan.Text.Blank

/-!
Replies of a model: the JSON object in a text that may hold prose around it, or a code fence.
-/
set_option autoImplicit false

namespace DamagePlan.Reply

inductive ReplyError where
  | noObject
  | malformed (e : Json.ParseError)
  | integerTooLong (e : Decimal.IntegerTooLong)

namespace ReplyError

def ofParseError (e : Json.ParseError) : ReplyError :=
  match e.kind with
  | .integerTooLong e => .integerTooLong e
  | _ => .malformed e

def message : ReplyError → String
  | .noObject => "model output does not contain a JSON object"
  | .malformed e => s!"failed to parse model JSON output: {e.kind.message} at char {e.offset}"
  | .integerTooLong e => e.message

def isExpected : ReplyError → Bool
  | .integerTooLong _ => false
  | .noObject | .malformed _ => true

end ReplyError

def afterFence? : List Char → Option (List Char)
  | '\x60' :: '\x60' :: '\x60' :: rest => some rest
  | _ :: rest => afterFence? rest
  | [] => none

def beforeFence? : List Char → Option (List Char)
  | '\x60' :: '\x60' :: '\x60' :: _ => some []
  | c :: rest => (beforeFence? rest).map (c :: ·)
  | [] => none

def dropLanguage : List Char → List Char
  | 'j' :: 's' :: 'o' :: 'n' :: rest => rest
  | 'J' :: 'S' :: 'O' :: 'N' :: rest => rest
  | cs => cs

def fenced? (cs : List Char) : Option (List Char) :=
  ((afterFence? cs).bind beforeFence?).map fun inside => (dropLanguage inside).dropWhile Text.isBlank

def braced? (cs : List Char) : Option (List Char) :=
  let from_ := cs.dropWhile (· != '\x7b')
  let upTo := Text.dropEndWhile (· != '\x7d') from_
  if upTo.isEmpty then none else some upTo

def objectOf (text : String) : Except ReplyError (Fields Json) :=
  let body := (fenced? text.toList).getD text.toList
  match braced? body with
  | none => .error .noObject
  | some cs =>
    match Json.parseList cs with
    | .error e => .error (.ofParseError e)
    | .ok (.obj fields) => .ok fields
    | .ok _ => .error .noObject

end DamagePlan.Reply
