import DamagePlan.Json.Basic
import DamagePlan.Planning.Scaling
import DamagePlan.Text.Lines

/-!
Raw records: the objects of a plan that a model wrote. A schema names the shapes of known fields; a field of
another shape counts as absent, and of a record of entries only the unfit ones do. Fields without a schema
stay.
-/
set_option autoImplicit false

namespace DamagePlan.RawRecord

inductive Shape where
  | text (least : Nat)
  | word (words : List String)
  | keys
  | integer (least most : Option Int)
  | list
  | entries (accepts : Json → Bool)

def integerOf? : Json → Option Int
  | .int n => some n
  | .float x => Decimal.integral? x
  | _ => none

def isKeyChar (c : Char) : Bool := Text.isAsciiLetter c || Text.isAsciiDigit c || c == '_'

def isKeyList (s : String) : Bool :=
  ((Text.withoutFinalNewline s.toList).splitOnP (· == ',')).all fun key => !key.isEmpty && key.all isKeyChar

def isScalar : Json → Bool
  | .int _ | .float _ | .bool _ | .str _ => true
  | _ => false

def isNumberOrText : Json → Bool
  | .int _ | .float _ | .str _ => true
  | _ => false

namespace Shape

def fit? : Shape → Json → Option Json
  | .text least, .str s => if least ≤ s.length then some (.str s) else none
  | .word words, .str s => if words.contains s then some (.str s) else none
  | .keys, .str s => if isKeyList s then some (.str s) else none
  | .integer least most, j =>
    match integerOf? j with
    | some n => if least.all (· ≤ n) && most.all (n ≤ ·) then some j else none
    | none => none
  | .list, .arr items => some (.arr items)
  | .entries accepts, .obj fields => some (.obj (fields.filter fun (_, v) => accepts v))
  | _, _ => none

end Shape

abbrev Schema := Fields Shape

def fitField? (schema : Schema) (entry : String × Json) : Option (String × Json) :=
  match schema.find? entry.1 with
  | some shape => (shape.fit? entry.2).map (entry.1, ·)
  | none => some entry

def strip (schema : Schema) (record : Fields Json) : Fields Json := record.filterMap (fitField? schema)

def planSchema : Schema := [("mainAttr", .text 0), ("defDmgKey", .text 0), ("details", .list), ("buffs", .list)]

def detailSchema : Schema := [
  ("title", .text 1), ("kind", .text 0), ("talent", .text 0), ("table", .text 1), ("key", .keys), ("ele", .text 0),
  ("stat", .word Scaling.stats), ("reaction", .text 0), ("pick", .integer (some 0) (some 10)),
  ("params", .entries isScalar), ("check", .text 0), ("cons", .integer (some 1) (some 6)), ("dmgExpr", .text 0)]

def buffSchema : Schema := [
  ("title", .text 1), ("sort", .integer none none), ("cons", .integer (some 1) (some 6)),
  ("tree", .integer (some 1) (some 10)), ("check", .text 0), ("data", .entries isNumberOrText)]

def textOf (record : Fields Json) (key : String) : String := ((record.find? key).bind Json.str?).getD ""

def givenText? (record : Fields Json) (key : String) : Option String :=
  some (Text.trim (textOf record key)) |>.filter (!·.isEmpty)

def naturalOf? (record : Fields Json) (key : String) : Option Nat :=
  ((record.find? key).bind integerOf?).map Int.toNat

def itemsOf (record : Fields Json) (key : String) : List Json :=
  match record.find? key with
  | some (.arr items) => items
  | _ => []

def entriesOf? (record : Fields Json) (key : String) : Option (Fields Json) :=
  match record.find? key with
  | some (.obj fields) => some fields
  | _ => none

end DamagePlan.RawRecord
