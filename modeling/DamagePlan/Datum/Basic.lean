import DamagePlan.Datum.Moment
import DamagePlan.Json.Basic

/-!
Data as documents hold them: JSON values, and beside these moments and keys that are no texts.
-/
set_option autoImplicit false

namespace DamagePlan

inductive Scalar where
  | null
  | bool (b : Bool)
  | int (n : Int)
  | float (x : Float)
  | text (s : String)
  | moment (m : Moment)

namespace Scalar

def number? : Scalar → Option Json
  | .bool b => some (.int (if b then 1 else 0))
  | .int n => some (.int n)
  | .float x => some (match Decimal.integral? x with
    | some n => .int n
    | none => .float x)
  | _ => none

def sameKey : Scalar → Scalar → Bool
  | .null, .null => true
  | .text s, .text t => s == t
  | .moment m, .moment n => m.isSame n
  | k, l => match k.number?, l.number? with
    | some (.int m), some (.int n) => m == n
    | some (.float x), some (.float y) => x == y
    | _, _ => false

def text? : Scalar → Option String
  | .text s => some s
  | _ => none

def shown : Scalar → String
  | .null => "None"
  | .bool b => if b then "1" else "0"
  | .int n => Decimal.integerText n
  | .float x => Decimal.shortestText x
  | .text s => s
  | .moment m => m.shown

def kindName : Scalar → String
  | .null => "NoneType"
  | .bool _ => "bool"
  | .int _ => "int"
  | .float _ => "float"
  | .text _ => "str"
  | .moment m => m.kindName

def toJson : Scalar → Json
  | .null => .null
  | .bool b => .bool b
  | .int n => .int n
  | .float x => .float x
  | .text s => .str s
  | .moment m => .str m.shown

def toKey : Scalar → String
  | .null => "null"
  | .bool b => if b then "true" else "false"
  | k => k.shown

end Scalar

inductive Datum where
  | scalar (s : Scalar)
  | list (items : List Datum)
  | mapping (entries : List (Scalar × Datum))

namespace Datum

instance : Inhabited Datum := ⟨.scalar .null⟩

def insertEntry (key : Scalar) (value : Datum) : List (Scalar × Datum) → List (Scalar × Datum)
  | [] => [(key, value)]
  | (k, v) :: rest => if k.sameKey key then (k, value) :: rest else (k, v) :: insertEntry key value rest

def namedEntries (entries : List (Scalar × Datum)) : Fields Datum :=
  entries.filterMap fun (k, v) => k.text?.map (·, v)

def kindName : Datum → String
  | .scalar s => s.kindName
  | .list _ => "list"
  | .mapping _ => "dict"

mutual
def ofJson : Json → Datum
  | .null => .scalar .null
  | .bool b => .scalar (.bool b)
  | .int n => .scalar (.int n)
  | .float x => .scalar (.float x)
  | .str s => .scalar (.text s)
  | .arr items => .list (ofJsonList items)
  | .obj fields => .mapping (ofJsonFields fields)

def ofJsonList : List Json → List Datum
  | [] => []
  | j :: js => ofJson j :: ofJsonList js

def ofJsonFields : List (String × Json) → List (Scalar × Datum)
  | [] => []
  | (k, j) :: rest => (.text k, ofJson j) :: ofJsonFields rest
end

mutual
def toJson : Datum → Json
  | .scalar s => s.toJson
  | .list items => .arr (toJsonList items)
  | .mapping entries => .obj (toJsonFields entries)

def toJsonList : List Datum → List Json
  | [] => []
  | d :: ds => toJson d :: toJsonList ds

def toJsonFields : List (Scalar × Datum) → List (String × Json)
  | [] => []
  | (k, d) :: rest => (k.toKey, toJson d) :: toJsonFields rest
end

end Datum

end DamagePlan
