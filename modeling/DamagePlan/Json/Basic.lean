import DamagePlan.Decimal.Shortest
import DamagePlan.Text.Quoted

/-!
JSON values. Integers and floating-point numbers stay apart, and an object keeps the order of its keys.
-/
set_option autoImplicit false

namespace DamagePlan

inductive Json where
  | null
  | bool (b : Bool)
  | int (n : Int)
  | float (x : Float)
  | str (s : String)
  | arr (items : List Json)
  | obj (fields : List (String × Json))

instance : Inhabited Json := ⟨.null⟩

abbrev Fields (α : Type) := List (String × α)

namespace Fields

variable {α : Type}

def find? (fields : Fields α) (key : String) : Option α := List.lookup key fields

def keys (fields : Fields α) : List String := fields.map (·.1)

def contains (fields : Fields α) (key : String) : Bool := fields.any (·.1 == key)

def insert (key : String) (value : α) : Fields α → Fields α
  | [] => [(key, value)]
  | (k, v) :: rest => if k == key then (key, value) :: rest else (k, v) :: insert key value rest

def ofList (entries : List (String × α)) : Fields α :=
  entries.foldl (fun fields (k, v) => insert k v fields) []

def present (fields : List (String × Option α)) : Fields α := fields.filterMap fun (k, v) => v.map (k, ·)

def erase (key : String) (fields : Fields α) : Fields α := fields.filter (·.1 != key)

end Fields

namespace Json

def field? (key : String) : Json → Option Json
  | .obj fields => Fields.find? fields key
  | _ => none

def get (key : String) (j : Json) : Json := (j.field? key).getD .null

def str? : Json → Option String
  | .str s => some s
  | _ => none

def ofNat (n : Nat) : Json := .int n

def ofTexts (texts : List String) : Json := .arr (texts.map .str)

def ofFields {α : Type} (toJson : α → Json) (fields : Fields α) : Json := .obj (fields.map fun (k, v) => (k, toJson v))

def isNull : Json → Bool
  | .null => true
  | _ => false

mutual
def display : Json → String
  | .null => "None"
  | .bool b => if b then "True" else "False"
  | .int n => Decimal.integerText n
  | .float x => Decimal.shortestText x
  | .str s => Text.quoted s
  | .arr items => "[" ++ ", ".intercalate (displayItems items) ++ "]"
  | .obj fields => "\x7b" ++ ", ".intercalate (displayFields fields) ++ "\x7d"

def displayItems : List Json → List String
  | [] => []
  | j :: js => display j :: displayItems js

def displayFields : List (String × Json) → List String
  | [] => []
  | (k, v) :: rest => (Text.quoted k ++ ": " ++ display v) :: displayFields rest
end

def plain : Json → String
  | .str s => s
  | j => j.display

end Json

end DamagePlan
