import DamagePlan.Decimal.Reading
import DamagePlan.Json.Basic

/-!
JSON text of a value, on one line or indented.
-/
set_option autoImplicit false

namespace DamagePlan.Json

def unicodeEscape (n : Nat) : List Char := '\\' :: 'u' :: Text.Quoted.hexDigits 4 n

def asciiEscape (n : Nat) : List Char :=
  if n < 0x10000 then unicodeEscape n
  else unicodeEscape (0xd800 + (n - 0x10000) / 0x400) ++ unicodeEscape (0xdc00 + (n - 0x10000) % 0x400)

def escapeChar (asciiOnly : Bool) (c : Char) : List Char :=
  if c == '"' || c == '\\' then ['\\', c]
  else if c == '\n' then ['\\', 'n']
  else if c == '\r' then ['\\', 'r']
  else if c == '\t' then ['\\', 't']
  else if c == '\x0c' then ['\\', 'f']
  else if c == '\x08' then ['\\', 'b']
  else if c.toNat < 32 || (asciiOnly && 127 ≤ c.toNat) then asciiEscape c.toNat
  else [c]

def stringLiteral (asciiOnly : Bool) (s : String) : List Char :=
  '"' :: s.toList.flatMap (escapeChar asciiOnly) ++ ['"']

structure Style where
  asciiOnly : Bool := false
  sortKeys : Bool := false
  indent : Option Nat := none
  itemSeparator : String := ", "
  keySeparator : String := ": "

def floatText (x : Float) : String :=
  match Decimal.Binary.ofFloat x with
  | .nan => "NaN"
  | .infinite negative => if negative then "-Infinity" else "Infinity"
  | .finite .. => Decimal.shortestText x

namespace Style

def wrap (style : Style) (level : Nat) (opening closing : String) (items : List (List Char)) : List Char :=
  if items.isEmpty then opening.toList ++ closing.toList else
  match style.indent with
  | none => opening.toList ++ style.itemSeparator.toList.intercalate items ++ closing.toList
  | some width =>
    let newline (level : Nat) : List Char := '\n' :: List.replicate (width * level) ' '
    opening.toList ++ newline (level + 1) ++ (',' :: newline (level + 1)).intercalate items
      ++ newline level ++ closing.toList

def orderFields (style : Style) (fields : List (String × List Char)) : List (List Char) :=
  let ordered := if style.sortKeys then fields.mergeSort fun a b => a.1 ≤ b.1 else fields
  ordered.map fun (k, text) => stringLiteral style.asciiOnly k ++ style.keySeparator.toList ++ text

mutual
def print (style : Style) (level : Nat) : Json → List Char
  | .null => "null".toList
  | .bool b => (if b then "true" else "false").toList
  | .int n => (Decimal.integerText n).toList
  | .float x => (floatText x).toList
  | .str s => stringLiteral style.asciiOnly s
  | .arr items => style.wrap level "[" "]" (printItems style (level + 1) items)
  | .obj fields => style.wrap level "\x7b" "\x7d" (style.orderFields (printFields style (level + 1) fields))

def printItems (style : Style) (level : Nat) : List Json → List (List Char)
  | [] => []
  | j :: js => print style level j :: printItems style level js

def printFields (style : Style) (level : Nat) : List (String × Json) → List (String × List Char)
  | [] => []
  | (k, v) :: rest => (k, print style level v) :: printFields style level rest
end

def render (style : Style) (j : Json) : String := String.ofList (style.print 0 j)

end Style

-- as in numbers: the power of the core library, whatever else is in sight
attribute [local instance (2000)] instPowNat

def isTooLong (n : Int) : Bool := 10 ^ Decimal.maxIntegerDigits ≤ n.natAbs

mutual
def holdsTooLong : Json → Bool
  | .int n => isTooLong n
  | .arr items => holdsTooLongItem items
  | .obj fields => holdsTooLongField fields
  | _ => false

def holdsTooLongItem : List Json → Bool
  | [] => false
  | j :: js => j.holdsTooLong || holdsTooLongItem js

def holdsTooLongField : List (String × Json) → Bool
  | [] => false
  | (_, v) :: rest => v.holdsTooLong || holdsTooLongField rest
end

def text (j : Json) : String := ({} : Style).render j

def asciiText (j : Json) : String := { asciiOnly := true : Style }.render j

end DamagePlan.Json
