import DamagePlan.Decimal.Reading
import DamagePlan.Text.Entity.Table

/-!
Character references in markup: by number in decimal or hexadecimal digits, or by name. A decimal number of too many
digits cannot be read.
-/
set_option autoImplicit false

namespace DamagePlan.Text.Entity

open Decimal (IntegerTooLong readDigits)

def windowsCodes : List (Nat × Nat) := [
  (128, 0x20ac), (130, 0x201a), (131, 0x192), (132, 0x201e), (133, 0x2026), (134, 0x2020), (135, 0x2021),
  (136, 0x2c6), (137, 0x2030), (138, 0x160), (139, 0x2039), (140, 0x152), (142, 0x17d), (145, 0x2018),
  (146, 0x2019), (147, 0x201c), (148, 0x201d), (149, 0x2022), (150, 0x2013), (151, 0x2014), (152, 0x2dc),
  (153, 0x2122), (154, 0x161), (155, 0x203a), (156, 0x153), (158, 0x17e), (159, 0x178)]

def keptControls : List Nat := [9, 10, 12, 13, 129, 141, 143, 144, 157]

def isLeftOut (n : Nat) : Bool :=
  n < 32 || (0x7f ≤ n && n ≤ 0x9f) || (0xfdd0 ≤ n && n ≤ 0xfdef) || n % 0x10000 ≥ 0xfffe

def ofNumber (n : Nat) : List Char :=
  match windowsCodes.lookup n with
  | some m => [Char.ofNat m]
  | none =>
    if keptControls.contains n then [Char.ofNat n]
    else if n = 0 || (0xd800 ≤ n && n ≤ 0xdfff) || 0x10ffff < n then ['\ufffd']
    else if isLeftOut n then []
    else [Char.ofNat n]

def ofName? (name : List Char) : Option (List Char) :=
  (named.lookup (String.ofList name)).map (·.map Char.ofNat)

/-- The longest known name of at most `count` and at least two characters that begins the text, with what
it stands for, and the rest after it. -/
def longestName (name : List Char) : (count : Nat) → Option (List Char)
  | 0 | 1 => none
  | count + 2 =>
    match ofName? (name.take (count + 2)) with
    | some text => some (text ++ name.drop (count + 2))
    | none => longestName name (count + 1)

def ofName (name : List Char) : List Char :=
  match ofName? name with
  | some text => text
  | none => (longestName name (name.length - 1)).getD ('&' :: name)

def hexDigit? (c : Char) : Option Nat :=
  if isAsciiDigit c then some (c.toNat - 48)
  else if 'a' ≤ c && c ≤ 'f' then some (c.toNat - 87)
  else if 'A' ≤ c && c ≤ 'F' then some (c.toNat - 55)
  else none

def isHexDigit (c : Char) : Bool := (hexDigit? c).isSome

def isNameChar (c : Char) : Bool :=
  !(c == '\t' || c == '\n' || c == '\x0c' || c == ' ' || c == '<' || c == '&' || c == '#' || c == ';')

def semicolon : List Char → Nat
  | ';' :: _ => 1
  | _ => 0

def reference? (cs : List Char) : Except IntegerTooLong (Option (List Char × Nat)) :=
  match cs with
  | '#' :: rest =>
    let digits := rest.takeWhile isAsciiDigit
    if !digits.isEmpty then do
      let n ← readDigits digits
      return some (ofNumber n, 1 + digits.length + semicolon (rest.dropWhile isAsciiDigit))
    else match rest with
      | x :: rest =>
        let digits := rest.takeWhile isHexDigit
        if (x == 'x' || x == 'X') && !digits.isEmpty then
          let n := digits.foldl (fun n c => n * 16 + (hexDigit? c).getD 0) 0
          .ok (some (ofNumber n, 2 + digits.length + semicolon (rest.drop digits.length)))
        else .ok none
      | [] => .ok none
  | _ =>
    let name := (cs.takeWhile isNameChar).take 32
    if name.isEmpty then .ok none else
    let mark := semicolon (cs.drop name.length)
    .ok (some (ofName (cs.take (name.length + mark)), name.length + mark))

/-- Resolves references from the left; `skip` counts characters of a reference that was resolved. -/
def unescapeFrom : (skip : Nat) → List Char → Except IntegerTooLong (List Char)
  | _, [] => .ok []
  | skip + 1, _ :: rest => unescapeFrom skip rest
  | 0, c :: rest =>
    if c == '&' then do
      match ← reference? rest with
      | some (text, taken) => return text ++ (← unescapeFrom taken rest)
      | none => return c :: (← unescapeFrom 0 rest)
    else (unescapeFrom 0 rest).map (c :: ·)

def unescape (cs : List Char) : Except IntegerTooLong (List Char) := unescapeFrom 0 cs

end DamagePlan.Text.Entity
