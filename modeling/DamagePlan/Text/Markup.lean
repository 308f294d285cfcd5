import DamagePlan.Json.Basic
import DamagePlan.Text.Entity
import DamagePlan.Text.Blank

/-!
Plain text of names, hints and descriptions that come with markup.
-/
set_option autoImplicit false

namespace DamagePlan.Text

open Decimal (IntegerTooLong)

def dropTagsFrom : (skip : Nat) → List Char → List Char
  | _, [] => []
  | skip + 1, _ :: rest => dropTagsFrom skip rest
  | 0, c :: rest =>
    let inside := rest.takeWhile (· != '>')
    if c == '<' && !inside.isEmpty && inside.length < rest.length then dropTagsFrom (inside.length + 1) rest
    else c :: dropTagsFrom 0 rest

def breakMarks : List Char → List Char
  | '\\' :: 'n' :: rest => ' ' :: breakMarks rest
  | c :: rest => c :: breakMarks rest
  | [] => []

def collapseBlanks : List Char → List Char
  | [] => []
  | c :: rest =>
    if isBlank c then
      let more := collapseBlanks rest
      if more.head? = some ' ' then more else ' ' :: more
    else c :: collapseBlanks rest

def tidy (cs : List Char) : String := String.ofList (trimList (collapseBlanks (breakMarks cs)))

def normalizeMarkup (s : String) : Except IntegerTooLong String := (Entity.unescape (dropTagsFrom 0 s.toList)).map tidy

def decorations : List Char :=
  "·!?！？…-_—–()（）【】[]「」『』《》〈〉“”‘’\"'".toList

def withoutDecoration (s : String) : String :=
  String.ofList (s.toList.filter fun c => !isBlank c && !decorations.contains c)

def compact (s : String) : Except IntegerTooLong String := (normalizeMarkup s).map withoutDecoration

def cut (most : Int) (s : String) : String :=
  if (s.length : Int) ≤ most then s
  else String.ofList (dropEndWhile isBlank (s.toList.take (most - 1).toNat)) ++ "…"

def shorten (s : String) (most : Int) : Except IntegerTooLong String := (normalizeMarkup s).map (cut most)

def stripTableSuffix (s : String) : String :=
  if s.toList.getLast? = some '2' then String.ofList s.toList.dropLast else s

def ofJson : Json → String
  | .null => ""
  | .arr items => " ".intercalate ((items.filter (!·.isNull)).map Json.plain)
  | j => j.plain

end DamagePlan.Text
