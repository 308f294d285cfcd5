import DamagePlan.Text.Markup
import DamagePlan.Text.Pattern

/-!
Counts of hits and repetitions that descriptions state.
-/
set_option autoImplicit false

namespace DamagePlan.HitCount

open Text
open Decimal (IntegerTooLong)

def repeatMarker : Pattern :=
  let count : Pattern := .mark 1 (.digits 1 (some 2))
  .either
    (.sequence [.anyText ["可重复", "重复"], .blanks, count, .blanks, .text "次"])
    (.sequence [.text "repeat", .optional (.text "s"), .optional (.text "ed"), .blanks, count, .blanks,
      .text "time"])

def markedNumber? (p : Pattern) (text : String) : Option Nat := do
  let place ← p.search? text
  readNat? (← place.mark? 1).toList

def repeatsIn (text : String) : Nat :=
  match markedNumber? repeatMarker text with
  | some n => if 2 ≤ n && n ≤ 6 then n else 1
  | none => 1

def repeats (description : String) : Except IntegerTooLong Nat := (normalizeMarkup description).map repeatsIn

def hanUnit : Pattern := .anyText ["次", "段", "枚"]

def englishUnit : Pattern :=
  .anyOf [.text "hits", .text "hit", .text "times", .text "instances", .text "waves"]

def wordings (name : Pattern) : List Pattern :=
  let count : Pattern := .mark 1 (.digits 1 (some 3))
  let filler (most : Nat) : Pattern := .run (fun c => !isDecimalDigit c) 0 (some most)
  [ .sequence [count, .blanks, hanUnit, .blanks, name],
    .sequence [name, filler 16, count, .blanks, hanUnit],
    .sequence [count, .blanks, englishUnit, .run isBlank 1 none, .text "of", .run isBlank 1 none, name],
    .sequence [name, filler 24, count, .blanks, englishUnit] ]

def nextTo? (text name : String) : Option Nat :=
  let name := trim name
  if name.length < 2 then none else
  match (wordings (.text name)).findSome? (markedNumber? · text) with
  | some n => if 2 ≤ n && n ≤ 60 then some n else none
  | none => none

def ofName? (description name : String) : Except IntegerTooLong (Option Nat) :=
  (normalizeMarkup description).map (nextTo? · name)

def tableToken (table : String) : String :=
  trim ((Pattern.anyOf [.text "伤害", .word "dmg", .word "damage"]).replaceAll "" (stripTableSuffix table))

end DamagePlan.HitCount
