import DamagePlan.Kit.Basic
import DamagePlan.Text.Markup
import DamagePlan.Text.Pattern

/-!
Which stat a table scales with, and how the parts of a table with several values combine, from unit hints,
value texts and descriptions.
-/
set_option autoImplicit false

namespace DamagePlan.Scaling

open Text
open Decimal (IntegerTooLong IntegerFault)

def stats : List String := ["atk", "def", "hp", "mastery"]

def masteryMarker : Pattern := .anyOf [.anyText ["元素精通", "精通", "elemental mastery", "mastery"], .word "em"]

def healthMarker : Pattern :=
  .anyOf [.anyText ["生命上限", "生命值上限", "最大生命值", "生命值"], .word "max hp", .word "hp"]

def defenseMarker : Pattern := .anyOf [.text "防御力", .word "def", .text "defense"]

def attackMarker : Pattern := .anyOf [.anyText ["攻击力", "攻击"], .word "atk", .text "attack"]

def statOfText? (s : String) : Option String :=
  if masteryMarker.occursIn s then some "mastery"
  else if healthMarker.occursIn s then some "hp"
  else if defenseMarker.occursIn s then some "def"
  else if attackMarker.occursIn s then some "atk"
  else none

def near (parts : List (Pattern × Nat)) (last : Pattern) : Pattern :=
  parts.foldr (fun (p, most) rest => .seq p (.seq (.gap 0 (some most)) rest)) last

def basedOn : Pattern := .anyText ["基于", "根据"]

def raisesOrDeals : Pattern := .anyText ["提升", "造成"]

def damageWording : List (String × Pattern) := [
  ("hp", .anyOf [
    near [(basedOn, 12), (.text "生命值", 12)] (.text "伤害"),
    near [(.text "生命值上限", 8), (raisesOrDeals, 12)] (.text "伤害"),
    near [(.text "based on ", 24)] (.text "max hp"),
    near [(.text "dmg ", 24)] (.text "max hp")]),
  ("def", .anyOf [
    near [(basedOn, 12), (.text "防御力", 12)] (.text "伤害"),
    near [(.text "防御力", 8), (raisesOrDeals, 12)] (.text "伤害"),
    near [(.text "based on ", 24)] (.text "def"),
    near [(.text "dmg ", 24)] (.word "def")]),
  ("mastery", .anyOf [
    near [(basedOn, 12), (.text "元素精通", 12)] (.text "伤害"),
    near [(.text "based on ", 24)] (.text "elemental mastery")])]

def statOfDescription? (description : String) : Except IntegerTooLong (Option String) := do
  let text ← normalizeMarkup description
  return (damageWording.find? fun (_, wording) => wording.occursIn text).map (·.1)

def isPercentSign (c : Char) : Bool := c == '%' || c == '％'

def isPlusSign (c : Char) : Bool := c == '+' || c == '＋'

def hasPercent (s : String) : Bool := s.toList.any isPercentSign

def hasPlus (s : String) : Bool := s.toList.any isPlusSign

def entryOf (entries : Fields (Fields String)) (talent table : String) : String :=
  let named := (entries.find? talent).getD []
  match named.find? table with
  | some text => if text.isEmpty then (named.find? (stripTableSuffix table)).getD "" else text
  | none => (named.find? (stripTableSuffix table)).getD ""

def unitOf (kit : Kit) (talent table : String) : Except IntegerTooLong String :=
  normalizeMarkup (entryOf kit.units talent table)

def textSampleOf (kit : Kit) (talent table : String) : Except IntegerTooLong String :=
  normalizeMarkup (entryOf kit.textSamples talent table)

/-- The stat that a table's unit or else its value text tells, or attack where the description has no say. A unit does
not count for a sum whose text speaks of attack. -/
def statOfHints? (game : Game) (talent unit sample : String) : Option String :=
  let unitStat := statOfText? unit
  let mixed := unitStat.isSome && unitStat != some "atk" && hasPlus sample && statOfText? sample = some "atk"
  let hinted := !unit.isEmpty || !sample.isEmpty
  let plain := (game = .gs && !hinted) || hasPercent unit || hasPercent sample || (game = .gs && talent == "a")
  ((if mixed then none else unitStat).or (statOfText? sample)).or (if plain then some "atk" else none)

def damageStat (kit : Kit) (talent table : String) : Except IntegerTooLong String := do
  let unit ← unitOf kit talent table
  let sample ← textSampleOf kit talent table
  match statOfHints? kit.game talent unit sample with
  | some stat => return stat
  | none => return (← statOfDescription? ((kit.descriptions.find? talent).getD "")).getD "atk"

def healHealthMarker : Pattern := .anyText ["生命值上限", "最大生命值", "max hp"]

def healDefenseMarker : Pattern := .anyOf [.text "防御力", .word "def"]

def healAttackMarker : Pattern := .anyOf [.text "攻击力", .word "atk"]

def supportStatOfDescription (text : String) : String :=
  if healHealthMarker.occursIn text then "hp"
  else if healDefenseMarker.occursIn text then "def"
  else if healAttackMarker.occursIn text then "atk"
  else "hp"

def supportStat (kit : Kit) (talent table : String) : Except IntegerTooLong String := do
  match statOfText? (← unitOf kit talent table) with
  | some stat => return stat
  | none =>
    match statOfText? (← textSampleOf kit talent table) with
    | some stat => return stat
    | none => (normalizeMarkup ((kit.descriptions.find? talent).getD "")).map supportStatOfDescription

inductive Schema where
  | statStat (first second : String)
  | statFlat (stat : String)
  | statTimes (stat : String)
  | percentList (stat : String)
deriving DecidableEq, Repr

def plusParts (s : String) : List String :=
  (((s.toList.splitOnP isPlusSign).map fun cs => trim (String.ofList cs)).filter (!·.isEmpty))

def timesMarker : Pattern :=
  .sequence [.one fun c => c == '*' || c == '×' || c == 'x' || c == 'X', .blanks, .digits 1 none]

def hitCount (sample : Json) : Except Decimal.IntegerTooLarge (Option Nat) := do
  let count : Option Int ← match sample with
    | .arr (_ :: .int n :: _) => (Decimal.ofInteger n).map fun _ => some n
    | .arr (_ :: .float x :: _) => .ok (Decimal.integral? x)
    | .arr (_ :: .bool b :: _) => .ok (some (if b then 1 else 0))
    | _ => .ok none
  return (count.filter fun n => decide (1 < n) && decide (n ≤ 20)).map Int.toNat

def percentSchema (unitStat : Option String) (parts : List String) : Option Schema :=
  let found := parts.filterMap statOfText?
  let stat := found.head?.getD "atk"
  if !found.all (· == stat) then none else
  let pair := match parts, unitStat with
    | [p, q], some unit =>
      match statOfText? p, statOfText? q with
      | some first, none => if unit == first then none else some (Schema.statStat first unit)
      | none, some second => if unit == second then none else some (.statStat unit second)
      | _, _ => none
    | _, _ => none
  some (pair.getD (.percentList stat))

def mixedSchema (first second : String) : Option Schema :=
  match statOfText? first, statOfText? second with
  | some s, some t => if hasPercent first && hasPercent second then some (.statStat s t) else none
  | some s, none =>
    if hasPercent first && second.toList.any isDecimalDigit && !hasPercent second then some (.statFlat s)
    else none
  | none, _ => none

def summedSchema? (unitStat : Option String) : List String → Option Schema
  | first :: second :: more =>
    let parts := first :: second :: more
    (if parts.all hasPercent then percentSchema unitStat parts else none).or (mixedSchema first second)
  | _ => none

def valueText (kit : Kit) (talent table : String) : Except IntegerTooLong String :=
  normalizeMarkup ((((kit.textSamples.find? talent).getD []).find? table).getD "")

def sampleOf (kit : Kit) (talent table : String) : Json :=
  (((kit.samples.find? talent).getD []).find? table).getD .null

def sampledHits (kit : Kit) (talent table text : String) : Except Decimal.IntegerTooLarge (Option Nat) :=
  if timesMarker.occursIn text && hasPercent text then hitCount (sampleOf kit talent table) else .ok none

/-- How a table's parts combine, by its value text; none for a table of one value. The unit is read only for a text of
several summands. -/
def schema (kit : Kit) (talent table : String) : Except IntegerFault (Option Schema) := do
  let text ← valueText kit talent table
  match ← sampledHits kit talent table text with
  | some _ => return some (.statTimes ((statOfText? text).getD "atk"))
  | none =>
    let parts := plusParts text
    if parts.length < 2 then return none
    return summedSchema? (statOfText? (← unitOf kit talent table)) parts

end DamagePlan.Scaling
