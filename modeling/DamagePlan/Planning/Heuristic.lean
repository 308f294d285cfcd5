import DamagePlan.Kit.Basic
import DamagePlan.Plan.Basic
import DamagePlan.Planning.TableName
import DamagePlan.Text.Markup

/-!
The heuristic planner: a plan from table names and descriptions alone.
-/
set_option autoImplicit false

namespace DamagePlan.Heuristic

open Text TableName
open Decimal (IntegerTooLong)

def mainAttrs : List String := ["atk", "cpct", "cdmg"]

def maxRows : Nat := 12

def damageRow? (kit : Kit) (talent chinese english : String) : Option Detail :=
  (pickDamage? (kit.tablesOf talent)).map fun table =>
    { title := titleFor table chinese english, talent := some talent, table := some table, key := some talent }

def isCatalyst (kit : Kit) : Bool := ["catalyst", "法器"].contains (lower (kit.weapon.getD ""))

def planGs (kit : Kit) : Plan :=
  let skill := damageRow? kit "e" "E伤害" "E DMG"
  let burst := damageRow? kit "q" "Q伤害" "Q DMG"
  let normal := (damageRow? kit "a" "普攻伤害" "Normal Attack DMG").map fun d =>
    { d with element := if isCatalyst kit then none else some "phy" }
  { mainAttrs := ",".intercalate mainAttrs
    defaultDamageKey := some (if skill.isSome then "e" else if burst.isSome then "q" else "a")
    details := skill.toList ++ burst.toList ++ normal.toList }

def isHealText (text : String) : Bool :=
  healMarker.occursIn text ||
    ((Pattern.anyText ["恢复", "restore"]).occursIn text && healthMarker.occursIn text)

def preferredSupport : DetailKind → Pattern
  | .heal => .anyText ["百分比生命", "生命值百分比", "百分比", "percent", "%"]
  | _ => .anyText ["百分比防御", "防御力百分比", "百分比生命", "生命值百分比", "百分比", "percent", "%"]

def flatSupport : Pattern := .anyText ["固定值", "flat"]

def attackNames : Pattern := .anyOf [.anyText ["攻击力", "攻击"], .word "atk"]

def supportRow? (talent : String) (tables : List String) (kind : DetailKind) (chinese english : String) :
    Option Detail :=
  ((tables.find? (preferredSupport kind).occursIn).or (tables.find? flatSupport.occursIn)).map fun table =>
    let joined := "|".intercalate tables
    let stat :=
      if healthMarker.occursIn joined then "hp"
      else if defenseMarker.occursIn joined then "def"
      else if attackNames.occursIn joined then "atk"
      else if kind = .heal then "hp" else "def"
    { title := titleFor table chinese english, kind, talent := some talent, table := some table,
      key := some talent, scaleStat := some stat }

def abilityRow? (kit : Kit) (description talent chinese english : String) : Option Detail :=
  let tables := kit.tablesOf talent
  if shieldMarker.occursIn description || tables.any shieldMarker.occursIn then
    supportRow? talent tables .shield (chinese ++ "护盾量") (english ++ " Shield")
  else if isHealText description || tables.any healMarker.occursIn then
    supportRow? talent tables .heal (chinese ++ "治疗量") (english ++ " Healing")
  else damageRow? kit talent (chinese ++ "伤害") (english ++ " DMG")

def addUltimateRows (main : Option String) : List Detail → List String → List Detail
  | rows, [] => rows
  | rows, table :: more =>
    if maxRows ≤ rows.length then rows
    else if some table = main || !isDamage table then addUltimateRows main rows more
    else
      let title := table.replace "回合开始伤害" "附加伤害"
      addUltimateRows main (rows ++ [{ title, talent := some "q", table := some table, key := some "q" }]) more

def hasKind (kind : DetailKind) (rows : List Detail) : Bool := rows.any (·.kind = kind)

def plainDescriptions (kit : Kit) : Except IntegerTooLong (Fields String) :=
  kit.descriptions.mapM fun (talent, text) => (normalizeMarkup text).map (talent, ·)

def planSr (kit : Kit) (descriptions : Fields String) : Plan :=
  let described (talent : String) := (descriptions.find? talent).getD ""
  let basic := damageRow? kit "a" "普攻伤害" "Basic ATK DMG"
  let skill := abilityRow? kit (described "e") "e" "战技" "Skill"
  let ultimate := abilityRow? kit (described "q") "q" "终结技" "Ultimate"
  let first := basic.toList ++ skill.toList ++ ultimate.toList
  let main := (first.find? fun d => d.talent = some "q" && d.kind = .dmg).bind (·.table)
  let rows := addUltimateRows main first (kit.tablesOf "q")
  let talent := (pickDamage? (kit.tablesOf "t")).map fun table =>
    let title := if (Pattern.exactly "反击").occursIn table then "反击伤害" else titleFor table "天赋伤害" "Talent DMG"
    ({ title, talent := some "t", table := some table, key := some "t" } : Detail)
  let details := rows ++ talent.toList
  let text := described "e" ++ " " ++ described "q"
  let health := if hasKind .heal details || healthMarker.occursIn text then ["hp"] else []
  let defense := if hasKind .shield details || defenseMarker.occursIn text then ["def"] else []
  { mainAttrs := ",".intercalate (mainAttrs ++ health ++ defense)
    defaultDamageKey := some ((["e", "q", "a"].find? fun k => details.any (·.talent = some k)).getD "e")
    details }

def plan (kit : Kit) : Except IntegerTooLong Plan :=
  match kit.game with
  | .gs => .ok (planGs kit)
  | .sr => (plainDescriptions kit).map (planSr kit)

end DamagePlan.Heuristic
