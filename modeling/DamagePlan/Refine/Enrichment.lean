import DamagePlan.Planning.Heuristic
import DamagePlan.Refine.Budget
import DamagePlan.Refine.Evidence
import DamagePlan.Refine.HitCount
import DamagePlan.Render.Formula
import DamagePlan.Script.Printer

/-!
Enrichment: rules that fill the gaps a sparse plan leaves. Every rule adds rows through the budget, so the
cap and the eviction policy hold however many rules fire.
-/
set_option autoImplicit false

namespace DamagePlan.Enrichment

open Text TableName
open Decimal (IntegerTooLong IntegerFault)

abbrev Rule := Kit → Budget → Except IntegerTooLong Budget

def talentLetter (talent : String) : String := (([("a", "A"), ("e", "E"), ("q", "Q"), ("t", "T")].lookup talent)).getD talent

def coreRow? (kit : Kit) (talent : String) : Option Detail :=
  (pickDamage? (kit.tablesOf talent)).map fun table =>
    let letter := talentLetter talent
    { title := titleFor table (letter ++ "伤害") (letter ++ " DMG"), talent := some talent, table := some table,
      key := some talent
      element := if kit.game = .gs && talent == "a" && !Heuristic.isCatalyst kit then some "phy" else none }

def addCoreRow (kit : Kit) (b : Budget) (talent : String) : Except IntegerTooLong Budget :=
  if (b.find? { kind := some .dmg, talent := some talent }).isSome then .ok b else
  match coreRow? kit talent with
  | some d => b.push d
  | none => .ok b

def addCoreRows : Rule := fun kit b => (Talent.core kit.game).foldlM (addCoreRow kit) b

def supportMarker : DetailKind → Pattern
  | .heal => healMarker
  | _ => shieldMarker

def sideMarker : Pattern := .anyText ["加成", "bonus", "冷却", "cooldown", "持续", "duration"]

def percentMarker : Pattern := .anyText ["百分比", "percent", "%"]

def supportTable? (kit : Kit) (kind : DetailKind) (talent : String) : Option String :=
  let candidates : List String := (kit.tablesOf talent).filter fun t =>
    (supportMarker kind).occursIn t && !sideMarker.occursIn t
  let preferred := match kit.game with
    | .gs => candidates.find? fun t : String => t.toList.getLast? = some '2'
    | .sr => candidates.find? percentMarker.occursIn
  preferred.or candidates.head?

def supportRow? (kit : Kit) (kind : DetailKind) (talent : String) : Except IntegerTooLong (Option Detail) :=
  (supportTable? kit kind talent).mapM fun table => (Scaling.supportStat kit talent table).map fun stat =>
    let name := ((stripTableSuffix table).replace "治疗量" "治疗").replace "护盾吸收量" "护盾量"
    let letter := talentLetter talent
    { title := titleFor name (letter ++ name) (letter ++ " " ++ name), kind, talent := some talent,
      table := some table, key := some talent, scaleStat := some stat }

def addSupportRow (kit : Kit) (b : Budget) (what : DetailKind × String) : Except IntegerTooLong Budget := do
  if (b.find? { kind := some what.1, talent := some what.2 }).isSome then return b
  match ← supportRow? kit what.1 what.2 with
  | some d => b.push d
  | none => return b

def addSupportRows : Rule := fun kit b =>
  [(.heal, "e"), (.heal, "q"), (.shield, "e"), (.shield, "q")].foldlM (addSupportRow kit) b

def chargedTable : Pattern :=
  .anyOf [.sequence [.text "重击", .gap 0 none, .text "伤害"], .text "charged attack"]

def plungeTable : Pattern :=
  .anyText ["高空坠地冲击伤害", "坠地冲击伤害", "high plunge dmg", "plunge dmg", "plunging"]

structure Alias where
  key : String
  marker : Pattern
  chinese : String
  english : String

def aliases : List Alias := [
  ⟨"a2", chargedTable, "重击伤害", "Charged Attack DMG"⟩,
  ⟨"a3", plungeTable, "下落攻击伤害", "Plunge DMG"⟩]

def isBow (kit : Kit) : Bool := ["bow", "弓"].contains (lower (kit.weapon.getD ""))

def aliasRow? (kit : Kit) (entry : Alias) : Option Detail :=
  ((kit.tablesOf "a").find? fun t => entry.marker.occursIn t && isDamage t).map fun table =>
    { title := titleFor table entry.chinese entry.english, talent := some "a", table := some table,
      key := some entry.key
      element := if Heuristic.isCatalyst kit || (entry.key == "a2" && isBow kit) then none else some "phy" }

def addAliasRow (kit : Kit) (b : Budget) (entry : Alias) : Except IntegerTooLong Budget :=
  match aliasRow? kit entry with
  | none => .ok b
  | some d =>
    if (b.find? { kind := some .dmg, talent := some "a", key := some entry.key }).isSome then .ok b else b.push d

def addAliasRows : Rule := fun kit b => aliases.foldlM (addAliasRow kit) b

def elementKey (kit : Kit) : String := lower (trim kit.element)

def isPlainDamage (d : Detail) : Bool := d.kind = .dmg && !Detail.isGiven d.raw && d.talent.isSome

def variantNames : List (String × String × String) := [
  ("vaporize", "蒸发", "Vaporize"), ("melt", "融化", "Melt"), ("aggravate", "超激化", "Aggravate"),
  ("spread", "激化", "Spread")]

def withoutEnding? (ending s : String) : Option String :=
  if s.endsWith ending then some (String.ofList (s.toList.take (s.length - ending.length))) else none

def variantTitle? (title reaction : String) : Option String :=
  (variantNames.lookup reaction).map fun (chinese, english) =>
    if !hasHan title then title ++ " (" ++ english ++ ")"
    else if (Pattern.exactly chinese).occursIn title then title
    else ((withoutEnding? "伤害" title).getD title) ++ chinese

def variantBases (reaction : String) (details : List Detail) : List Detail :=
  let bases := details.filter fun d => isPlainDamage d && !Detail.isGiven d.element
  let charged := if reaction == "vaporize" || reaction == "melt" then
      (bases.find? fun d => d.talent = some "a" && (d.damageKey == "a2" || chargedTable.occursIn d.title)).toList
    else []
  charged ++ (bases.filter (·.talent = some "e")).take 2 ++ (bases.filter (·.talent = some "q")).take 1

def variantOf? (reaction : String) (d : Detail) : Option Detail :=
  (variantTitle? d.title reaction).map fun title => { d with title, element := some reaction }

def amplifier? (kit : Kit) : Option String :=
  (Reaction.amplifiedBy.lookup (elementKey kit)).filter (Evidence.supports kit)

def addReactionVariants : Rule := fun kit b =>
  match amplifier? kit with
  | none => .ok b
  | some reaction => ((variantBases reaction b.details).filterMap (variantOf? reaction)).foldlM Budget.push b

def scaledResult (e : Script.Expr) (times : Float) : Script.Expr :=
  .record [("dmg", Formula.times (.member e "dmg") (.number times)),
    ("avg", Formula.times (.member e "avg") (.number times))]

def totalTitle (title : String) (times : Option Int) : String :=
  if hasHan title then
    let stem := (withoutEnding? "伤害" title).getD title
    match times with
    | none => stem ++ "总伤害"
    | some n => s!"{stem}总伤害·{Decimal.integerText n}段"
  else match times with
    | none => title ++ " Total"
    | some n => s!"{title} Total ({Decimal.integerText n} hits)"

def mayHaveTotal (d : Detail) : Bool :=
  isPlainDamage d && d.pick.isNone && !Detail.isGiven d.element && !Formula.totalMarker.occursIn d.title

def tableDamageOf (kit : Kit) (d : Detail) (title : String) : Except IntegerFault Script.Expr :=
  Formula.tableDamage kit { Formula.damageRowOf d with element := none, pick := none, title }

def countedTotal (kit : Kit) (d : Detail) : Except IntegerFault Detail := do
  let title := totalTitle d.title none
  let damage ← tableDamageOf kit d title
  return { d with title, raw := some damage.plainText }

def statedTotal (kit : Kit) (d : Detail) (times : Nat) : Except IntegerFault Detail := do
  let damage ← tableDamageOf kit d d.title
  return { d with
    title := totalTitle d.title (some times)
    raw := some (scaledResult damage (Float.ofNat times)).plainText }

def statedHits? (kit : Kit) (d : Detail) : Except IntegerTooLong (Option Nat) :=
  let talent := d.talent.getD ""
  if talent != "e" && talent != "q" then .ok none
  else HitCount.ofName? ((kit.descriptions.find? talent).getD "") (HitCount.tableToken (d.table.getD ""))

def totalRow (kit : Kit) (d : Detail) : Except IntegerFault (Option Detail) := do
  if !mayHaveTotal d then return none
  match ← Scaling.schema kit (d.talent.getD "") (d.table.getD "") with
  | some (.statTimes _) => return some (← countedTotal kit d)
  | _ =>
    let hits : Option Nat ← statedHits? kit d
    hits.mapM (statedTotal kit d)

def addTotal (kit : Kit) (b : Budget) (d : Detail) : Except IntegerFault Budget := do
  match ← totalRow kit d with
  | some total => b.push total
  | none => return b

def addMultiHitTotals (kit : Kit) (b : Budget) : Except IntegerFault Budget := b.details.foldlM (addTotal kit) b

def mainMarker : Pattern := .anyText ["主目标", "主目標", "main target"]

def adjacentMarker : Pattern := .anyText ["相邻目标", "adjacent"]

def completeMarker : Pattern := .anyText ["完整", "complete"]

def blastGroup : Pattern :=
  let rest : Pattern := .run (fun c => c != ')' && c != '）') 0 none
  .sequence [.blanks, .one fun c => c == '(' || c == '（', .blanks,
    .anyOf [.text "主目标", .text "主目標", .text "相邻目标", .seq (.text "完整") rest,
      .seq (.text "main target") (.optional (.text "s")), .seq (.text "adjacent target") (.optional (.text "s")),
      .seq (.text "complete") rest],
    .blanks, .one fun c => c == ')' || c == '）']

def blastBaseTitle (title : String) : String := trim (blastGroup.replaceAll "" title)

def isAdjacent (d : Detail) : Bool := adjacentMarker.occursIn d.title || adjacentMarker.occursIn (d.table.getD "")

def addToGroups (groups : List (String × List Row)) (key : String) (row : Row) : List (String × List Row) :=
  if groups.any (·.1 == key) then groups.map fun (k, rows) => if k == key then (k, rows ++ [row]) else (k, rows)
  else groups ++ [(key, [row])]

def blastGroups (rows : List Row) : Except IntegerTooLong (List (List Row)) := do
  let keyed ← (rows.filter fun r => r.detail.kind = .dmg && Detail.isGiven r.detail.talent).mapM fun r =>
    (Budget.titleKey (blastBaseTitle r.detail.title)).map (·, r)
  return (keyed.foldl (fun groups (key, r) => addToGroups groups key r) []).map (·.2)

def blastPair? (group : List Row) : Option (Row × Row) := do
  let readsTable (r : Row) : Bool := !Detail.isGiven r.detail.raw
  let adjacent ← group.find? fun r => isAdjacent r.detail && readsTable r
  let marked := group.find? fun r => mainMarker.occursIn r.detail.title && readsTable r
  let main ← marked.or (group.find? fun r =>
    r.tag != adjacent.tag && !isAdjacent r.detail && !completeMarker.occursIn r.detail.title && readsTable r)
  if main.detail.talent = adjacent.detail.talent then some (adjacent, main) else none

def blastExpr (kit : Kit) (adjacent main : Detail) : Except IntegerTooLong Script.Expr := do
  let talent := main.talent.getD ""
  let table := main.table.getD ""
  let amount := Formula.plus (Formula.tablePart talent table (Float.ofNat (main.pick.getD 0)))
    (Formula.times (Formula.tablePart talent (adjacent.table.getD "") (Float.ofNat (adjacent.pick.getD 0))) (.natural 2))
  let stat ← Formula.damageStat kit talent table main.scaleStat
  let combined := Formula.scaledDamage amount stat main.damageKey main.element
  let repeats ← HitCount.repeats ((kit.descriptions.find? talent).getD "")
  return if 1 < repeats then scaledResult combined (Float.ofNat repeats) else combined

def completeTitle (title : String) : String :=
  let base := blastBaseTitle title
  titleFor base (base ++ "(完整)") (base ++ " (Complete)")

def completeRow (kit : Kit) (adjacent main : Detail) : Except IntegerTooLong Detail :=
  (blastExpr kit adjacent main).map fun e =>
    { main with title := completeTitle main.title, raw := some e.plainText, pick := none }

/-- Puts the complete row in the place of one there already, else adds it, or puts it in the place of the
adjacent row when there is no room. -/
def addBlastTotal (kit : Kit) (b : Budget) (group : List Row) : Except IntegerTooLong Budget :=
  match blastPair? group with
  | none => .ok b
  | some (adjacent, main) => do
    let complete ← completeRow kit adjacent.detail main.detail
    match group.find? fun r => completeMarker.occursIn r.detail.title with
    | some there => return b.update there.tag complete
    | none => if b.isFull then return b.update adjacent.tag complete else b.push complete

def addBlastTotals : Rule := fun kit b => do (← blastGroups b.rows).foldlM (addBlastTotal kit) b

def burstAttackMarker : Pattern :=
  .anyText ["普通攻击", "普攻", "重击", "下落攻击", "normal attack", "charged attack", "plunging attack"]

def convertMarker : Pattern :=
  .anyText ["转为", "转化为", "转换为", "附魔", "替换为", "变为", "变成", "convert", "infus", "replaced", "become"]

def countsAsBurstMarker : Pattern :=
  .anyOf [
    .sequence [.anyText ["视为", "视作"], .gap 0 (some 24), .text "元素爆发伤害"],
    .sequence [.text "considered ", .optional (.text "elemental "), .text "burst dmg"],
    .sequence [.text "count as ", .optional (.text "elemental "), .text "burst dmg"]]

def convertsIn (text : String) : Bool :=
  burstAttackMarker.occursIn text && convertMarker.occursIn text && !countsAsBurstMarker.occursIn text

def convertsAttacks (kit : Kit) : Except IntegerTooLong Bool :=
  (normalizeMarkup ((kit.descriptions.find? "q").getD "")).map convertsIn

def hanNumerals : List Char := "一二三四五六七八九十".toList

def hanSegment : Pattern :=
  .sequence [.mark 1 (.one (hanNumerals.contains ·)), .exactly "段伤害"]

def englishSegment : Pattern :=
  .sequence [.mark 1 (.digits 1 (some 1)), .optional (.anyText ["st", "nd", "rd", "th"]),
    .one fun c => c == '-' || c == ' ', .text "hit dmg"]

def plungeNames : List String := ["下落攻击伤害", "坠地冲击伤害", "下坠期间伤害"]

def burstAttack? (table : String) : Option (String × String) :=
  match (hanSegment.match? table).bind (·.mark? 1) with
  | some numeral => some ("a", "Q状态·普攻" ++ if numeral == "一" then "首段" else numeral ++ "段")
  | none =>
    match (englishSegment.match? table).bind (·.mark? 1) with
    | some digit => some ("a", s!"Burst State: Normal Attack {digit}-Hit")
    | none =>
      if (Pattern.exactly "重击伤害").occursIn table then some ("a2", "Q状态·重击伤害")
      else if (Pattern.text "charged attack").occursIn table then some ("a2", "Burst State: Charged Attack DMG")
      else match plungeNames.find? fun name => (Pattern.exactly name).occursIn table with
        | some name => some ("a3", "Q状态·" ++ name)
        | none => if (Pattern.text "plung").occursIn table then some ("a3", "Burst State: Plunge DMG") else none

def firstKey (keys : String) : String := lower (trim (String.ofList (keys.toList.takeWhile (· != ','))))

def burstStateRow (d : Detail) : Detail :=
  if d.kind != .dmg || d.talent != some "q" || !Detail.isGiven d.table || firstKey d.damageKey != "q" then d else
  match burstAttack? (d.table.getD "") with
  | none => d
  | some (key, title) =>
    let params := d.params.getD []
    let params := if params.contains "q" then params else params ++ [("q", .bool true)]
    { d with key := some key, title, params := some params }

def mapBurstState : Rule := fun kit b => (convertsAttacks kit).map fun converts =>
  if converts then { b with rows := b.rows.map fun r => { r with detail := burstStateRow r.detail } } else b

def reactionTitlesChinese : List (String × String) := [
  ("swirl", "扩散反应伤害"), ("crystallize", "结晶反应伤害"), ("bloom", "绽放伤害"),
  ("hyperBloom", "超绽放伤害"), ("burgeon", "烈绽放伤害"), ("shatter", "碎冰反应伤害")]

def transformativeRow? (kit : Kit) : Option Detail :=
  if !Evidence.masteryMarker.occursIn kit.evidence && !Evidence.reactionMarker.occursIn kit.evidence then none else
  ((Reaction.transformedBy.lookup (elementKey kit)).filter (Evidence.supports kit)).map fun reaction =>
    let chinese := kit.tables.any fun (_, names) => names.any hasHan
    { title := if chinese then (reactionTitlesChinese.lookup reaction).getD "反应伤害"
        else (Reaction.titles.lookup reaction).getD "Reaction DMG"
      kind := .reaction, reaction := some reaction }

def addTransformativeRow : Rule := fun kit b =>
  if (b.find? { kind := some .reaction }).isSome || b.isFull then .ok b else
  match transformativeRow? kit with
  | some d => b.push d
  | none => .ok b

def firstRules : Game → List Rule
  | .gs => [mapBurstState, addCoreRows, addSupportRows, addAliasRows, addReactionVariants]
  | .sr => [addCoreRows, addSupportRows]

def lastRules : Game → List Rule
  | .gs => [addBlastTotals, addTransformativeRow]
  | .sr => [addBlastTotals]

def applyRules (kit : Kit) (rules : List Rule) (b : Budget) : Except IntegerTooLong Budget :=
  rules.foldlM (fun b rule => rule kit b) b

def enrich (kit : Kit) (details : List Detail) (policy : EvictionPolicy := .default)
    (cap : Int := Plan.maxDetails) : Except IntegerFault (List Detail) := do
  let filled : Budget ← applyRules kit (firstRules kit.game) (Budget.ofDetails cap policy details)
  let totalled ← addMultiHitTotals kit filled
  let finished : Budget ← applyRules kit (lastRules kit.game) totalled
  return finished.details

end DamagePlan.Enrichment
