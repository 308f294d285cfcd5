import DamagePlan.Planning.Scaling
import DamagePlan.Planning.TableName
import DamagePlan.Plan.Detail
import DamagePlan.Script.Literal

/-!
Formulas of rows: the expressions that read a talent's table and hand an amount to the engine. Plain rows
and derived rows share them, so both read a table in the same way.
-/
set_option autoImplicit false

namespace DamagePlan.Formula

open Script Text
open Decimal (IntegerTooLong IntegerFault)

def totalMarker : Pattern := .anyText ["总", "合计", "total"]

def flatThreshold : Game → Float
  | .gs => 200
  | .sr => 5

def tableRef (talent table : String) : Expr := .index (.member (.name "talent") talent) (.string table)

def pickPart (talent table : String) (position : Float) : Expr :=
  .callName "pick" [tableRef talent table, .number position]

def tablePart (talent table : String) (position : Float) : Expr :=
  .callName "num" [pickPart talent table position]

def statTotal (stat : String) : Expr := .callName "calc" [.path "attr" [stat]]

def toRatio (amount : Expr) : Expr := .callName "toRatio" [amount]

def isList (e : Expr) : Expr := .callName "isList" [e]

def plus (a b : Expr) : Expr := .binary .add a b

def times (a b : Expr) : Expr := .binary .multiply a b

def shareOf (stat : String) (amount : Expr) : Expr := times (statTotal stat) (toRatio amount)

def damageArguments (key : String) (element : Option String) : List Expr :=
  .string key :: match element with
    | some e => if e.isEmpty then [] else [.string e]
    | none => []

def damageCall (amount : Expr) (key : String) (element : Option String) : Expr :=
  .callName "dmg" (amount :: damageArguments key element)

def basicDamageCall (amount : Expr) (key : String) (element : Option String) : Expr :=
  .call (.path "dmg" ["basic"]) (amount :: damageArguments key element)

def scaledDamage (amount : Expr) (stat key : String) (element : Option String) : Expr :=
  if stat == "atk" then damageCall amount key element else basicDamageCall (shareOf stat amount) key element

def damageStat (kit : Kit) (talent table : String) (scaleStat : Option String) : Except IntegerTooLong String :=
  match scaleStat with
  | some stat => if Scaling.stats.contains stat && stat != "atk" then .ok stat else Scaling.damageStat kit talent table
  | none => Scaling.damageStat kit talent table

def overAttack (stat schemaStat : String) : String := if stat == "atk" then schemaStat else stat

structure DamageRow where
  talent : String
  table : String
  key : String
  element : Option String := none
  pick : Option Int := none
  scaleStat : Option String := none
  title : String := ""

namespace DamageRow

def stat (kit : Kit) (row : DamageRow) : Except IntegerTooLong String := damageStat kit row.talent row.table row.scaleStat

def part (row : DamageRow) (position : Float) : Expr := tablePart row.talent row.table position

def scaled (row : DamageRow) (amount : Expr) (stat : String) : Expr := scaledDamage amount stat row.key row.element

end DamageRow

def damageOfPart (row : DamageRow) (stat : String) (position : Float) : Expr := row.scaled (row.part position) stat

def damageAs (row : DamageRow) (stat : String) (schema : Option Scaling.Schema) : Expr :=
  let picked (position : Float) : Expr := pickPart row.talent row.table position
  let ref := tableRef row.talent row.table
  match schema with
  | none => damageOfPart row stat 0
  | some (.statStat first second) =>
    let amount := plus (shareOf first (picked 0)) (shareOf second (picked 1))
    .conditional (isList ref) (basicDamageCall amount row.key row.element) (damageOfPart row stat 0)
  | some (.statFlat flatStat) =>
    let amount := plus (shareOf flatStat (picked 0)) (row.part 1)
    .conditional (isList ref) (basicDamageCall amount row.key row.element) (damageOfPart row stat 0)
  | some (.statTimes timesStat) =>
    let amount :=
      if totalMarker.occursIn row.title then
        times (row.part 0) (.conditional (isList ref) (row.part 1) (.natural 1))
      else row.part 0
    row.scaled amount (overAttack stat timesStat)
  | some (.percentList listStat) => row.scaled (.callName "sum" [ref]) (overAttack stat listStat)

def tableDamage (kit : Kit) (row : DamageRow) : Except IntegerFault Expr := do
  let stat ← row.stat kit
  match row.pick with
  | some position => return damageOfPart row stat (← Decimal.ofInteger position)
  | none => return damageAs row stat (← Scaling.schema kit row.talent row.table)

def percentName : Pattern :=
  .anyText ["百分比生命", "生命值百分比", "百分比防御", "防御力百分比", "攻击力百分比", "百分比", "percent"]

def flatName : Pattern := .anyText ["固定值", "flat"]

/-- The percentage table and the flat table of a formula that is split over two tables, one of them
`table`. -/
def supportPair? (kit : Kit) (talent table : String) : Option (String × String) :=
  let tables := kit.tablesOf talent
  match kit.game with
  | .gs =>
    let added := table.replace "基础" "附加"
    let base := table.replace "附加" "基础"
    if added != table && tables.contains added then some (added, table)
    else if base != table && tables.contains base then some (table, base)
    else none
  | .sr =>
    if flatName.occursIn table then
      (tables.find? fun t => percentName.occursIn t && !flatName.occursIn t).map (·, table)
    else if percentName.occursIn table then (tables.find? flatName.occursIn).map (table, ·)
    else none

def supportStat (kit : Kit) (talent table : String) (scaleStat : Option String) : Except IntegerTooLong String :=
  match scaleStat with
  | some stat => if Scaling.stats.contains stat then .ok stat else Scaling.supportStat kit talent table
  | none => Scaling.supportStat kit talent table

def supportAmountOf (kit : Kit) (talent table stat : String) : Expr :=
  match supportPair? kit talent table with
  | some (percent, flat) =>
    plus (shareOf stat (tablePart talent percent 0)) (tablePart talent flat (if kit.game = .gs then 1 else 0))
  | none =>
    let ref := tableRef talent table
    let scalar := Expr.callName "num" [ref]
    .conditional (isList ref)
      (plus (shareOf stat (pickPart talent table 0)) (tablePart talent table 1))
      (.conditional (.binary .greater scalar (.number (flatThreshold kit.game))) scalar (shareOf stat scalar))

def supportAmount (kit : Kit) (talent table : String) (scaleStat : Option String) : Except IntegerTooLong Expr :=
  (supportStat kit talent table scaleStat).map (supportAmountOf kit talent table)

def supportCall (kind : DetailKind) (amount : Expr) : Expr :=
  .callName (if kind = .heal then "heal" else "shield") [amount]

def reactionCall (reaction : String) : Expr := .callName "reaction" [.string reaction]

def damageRowOf (d : Detail) : DamageRow where
  talent := d.talent.getD ""
  table := d.table.getD ""
  key := d.damageKey
  element := d.element
  pick := d.pick.map Int.ofNat
  scaleStat := d.scaleStat
  title := d.title

def ofDetail (kit : Kit) (d : Detail) : Except IntegerFault Expr :=
  match d.raw with
  | some text => if text.isEmpty then formula else .ok (.verbatim text)
  | none => formula
where
  formula : Except IntegerFault Expr :=
    match d.kind with
    | .reaction => .ok (reactionCall (d.reaction.getD ""))
    | .heal | .shield => do
      return supportCall d.kind (← supportAmount kit (d.talent.getD "") (d.table.getD "") d.scaleStat)
    | .dmg => tableDamage kit (damageRowOf d)

end DamagePlan.Formula
