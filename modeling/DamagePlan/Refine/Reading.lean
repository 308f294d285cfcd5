import DamagePlan.Kit.Basic
import DamagePlan.Kit.BuffKey
import DamagePlan.Kit.Reaction
import DamagePlan.Plan.Basic
import DamagePlan.Refine.RawRecord
import DamagePlan.Refine.Rejection
import DamagePlan.Script.Acceptance

/-!
Reading a raw plan: from an untrusted JSON value to a plan whose rows are on the kit's whitelist. Rows that
cannot be read are left out with their faults.
-/
set_option autoImplicit false

namespace DamagePlan.RawPlan

open RawRecord
open Decimal (IntegerTooLarge)

def isAttribute (s : String) : Bool :=
  match s.toList with
  | [] => false
  | c :: rest => Text.isAsciiLetter c && rest.all fun d => Text.isAsciiLetter d || Text.isAsciiDigit d

def attributesOf (s : String) : List String :=
  (((s.toList.splitOnP (· == ',')).map fun cs => Text.trim (String.ofList cs)).filter isAttribute).eraseDups

def normalizeAttributes (s : String) : String := ",".intercalate (attributesOf s)

def keepsParameter : Json → Except IntegerTooLarge Bool
  | .int n => (Decimal.ofInteger n).map fun _ => true
  | .float x => .ok (Decimal.isFinite x)
  | .bool _ | .str _ => .ok true
  | _ => .ok false

def parametersOf (record : Fields Json) : Except IntegerTooLarge (Option (Fields Json)) := do
  match entriesOf? record "params" with
  | none => return none
  | some fields =>
    let kept ← fields.filterM fun (_, v) => keepsParameter v
    return if kept.isEmpty then none else some kept

structure DetailReading where
  faults : List PlanFault := []
  rejected : Option (String × String) := none
  detail : Option Detail := none

def kindOf (record : Fields Json) : DetailKind :=
  (DetailKind.ofCode? (Text.lower (Text.trim (textOf record "kind")))).getD .dmg

def elementOf (kit : Kit) (record : Fields Json) (reaction : Option String) : Option String :=
  (Reaction.canonicalOverride? kit.game (textOf record "ele")).or (reaction.filter (Reaction.amplifying.contains ·))

def tableRow (kit : Kit) (record : Fields Json) (kind : DetailKind) (reaction : Option String)
    (talent table : String) : Except IntegerTooLarge Detail := do
  let params ← parametersOf record
  return {
    title := (givenText? record "title").getD table
    kind
    talent := some talent
    table := some table
    key := (record.find? "key").bind Json.str?
    element := if kind = .dmg then elementOf kit record reaction else none
    scaleStat := (record.find? "stat").bind Json.str?
    pick := naturalOf? record "pick"
    params
    check := Script.acceptedExpression? (textOf record "check")
    raw := Script.acceptedExpression? (textOf record "dmgExpr")
    cons := naturalOf? record "cons" }

def reactionRow (kit : Kit) (record : Fields Json) (reaction : String) : Except IntegerTooLarge Detail := do
  let params ← parametersOf record
  return {
    title := ((givenText? record "title").or (givenText? record "table")).getD reaction
    kind := .reaction
    talent := (givenText? record "talent").filter (kit.tables.contains ·)
    key := (record.find? "key").bind Json.str?
    scaleStat := (record.find? "stat").bind Json.str?
    reaction := some reaction
    pick := naturalOf? record "pick"
    params
    check := Script.acceptedExpression? (textOf record "check")
    raw := Script.acceptedExpression? (textOf record "dmgExpr")
    cons := naturalOf? record "cons" }

def readTableRow (kit : Kit) (record : Fields Json) (kind : DetailKind) (reaction : Option String)
    (faults : List PlanFault) : Except IntegerTooLarge DetailReading := do
  match givenText? record "talent", givenText? record "table" with
  | some talent, some table =>
    if kit.hasTable (some talent) (some table) then
      let detail ← tableRow kit record kind reaction talent table
      return { faults, detail := some detail }
    else return { faults, rejected := some (talent, table) }
  | talent, table => return { faults, rejected := some (talent.getD "?", table.getD "?") }

def readRecord (kit : Kit) (i : Nat) (record : Fields Json) : Except IntegerTooLarge DetailReading := do
  let text := textOf record "reaction"
  let reaction := Reaction.canonical? kit.game text
  let faults := if !text.isEmpty && reaction.isNone then [.unknownReaction i text] else []
  match kindOf record, reaction with
  | .reaction, none => return { faults := faults ++ [.missingReaction i] }
  | .reaction, some id =>
    if Reaction.amplifying.contains id then readTableRow kit record .dmg reaction faults
    else
      let detail ← reactionRow kit record id
      return { faults, detail := some detail }
  | kind, _ => readTableRow kit record kind reaction faults

def readDetail (kit : Kit) (i : Nat) : Json → Except IntegerTooLarge DetailReading
  | .obj fields => readRecord kit i (strip detailSchema fields)
  | _ => .ok { faults := [.notAnObject i] }

def readDetails (kit : Kit) : (i : Nat) → List Json → Except IntegerTooLarge (List DetailReading)
  | _, [] => .ok []
  | i, j :: rest => do
    let reading ← readDetail kit i j
    let readings ← readDetails kit (i + 1) rest
    return reading :: readings

def withoutRepetitions (details : List Detail) : List Detail :=
  details.foldl (fun kept d => if kept.any (·.identity = d.identity) then kept else kept ++ [d]) []

def readBuffValue : Json → Except IntegerTooLarge (Option BuffValue)
  | .str s => .ok ((Script.acceptedExpression? s).map .expression)
  | .int n => (Decimal.ofInteger n).map fun x => some (.number x)
  | .float x => .ok (if Decimal.isFinite x then some (.number x) else none)
  | _ => .ok none

def readData (game : Game) : (data : Fields BuffValue) → Fields Json → Except IntegerTooLarge (Fields BuffValue)
  | data, [] => .ok data
  | data, (key, j) :: rest => do
    let key := Text.trim key
    if !BuffKey.isAllowed game key then readData game data rest
    else match ← readBuffValue j with
      | some value => readData game (data.insert key value) rest
      | none => readData game data rest

def buffOf? (record : Fields Json) (title : String) (data : Fields BuffValue) : Option Buff :=
  match Form.Reader.nullable Form.Reader.integer (.ofJson ((record.find? "sort").getD .null)) with
  | .invalid _ => none
  | .valid sort => some {
      title, sort, data
      constellation := naturalOf? record "cons"
      trace := naturalOf? record "tree"
      check := Script.acceptedExpression? (textOf record "check") }

def readBuff (game : Game) : Json → Except IntegerTooLarge (Option Buff)
  | .obj fields => do
    let record := strip buffSchema fields
    match givenText? record "title" with
    | none => return none
    | some title =>
      let data ← readData game [] ((entriesOf? record "data").getD [])
      if data.keys.all Buff.isDisplayKey then return none
      return buffOf? record title data
  | _ => .ok none

def defaultKeyOf (record : Fields Json) (details : List Detail) : Option String :=
  let text := textOf record "defDmgKey"
  if !text.isEmpty && details.any (·.damageKey == Text.trim text) then some (Text.trim text) else none

def noDetails (attributes : String) (readings : List DetailReading) : Rejection where
  reason := .noDetails
  faults := (if attributes.isEmpty then [.noMainAttribute] else []) ++ readings.flatMap (·.faults)
  tables := readings.filterMap (·.rejected)

/-- Reads a plan's record. That there are no details comes before a lack of main attributes. -/
def readPlan (kit : Kit) (record : Fields Json) : Except PlanError Plan := do
  let attributes := normalizeAttributes (textOf record "mainAttr")
  let readings ← (readDetails kit 0 (itemsOf record "details")).mapError .integerTooLarge
  let details := withoutRepetitions (readings.filterMap (·.detail))
  if details.isEmpty then .error (.rejected (noDetails attributes readings))
  else if attributes.isEmpty then .error (.rejected { reason := .noMainAttribute })
  else
    let buffs ← ((itemsOf record "buffs").mapM (readBuff kit.game)).mapError .integerTooLarge
    return {
      mainAttrs := attributes
      defaultDamageKey := defaultKeyOf record details
      details := details.take Plan.maxDetails
      buffs := (buffs.filterMap id).take Plan.maxBuffs }

def read (kit : Kit) : Json → Except PlanError Plan
  | .obj fields => readPlan kit (strip planSchema fields)
  | _ => .error (.rejected { reason := .planNotAnObject })

end DamagePlan.RawPlan
