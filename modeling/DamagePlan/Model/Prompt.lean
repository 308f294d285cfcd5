import DamagePlan.Json.Printer
import DamagePlan.Kit.Basic
import DamagePlan.Kit.BuffKey
import DamagePlan.Kit.Reaction
import DamagePlan.Model.Attempt
import DamagePlan.Model.Message
import DamagePlan.Plan.Basic
import DamagePlan.Script.Acceptance
import DamagePlan.Text.Markup

/-!
Prompts: the messages that ask a model for a plan. Later attempts add what was wrong with the last answer, and
the final one insists on the form.
-/
set_option autoImplicit false

namespace DamagePlan.Prompt

open Text
open Decimal (IntegerTooLong)

def system : String :=
  "You are a careful engineer writing damage-calculation plans for a game simulator. "
    ++ "Output strict JSON only: no Markdown, no commentary."

def feedback (error : String) : String :=
  "\n".intercalate [
    "Your previous plan was rejected: " ++ error,
    "Fix exactly this problem and return the whole plan again. "
      ++ "Remember: every table must be copied from the allowed list for its talent."]

def strictForm : String :=
  "FORMAT REQUIREMENTS (final attempt): respond with a single JSON object and nothing else. "
    ++ "No code fences, no comments, no trailing commas, double-quoted keys and strings, "
    ++ "numbers without units. The top-level keys are mainAttr, defDmgKey, details, buffs."

def outputExample : Json :=
  .obj [
    ("mainAttr", .str "atk,cpct,cdmg"),
    ("defDmgKey", .str "e"),
    ("details", .arr [
      .obj [("title", .str "Skill DMG"), ("kind", .str "dmg"), ("talent", .str "e"),
        ("table", .str "<allowed table>"), ("key", .str "e")],
      .obj [("title", .str "Burst Healing"), ("kind", .str "heal"), ("talent", .str "q"),
        ("table", .str "<allowed table>"), ("stat", .str "hp")]]),
    ("buffs", .arr [
      .obj [("title", .str "C2: Skill DMG +20%"), ("cons", .int 2), ("data", .obj [("eDmg", .int 20)])],
      .obj [("title", .str "Passive: ATK up in burst"), ("check", .str "params.q"),
        ("data", .obj [("atkPct", .int 15)])]])]

def outputExampleText : String := { indent := some 2 : Json.Style }.render outputExample

def maxLength : Nat := 18000

def allowedTalents (kit : Kit) : List String :=
  let talents := (kit.tables.filter fun (_, names) => !names.isEmpty).map (·.1)
  (if talents.isEmpty then Talent.core kit.game else talents).mergeSort fun a b => Talent.rank a ≤ Talent.rank b

def tablesText (kit : Kit) : String :=
  (Json.obj ((allowedTalents kit).map fun k => (k, .arr ((kit.tablesOf k).map .str)))).text

def gameLabel : Game → String
  | .gs => "Genshin Impact (gs)"
  | .sr => "Honkai: Star Rail (sr)"

def orUnknown (s : String) : String := if s.isEmpty then "unknown" else s

def buffKeysText (game : Game) : String :=
  " | ".intercalate ((BuffKey.rules game).map (·.text)) ++ " | _display"

def buffLikeMarker : Pattern :=
  .anyOf [
    .anyText ["提升", "增加", "降低", "加成", "增伤", "原本", "倍率", "抗性", "防御", "暴击", "反应", "层", "枚", "次数", "上限"],
    .anyText ["bonus", "boost", "increase", "multiplier"], .seq (.text "res") .wordEdge,
    .anyText ["crit", "stack", "count", "limit"]]

def bucketMarker : Pattern :=
  .anyText ["普通攻击伤害", "重击伤害", "下落攻击伤害", "元素战技伤害", "元素爆发伤害", "战技伤害", "终结技伤害", "天赋伤害",
    "normal attack dmg", "charged attack dmg", "skill dmg", "burst dmg", "ultimate dmg"]

def maxListed : Nat := 12

inductive PromptError where
  | unreadable (e : IntegerTooLong)
  | unwritable

def PromptError.message : PromptError → String
  | .unreadable e => e.message
  | .unwritable =>
    s!"Exceeds the limit ({Decimal.maxIntegerDigits} digits) for integer string conversion; "
      ++ "use sys.set_int_max_str_digits() to increase the limit"

instance : MonadLift (Except IntegerTooLong) (Except PromptError) := ⟨(·.mapError .unreadable)⟩

def writtenText (j : Json) : Except PromptError String := if j.holdsTooLong then .error .unwritable else .ok j.text

def descriptionLine? (kit : Kit) (talent : String) : Except IntegerTooLong (Option String) := do
  let text ← normalizeMarkup ((kit.descriptions.find? talent).getD "")
  if text.isEmpty then return none
  return some s!"- {talent}: {← shorten text 900}"

def hintLine (hint : String) : Except IntegerTooLong String := (shorten hint 520).map ("- " ++ ·)

def entriesLine? (talent : String) (entries : Fields Json) (most : Nat) : Except PromptError (Option String) := do
  if entries.isEmpty then return none
  let text ← writtenText (.obj entries)
  return some s!"- {talent}: {← shorten text most}"

def sampleLine? (kit : Kit) (talent : String) : Except PromptError (Option String) :=
  entriesLine? talent ((kit.samples.find? talent).getD []) 500

def textSampleLine? (kit : Kit) (talent : String) : Except PromptError (Option String) :=
  entriesLine? talent (((kit.textSamples.find? talent).getD []).map fun (k, s) => (k, .str s)) 600

def listLine? (talent : String) (listed : List Json) : Option String :=
  if listed.isEmpty then none else some s!"- {talent}: {(Json.arr (listed.take maxListed)).text}"

def unitPair? (name unit : String) : Except IntegerTooLong (Option Json) :=
  (normalizeMarkup unit).map fun text =>
    if bucketMarker.occursIn text then some (.arr [.str name, .str (cut 40 text)]) else none

def unitLine? (kit : Kit) (talent : String) : Except IntegerTooLong (Option String) := do
  let pairs ← ((kit.units.find? talent).getD []).mapM fun (name, unit) => unitPair? name unit
  return listLine? talent (pairs.filterMap id)

def buffLikeLine? (kit : Kit) (talent : String) : Option String :=
  listLine? talent (((kit.tablesOf talent).filter buffLikeMarker.occursIn).map .str)

def sections (kit : Kit) : Except PromptError (List (String × List String)) := do
  let talents := allowedTalents kit
  let descriptions ← (talents.mapM (descriptionLine? kit) : Except IntegerTooLong _)
  let hints ← (kit.hints.mapM hintLine : Except IntegerTooLong _)
  let samples ← talents.mapM (sampleLine? kit)
  let textSamples ← talents.mapM (textSampleLine? kit)
  let units ← (talents.mapM (unitLine? kit) : Except IntegerTooLong _)
  return [
    ("Ability descriptions:", descriptions.filterMap id),
    ("Buff hints (passives / constellations / traces):", hints),
    ("Table value samples (arrays mean multi-part values):", samples.filterMap id),
    ("Table value text samples:", textSamples.filterMap id),
    ("Tables whose unit names a damage bucket (these are buff tables, not multipliers):", units.filterMap id),
    ("Buff-like tables (express them in buffs.data):", talents.filterMap (buffLikeLine? kit))]

def sectionsText (sections : List (String × List String)) : String :=
  "\n".intercalate (sections.flatMap fun (heading, lines) => if lines.isEmpty then [] else heading :: lines ++ [""])

def commas (words : List String) : String := ", ".intercalate words

def rules (kit : Kit) : List String := [
  "- Only these talent keys may be used: " ++ ",".intercalate (allowedTalents kit),
  "- \"table\" MUST be copied exactly from the allowed table list for that talent. Never invent table names.",
  s!"- details: aim for 6-12 rows (at most {Plan.maxDetails}); cover the core damage of each ability and "
    ++ "common variants, plus healing/shield rows when the kit has them.",
  "- details[i].kind is one of dmg | heal | shield | reaction (default dmg).",
  "- kind=dmg|heal|shield requires talent + table. kind=heal|shield should set stat (atk|hp|def|mastery).",
  s!"- kind=reaction needs no table; reaction must be one of: {commas (Reaction.ids kit.game)}",
  "- Amplifying reactions (vaporize/melt/aggravate/spread) are NOT kind=reaction: use kind=dmg with ele.",
  "- Prefer tables whose names mention damage; never use cooldown/energy/toughness tables as damage.",
  "- pick (0-based) selects one element of an array-valued table.",
  "- cons (1-6) restricts a row to a constellation; params holds static state flags (number/boolean/string).",
  "- check / dmgExpr / buff data expressions use this expression language: numbers, strings, "
    ++ "+ - * / %, comparisons, && || !, a ? b : c, member access x.y, indexing x[\"name\"], and calls to "
    ++ s!"{commas Script.helperNames}. Available names: {commas Script.contextNames}.",
  "- dmgExpr must return dmg(...), dmg.basic(...), heal(...), shield(...), reaction(...) or "
    ++ "\x7bdmg: ..., avg: ...\x7d. dmg(pct, key, ele?) takes a percentage; dmg.basic(value, key, ele?) takes a "
    ++ "final base value such as calc(attr.hp) * toRatio(pct). Never pass an array table straight into dmg().",
  "- mainAttr is a comma-separated list of attribute keys (e.g. atk,cpct,cdmg,mastery,recharge,hp,def).",
  s!"- buffs: at most {Plan.maxBuffs}. data keys MUST match this vocabulary (regex): {buffKeysText kit.game}",
  "- Use buff cons (1-6) / tree (1-10) / check to gate conditional effects. Do not turn one-shot "
    ++ "\"next cast\" effects into permanent buffs."]

def opening (kit : Kit) : String :=
  s!"Produce a calculation plan for the {gameLabel kit.game} character \"{kit.name}\" (element: {orUnknown kit.element}"

def fullTask (kit : Kit) (sections : List (String × List String)) : String :=
  "\n".intercalate ([
    s!"{opening kit}, weapon: {weapon}).", "", "Rules:"]
    ++ rules kit
    ++ [sectionsText sections, "Allowed tables (JSON, talent -> names):", tablesText kit, "", "Output JSON shape:",
      outputExampleText, ""])
where
  weapon : String := orUnknown (kit.weapon.getD "")

def compactTask (kit : Kit) : String :=
  "\n".intercalate [
    s!"{opening kit}). Use only talent keys {commaList}; copy table names exactly from the allowed "
      ++ s!"list; at most {Plan.maxDetails} details and {Plan.maxBuffs} buffs; "
      ++ s!"buff data keys must match: {buffKeysText kit.game}.",
    "", "Allowed tables (JSON):", tablesText kit, "", "Output JSON shape:", outputExampleText, ""]
where
  commaList : String := ",".intercalate (allowedTalents kit)

def task (kit : Kit) : Except PromptError String :=
  (sections kit).map fun sections =>
    let full := fullTask kit sections
    if maxLength < full.length then compactTask kit else full

def reminders (attempt : Attempt) : List Message :=
  if attempt.number ≤ 1 then [] else
  let error := attempt.lastError.getD ""
  (if error.isEmpty then [] else [.user (feedback error)])
    ++ (if attempt.isFinal then [.user strictForm] else [])

def messages (kit : Kit) (attempt : Attempt) : Except PromptError (List Message) :=
  (task kit).map fun task => [.system system, .user task] ++ reminders attempt

end DamagePlan.Prompt
