import DamagePlan.Kit.Basic
import DamagePlan.Kit.BuffKey
import DamagePlan.Plan.Buff
import DamagePlan.Script.Printer
import DamagePlan.Text.Markup
import DamagePlan.Text.Pattern

/-!
Filtering buffs: keys are dropped that a buff's title and constellation hint do not support.
-/
set_option autoImplicit false

namespace DamagePlan.BuffFilter

open Text
open Decimal (IntegerTooLong)

def levelMarker : Pattern :=
  let level : Pattern := .mark 1 (.one fun c => '1' ≤ c && c ≤ '6')
  .sequence [
    .either
      (.sequence [level, .blanks, .anyText ["命", "魂"]])
      (.sequence [.one fun c => foldsTo 'C' c || foldsTo 'E' c, level]),
    .blanks, .one fun c => c == ':' || c == '：']

def levelOf? (text : String) : Option Nat := do
  let place ← levelMarker.match? text
  readNat? (← place.mark? 1).toList

def hintsOf : (found : List (Nat × String)) → List String → List (Nat × String)
  | found, [] => found
  | found, text :: rest =>
    match levelOf? text with
    | none => hintsOf found rest
    | some level =>
      if found.any (·.1 == level) then
        hintsOf (found.map fun (l, t) => if l == level then (l, t ++ " " ++ text) else (l, t)) rest
      else hintsOf (found ++ [(level, text)]) rest

def constellationHints (kit : Kit) : Except IntegerTooLong (List (Nat × String)) :=
  (kit.hints.mapM normalizeMarkup).map (hintsOf [])

def nextMarker : Pattern :=
  .anyOf [
    .anyText ["下次", "下一次", "首次"],
    .word "the next",
    .sequence [.wordEdge, .text "next ",
      .anyText ["cast", "use", "attack", "skill", "burst", "normal attack", "charged attack"], .wordEdge]]

def consumedMarker : Pattern :=
  .anyOf [
    .anyText ["后移除", "使用后移除", "施放后移除", "释放后移除", "命中后移除"],
    .sequence [.text "将在", .gap 0 (some 40), .text "后移除"],
    .anyText ["removed after", "consumed"]]

def shareMarker : Pattern :=
  .anyOf [
    .sequence [.anyText ["造成", "提高为", "变为", "改为"], .gap 0 (some 12), .text "原本", .gap 0 (some 6),
      .digits 1 none],
    .sequence [.text "原本", .blanks, .digits 1 none,
      .optional (.sequence [.text ".", .digits 1 none]), .blanks, .text "%"],
    .text "of the original"]

def damageMarker : Pattern :=
  .anyOf [
    .anyText ["伤害", "增伤"], .sequence [.text "造成", .gap 0 (some 12), .text "伤害"], .anyText ["dmg", "damage"]]

def multiplierMarker : Pattern :=
  .anyText ["倍率", "系数", "原本", "提高到", "提升到", "提高至", "提升至", "变为", "变成", "改为", "伤害为原伤害的",
    "multiplier", "ratio", "increased to", "of the original", "instead"]

def isOneShot (evidence : String) : Bool :=
  nextMarker.occursIn evidence || (consumedMarker.occursIn evidence && shareMarker.occursIn evidence)

def scopes : Game → List String
  | .gs => ["a", "a2", "a3", "e", "q", "nightsoul"]
  | .sr => ["a", "a2", "a3", "e", "q", "t", "me", "mt", "dot", "break"]

def isScoped (game : Game) (endings : List String) (key : String) : Bool :=
  let bare := String.ofList (withoutFinalNewline key.toList)
  (scopes game).any fun scope => endings.any fun ending => scope ++ ending == bare

def isDamageLike (game : Game) (key : String) : Bool :=
  !key.isEmpty && !Buff.isDisplayKey key
    && (["dmg", "phy", "enemydmg"].contains key || key.endsWith "Dmg" || key.endsWith "Enemydmg"
      || isScoped game ["Plus", "Pct"] key)

structure Intent where
  oneShot : Bool
  multiplier : Bool
  damage : Bool

def intentOf (evidence : String) : Except IntegerTooLong Intent :=
  (compact evidence).map fun words =>
    { oneShot := !evidence.isEmpty && isOneShot evidence
      multiplier := multiplierMarker.occursIn evidence
      damage := damageMarker.occursIn words }

def evidenceOf (hints : List (Nat × String)) (b : Buff) : Except IntegerTooLong String :=
  let hint := match b.constellation with
    | some level => (hints.lookup level).getD ""
    | none => ""
  (normalizeMarkup b.title).map fun title => trim (title ++ " " ++ hint)

/-- Whether a key stays. Wording of a single hit rules out scoped keys, a multiplier needs wording of its
own, and a key that raises damage needs wording of damage. -/
def keeps (game : Game) (intent : Intent) (key : String) : Bool :=
  if intent.oneShot && (key.endsWith "Multi" || isScoped game BuffKey.scopedEndings key) then false
  else if Buff.isDisplayKey key then true
  else if key.endsWith "Multi" then intent.multiplier
  else !isDamageLike game key || intent.damage

def thin (game : Game) (intent : Intent) (b : Buff) : Option Buff :=
  let data := b.data.filter fun (key, _) => keeps game intent key
  if data.length = b.data.length then some b
  else
    let filtered := { b with data }
    if filtered.effectKeys.isEmpty then none else some filtered

def filterBuff (game : Game) (hints : List (Nat × String)) (b : Buff) : Except IntegerTooLong (Option Buff) := do
  let intent ← intentOf (← evidenceOf hints b)
  return thin game intent b

def filter (kit : Kit) (buffs : List Buff) : Except IntegerTooLong (List Buff) := do
  let hints ← constellationHints kit
  let kept ← buffs.mapM (filterBuff kit.game hints)
  return kept.filterMap id

end DamagePlan.BuffFilter
