import DamagePlan.Plan.Detail
import DamagePlan.Text.Pattern

/-!
Classes of normal-attack rows, the ones that make room when a plan is full.
-/
set_option autoImplicit false

namespace DamagePlan.RowClass

open Text

def segmentMarker : Pattern :=
  .anyOf [
    .anyText ["一段", "二段", "三段", "四段", "五段", "六段", "七段", "八段", "九段", "十段", "段伤害"],
    .sequence [.wordEdge, .digits 1 (some 1), .anyText ["st", "nd", "rd", "th"],
      .optional (.one fun c => c == '-' || c == ' '), .text "hit", .wordEdge],
    .sequence [.wordEdge, .text "hit", .optional (.text " "), .digits 1 (some 1), .wordEdge],
    .text "segment"]

def chargedMarker : Pattern :=
  .anyText ["重击", "下落", "坠地", "瞄准", "charged", "plunge", "plunging", "aimed"]

def aggregateMarker : Pattern :=
  .anyText ["单次", "每段", "每跳", "每次", "总伤", "总计", "合计", "一轮", "total", "per hit"]

def rowText (d : Detail) : String := d.title ++ " " ++ d.table.getD ""

def isAttack (d : Detail) : Bool :=
  d.kind = .dmg && d.talent = some "a" && !aggregateMarker.occursIn (rowText d)

def isNormal (d : Detail) : Bool :=
  isAttack d && d.damageKey != "a2" && !chargedMarker.occursIn (rowText d)

def isSegment (d : Detail) : Bool := isNormal d && segmentMarker.occursIn (rowText d)

def isCharged (d : Detail) : Bool :=
  isAttack d && (d.damageKey == "a2" || d.damageKey == "a3" || chargedMarker.occursIn (rowText d))

end DamagePlan.RowClass
