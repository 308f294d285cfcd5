import DamagePlan.Text.Pattern

/-!
What table names tell: damage, buffs, healing, shields, and the stat they speak of.
-/
set_option autoImplicit false

namespace DamagePlan.TableName

open Text

def damageMarker : Pattern := .anyOf [.text "伤害", .word "dmg", .text "damage"]

def buffMarker : Pattern :=
  .anyOf [
    .anyText ["提高", "提升", "增加", "降低", "减少", "加成", "增伤", "穿透", "无视", "概率", "几率", "命中", "抵抗",
      "击破效率", "削韧", "冷却", "能量", "回合", "持续时间"],
    .anyText ["bonus", "boost", "increase", "decrease", "reduction", "penetration", "ignore", "chance",
      "probability", "toughness", "cooldown"],
    .word "cd", .anyText ["energy", "duration"],
    .sequence [.wordEdge, .text "turn", .optional (.text "s"), .wordEdge]]

def healMarker : Pattern := .anyOf [.anyText ["治疗", "回复", "healing"], .seq .wordEdge (.text "heal")]

def shieldMarker : Pattern := .anyText ["护盾", "shield"]

def healthMarker : Pattern := .anyText ["生命上限", "生命值上限", "最大生命值", "生命值", "max hp"]

def defenseMarker : Pattern := .anyOf [.text "防御力", .word "def"]

def isHan (c : Char) : Bool := 0x4e00 ≤ c.toNat && c.toNat ≤ 0x9fff

def hasHan (s : String) : Bool := s.toList.any isHan

def isDamage (name : String) : Bool := damageMarker.occursIn name && !buffMarker.occursIn name

def isVariantAmong (names : List String) (name : String) : Bool :=
  name.toList.getLast? = some '2' && names.contains (String.ofList name.toList.dropLast)

def pickDamage? (names : List String) : Option String :=
  let candidates := names.filter isDamage
  (candidates.find? (!isVariantAmong candidates ·)).or candidates.head?

def titleFor (name chinese english : String) : String := if hasHan name then chinese else english

end DamagePlan.TableName
