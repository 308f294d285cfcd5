import DamagePlan.Kit.Game
import DamagePlan.Text.Pattern

/-!
Reactions of the two games: their canonical spelling, the words that give evidence of them, and the
elements that trigger them.
-/
set_option autoImplicit false

namespace DamagePlan.Reaction

open Text

def ids : Game → List String
  | .gs => ["vaporize", "melt", "aggravate", "spread", "swirl", "crystallize", "bloom", "hyperBloom", "burgeon",
    "burning", "superConduct", "electroCharged", "overloaded", "shatter", "lunarCharged", "lunarBloom",
    "lunarCrystallize"]
  | .sr => ["shock", "burn", "windShear", "bleed", "entanglement", "physicalBreak", "fireBreak", "iceBreak",
    "lightningBreak", "windBreak", "quantumBreak", "imaginaryBreak", "superBreak"]

def amplifying : List String := ["vaporize", "melt", "aggravate", "spread"]

def transformative (game : Game) : List String := (ids game).filter (!amplifying.contains ·)

def elementOverrides : Game → List String
  | .gs => ["phy", "scene", "vaporize", "melt", "aggravate", "spread", "swirl", "crystallize", "bloom",
    "hyperBloom", "burgeon", "burning", "superConduct", "electroCharged", "overloaded", "shatter",
    "lunarCharged", "lunarBloom", "lunarCrystallize"]
  | .sr => ["scene", "shock", "burn", "windShear", "bleed", "entanglement", "skillDot", "physicalBreak",
    "fireBreak", "iceBreak", "lightningBreak", "windBreak", "quantumBreak", "imaginaryBreak", "superBreak",
    "elation"]

def canonicalAmong (spellings : List String) (s : String) : Option String :=
  if s.isEmpty then none else spellings.find? fun spelling => lower spelling == lower (trim s)

def canonical? (game : Game) (s : String) : Option String := canonicalAmong (ids game) s

def canonicalOverride? (game : Game) (s : String) : Option String := canonicalAmong (elementOverrides game) s

def joined (first second : String) : Pattern :=
  .sequence [.text first, .gap 0 (some 1), .text second]

def breakEvidence : Pattern := .anyText ["击破", "break"]

def evidence : List (String × Pattern) := [
  ("vaporize", .anyText ["蒸发", "vaporiz"]),
  ("melt", .anyText ["融化", "melt"]),
  ("aggravate", .anyText ["超激化", "aggravat", "quicken", "激化"]),
  ("spread", .anyText ["蔓激化", "spread", "quicken", "激化"]),
  ("swirl", .anyText ["扩散", "swirl"]),
  ("crystallize", .anyText ["结晶", "crystalliz"]),
  ("bloom", .anyText ["绽放", "bloom"]),
  ("hyperBloom", .anyText ["超绽放", "hyperbloom"]),
  ("burgeon", .anyText ["烈绽放", "burgeon"]),
  ("burning", .anyText ["燃烧", "burning"]),
  ("superConduct", .anyText ["超导", "superconduct"]),
  ("electroCharged", .either (.text "感电")
    (.sequence [.text "electro", .optional (.text "-"), .text "charged"])),
  ("overloaded", .anyText ["超载", "overload"]),
  ("shatter", .anyText ["碎冰", "shatter"]),
  ("lunarCharged", .either (.text "月感电") (joined "lunar" "charged")),
  ("lunarBloom", .either (.text "月绽放") (joined "lunar" "bloom")),
  ("lunarCrystallize", .either (.text "月结晶") (joined "lunar" "crystalliz")),
  ("shock", .anyText ["触电", "shock"]),
  ("burn", .anyText ["灼烧", "burn"]),
  ("windShear", .either (.text "风化") (joined "wind" "shear")),
  ("bleed", .anyText ["裂伤", "bleed"]),
  ("entanglement", .anyText ["纠缠", "entangle"]),
  ("superBreak", .either (.text "超击破") (joined "super" "break")),
  ("physicalBreak", breakEvidence), ("fireBreak", breakEvidence), ("iceBreak", breakEvidence),
  ("lightningBreak", breakEvidence), ("windBreak", breakEvidence), ("quantumBreak", breakEvidence),
  ("imaginaryBreak", breakEvidence)]

def amplifiedBy : List (String × String) := [
  ("pyro", "vaporize"), ("火", "vaporize"), ("hydro", "vaporize"), ("水", "vaporize"), ("cryo", "melt"),
  ("冰", "melt"), ("electro", "aggravate"), ("雷", "aggravate"), ("dendro", "spread"), ("草", "spread")]

def transformedBy : List (String × String) := [
  ("anemo", "swirl"), ("风", "swirl"), ("geo", "crystallize"), ("岩", "crystallize"), ("dendro", "bloom"),
  ("草", "bloom"), ("hydro", "bloom"), ("水", "bloom"), ("electro", "hyperBloom"), ("雷", "hyperBloom"),
  ("pyro", "burgeon"), ("火", "burgeon"), ("cryo", "shatter"), ("冰", "shatter")]

def titles : List (String × String) := [
  ("swirl", "Swirl DMG"), ("crystallize", "Crystallize Shield"), ("bloom", "Bloom DMG"),
  ("hyperBloom", "Hyperbloom DMG"), ("burgeon", "Burgeon DMG"), ("shatter", "Shatter DMG"),
  ("burning", "Burning DMG"), ("overloaded", "Overloaded DMG"), ("superConduct", "Superconduct DMG"),
  ("electroCharged", "Electro-Charged DMG")]

end DamagePlan.Reaction
