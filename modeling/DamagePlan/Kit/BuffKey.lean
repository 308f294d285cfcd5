import DamagePlan.Kit.Game
import DamagePlan.Text.Blank

/-!
The vocabulary of buff keys: a key is a stem and an ending, by rules for each game.
-/
set_option autoImplicit false

namespace DamagePlan.BuffKey

structure Rule where
  stems : List String
  endings : List String := []
  mayEndBare : Bool := true

namespace Rule

def keys (rule : Rule) : List String :=
  (if rule.mayEndBare || rule.endings.isEmpty then rule.stems else [])
    ++ rule.stems.flatMap fun stem => rule.endings.map (stem ++ ·)

def admits (rule : Rule) (key : String) : Bool := rule.keys.contains key

def text (rule : Rule) : String :=
  let group (words : List String) : String := "(" ++ "|".intercalate words ++ ")"
  let stems := match rule.stems with
    | [stem] => stem
    | stems => group stems
  let endings := if rule.endings.isEmpty then "" else group rule.endings ++ if rule.mayEndBare then "?" else ""
  "^" ++ stems ++ endings ++ "$"

end Rule

def scopedEndings : List String :=
  ["Def", "Ignore", "Dmg", "Enemydmg", "Plus", "Pct", "Cpct", "Cdmg", "Multi", "Elevated"]

def rules : Game → List Rule
  | .gs => [
    { stems := ["hp", "atk", "def"], endings := ["Base", "Plus", "Pct", "Inc"] },
    { stems := ["mastery", "cpct", "cdmg", "heal", "recharge", "dmg", "phy", "shield"],
      endings := ["Plus", "Pct", "Inc"] },
    { stems := ["enemyDef", "enemyIgnore", "ignore"] },
    { stems := ["kx", "fykx", "multi", "fyplus", "fypct", "fybase", "fyinc", "fycdmg", "elevated"] },
    { stems := ["vaporize", "melt", "crystallize", "burning", "superConduct", "swirl", "electroCharged",
        "shatter", "overloaded", "bloom", "burgeon", "hyperBloom", "aggravate", "spread", "lunarCharged",
        "lunarBloom", "lunarCrystallize"] },
    { stems := ["a", "a2", "a3", "e", "q", "nightsoul"], endings := scopedEndings, mayEndBare := false }]
  | .sr => [
    { stems := ["hp", "atk", "def", "speed"], endings := ["Base", "Plus", "Pct", "Inc"] },
    { stems := ["speed", "recharge", "cpct", "cdmg", "heal", "dmg", "enemydmg", "effPct", "effDef", "shield",
        "stance"], endings := ["Plus", "Pct", "Inc"] },
    { stems := ["enemyDef", "enemyIgnore", "ignore"] },
    { stems := ["kx", "multi"] },
    { stems := ["a", "a2", "a3", "e", "q", "t", "me", "mt", "dot", "break"], endings := scopedEndings,
      mayEndBare := false },
    { stems := ["elation"], endings := ["Pct", "Enemydmg", "Merrymake", "Def", "Ignore"] }]

def isAllowed (game : Game) (key : String) : Bool :=
  let key := Text.trim key
  !key.isEmpty && (key.startsWith "_" || (rules game).any (·.admits key))

end DamagePlan.BuffKey
