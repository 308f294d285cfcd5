import DamagePlan.Kit.Basic
import DamagePlan.Kit.Reaction
import DamagePlan.Plan.Detail

/-!
Evidence for reactions and rare mechanics in a kit's texts, and the pruning of rows without it.
-/
set_option autoImplicit false

namespace DamagePlan.Evidence

open Text

def masteryMarker : Pattern :=
  .anyOf [.anyText ["元素精通", "精通", "elemental mastery"], .word "mastery", .word "em"]

def reactionMarker : Pattern :=
  .anyText ["反应", "绽放", "扩散", "结晶", "燃烧", "超载", "感电", "超导", "碎冰", "击破", "reaction", "break"]

def mechanics : List (String × Pattern) := [("elation", .anyText ["欢愉", "elation"])]

def wording? (id : String) : Option Pattern := (Reaction.evidence.lookup id).or (mechanics.lookup id)

/-- Whether the kit's texts name a reaction. Damage of a transformative one scales with mastery, so texts
that speak of mastery and of reactions count for it. -/
def supports (kit : Kit) (id : String) : Bool :=
  (wording? id).any (·.occursIn kit.evidence)
    || ((Reaction.transformative kit.game).contains id
      && masteryMarker.occursIn kit.evidence && reactionMarker.occursIn kit.evidence)

def isSpecial (game : Game) (id : String) : Bool :=
  (Reaction.transformative game).contains id || mechanics.any (·.1 == id)

def mechanicOf? (game : Game) (d : Detail) : Option String :=
  (if d.kind = .reaction then d.reaction else d.element).filter (isSpecial game)

def maxSpecialRows : Nat := 2

def prune (kit : Kit) : (limit : Nat) → List Detail → List Detail
  | _, [] => []
  | limit, d :: rest =>
    match mechanicOf? kit.game d with
    | none => d :: prune kit limit rest
    | some id =>
      if !supports kit id then prune kit limit rest
      else match limit with
        | 0 => prune kit 0 rest
        | limit + 1 => d :: prune kit limit rest

end DamagePlan.Evidence
