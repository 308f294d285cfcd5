import DamagePlan.Plan.Detail
import DamagePlan.Plan.Buff

/-!
Plans: what a script is rendered from.
-/
set_option autoImplicit false

namespace DamagePlan

structure Plan where
  mainAttrs : String
  defaultDamageKey : Option String := none
  details : List Detail := []
  buffs : List Buff := []

namespace Plan

def maxDetails : Nat := 20

def maxBuffs : Nat := 30

def limited {α : Type} (most : Nat) (xs : List α) : Form.Checked (List α) :=
  if most < xs.length then .fail .tooLong else .valid xs

def build (mainAttrs : Json) (defaultDamageKey : Json) (details : List Detail) (buffs : List Buff) :
    Form.Checked Plan :=
  Plan.mk
    <$> (Form.Reader.nonEmptyString (.ofJson mainAttrs)).inside "main_attr_list"
    <*> (Form.Reader.nullable Form.Reader.string (.ofJson defaultDamageKey)).inside "default_damage_key"
    <*> (limited maxDetails details).inside "details"
    <*> (limited maxBuffs buffs).inside "buffs"

end Plan

end DamagePlan
