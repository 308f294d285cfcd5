import DamagePlan.Script.Loading
import DamagePlan.Text.Pattern

/-!
Sanity bounds for the literal values of buffs: no real kit grants values outside of them.
-/
set_option autoImplicit false

namespace DamagePlan.Script.Bounds

open Text

def percentKey : Pattern :=
  .either
    (.seq (.anyExactly ["Pct", "Dmg", "Enemydmg", "Cdmg", "Cpct", "Multi", "Def", "Ignore"]) .atEnd)
    (.sequence [.atStart, .anyExactly ["cpct", "cdmg", "dmg", "enemydmg", "heal", "shield", "recharge", "kx",
      "fykx", "phy"], .atEnd])

def percentLimit (game : Game) (key : String) : Nat :=
  if game = .sr && key.endsWith "Dmg" then 5000 else 500

def objection? (game : Game) (key : String) (x : Float) : Option String :=
  if !Decimal.isFinite x then some "not finite"
  else if key == "cpct" && x > 100 then some "crit rate above 100"
  else if key == "kx" && game = .sr && x > 100 then some "resistance shred above 100"
  else if key == "enemyDef" && x > 120 then some "defense shred above 120"
  else if (lower key).endsWith "enemydmg" && x > 250 then some "vulnerability above 250"
  else if percentKey.occursIn key then
    if x > Float.ofNat (percentLimit game key) then some s!"percent value above {percentLimit game key}"
    else if x < -80 then some "negative percent below -80"
    else none
  else none

def checkData (game : Game) (i : Nat) (label : String) : List (String × Value) → Except StaticFault Unit
  | [] => .ok ()
  | (key, v) :: rest =>
    match v with
    | .number x =>
      if key.startsWith "_" then checkData game i label rest else
      match objection? game key x.value with
      | some reason => .error (.outOfBounds s!"buffs[{i}] ({label}) {key}={Decimal.briefText x.value}" reason)
      | none => checkData game i label rest
    | _ => checkData game i label rest

def check (game : Game) : (i : Nat) → List (String × List (String × Value)) → Except StaticFault Unit
  | _, [] => .ok ()
  | i, (label, data) :: rest => do
    checkData game i label data
    check game (i + 1) rest

mutual
def withNumbers : Json → Except Decimal.IntegerTooLarge Json
  | .int n => (Decimal.ofInteger n).map .float
  | .arr items => (listWithNumbers items).map .arr
  | .obj fields => (fieldsWithNumbers fields).map .obj
  | j => .ok j

def listWithNumbers : List Json → Except Decimal.IntegerTooLarge (List Json)
  | [] => .ok []
  | j :: js => do return (← withNumbers j) :: (← listWithNumbers js)

def fieldsWithNumbers : List (String × Json) → Except Decimal.IntegerTooLarge (List (String × Json))
  | [] => .ok []
  | (k, j) :: rest => do return (k, ← withNumbers j) :: (← fieldsWithNumbers rest)
end

def ofRecord (record : Json) : Except Decimal.IntegerTooLarge (String × List (String × Value)) := do
  let record ← withNumbers record
  let fields := match record.get "data" with
    | .obj fields => fields
    | _ => []
  return ((record.get "title").plain, (← Value.ofJsonFieldsAt fields 0).1)

end DamagePlan.Script.Bounds
