/-!
The two games whose characters are planned, and talent keys: the ability blocks that tables belong to.
-/
set_option autoImplicit false

namespace DamagePlan

inductive Game where
  | gs
  | sr
deriving DecidableEq, Repr

namespace Game

def code : Game → String
  | .gs => "gs"
  | .sr => "sr"

def ofCode? (s : String) : Option Game :=
  if s == "gs" then some .gs else if s == "sr" then some .sr else none

theorem ofCode?_code (g : Game) : ofCode? g.code = some g := by cases g <;> rfl

end Game

end DamagePlan

namespace DamagePlan.Talent

def keys : List String :=
  ["a", "a2", "a3", "e", "e1", "e2", "q", "q2", "t", "t2", "z", "me", "me2", "mt", "mt1", "mt2"]

def core : Game → List String
  | .gs => ["a", "e", "q"]
  | .sr => ["a", "e", "q", "t"]

def rank (talent : String) : Nat := keys.idxOf talent

end DamagePlan.Talent
