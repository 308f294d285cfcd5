import DamagePlan.Script.Evaluation

/-!
The bindings of a calculation: the pure helpers, the damage functions of an engine, and the data of a
character or what stands in for it.
-/
set_option autoImplicit false

namespace DamagePlan.Script

structure Context where
  engine : Engine
  bindings : Scope
  marks : Nat := 0

namespace Context

def bindingsOf (talent attr params : Value) (cons : Numeral) (weapon trees element currentTalent : Value) : Scope :=
  [("num", .helper .num), ("pick", .helper .pick), ("sum", .helper .sum), ("isList", .helper .isList),
   ("min", .helper .min), ("max", .helper .max), ("round", .helper .round),
   ("talent", talent), ("attr", attr), ("params", params), ("cons", .number cons), ("weapon", weapon),
   ("trees", trees), ("element", element), ("currentTalent", currentTalent),
   ("dmg", .helper .dmg), ("heal", .helper .heal), ("shield", .helper .shield),
   ("reaction", .helper .reaction), ("calc", .helper .calc), ("toRatio", .helper .toRatio)]

/-- Stand-ins everywhere and no damage. Whether the stand-ins count as true, and whether tables look like
lists, can be chosen, so that both arms of a condition are reached. -/
def zero (game : Game) (truthy arrayTables : Bool) (cons : Numeral) : Context :=
  let standIn (name : String) : Value := .standIn (.zero truthy (some name))
  { engine := .ofKind .zero game
    bindings := bindingsOf (.standIn ⟨true, truthy, arrayTables, some "talent"⟩) (standIn "attr")
      (standIn "params") cons (standIn "weapon") (standIn "trees") (.string "") (.string "") }

def recording (game : Game) (talent attr params : Value) (cons : Numeral) (weapon trees : Value)
    (element currentTalent : String) : Context :=
  { engine := .ofKind .recording game
    bindings := bindingsOf talent attr params cons weapon trees (.string element) (.string currentTalent) }

def empty : Context := { engine := .ofKind .zero .gs, bindings := [] }

def invoke (context : Context) (body : Expr) (captured : Scope) : Except Failure Value × Trace :=
  (Script.invoke context.engine context.bindings body captured).run { marks := context.marks }

end Context

end DamagePlan.Script
