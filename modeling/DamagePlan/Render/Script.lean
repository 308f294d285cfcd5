import DamagePlan.Plan.Basic
import DamagePlan.Render.Formula
import DamagePlan.Script.Printer

/-!
Rendering: the calculation script of a plan.
-/
set_option autoImplicit false

namespace DamagePlan.Render

open Script Decimal

inductive Provenance where
  | modelAssisted
  | derived
  | direct
  | heuristic
deriving DecidableEq, Repr

namespace Provenance

def tag : Provenance → String
  | .modelAssisted => "calcplan:model-assisted"
  | .derived => "calcplan:upstream-derived"
  | .direct => "calcplan:upstream-direct"
  | .heuristic => "calcplan:heuristic"

def all : List Provenance := [.modelAssisted, .derived, .direct, .heuristic]

def ofTag? (tag : String) : Option Provenance := all.find? (·.tag == tag)

def ofHeuristic (tag : String) : Provenance :=
  ((ofTag? tag).filter fun p => p = .derived || p = .direct).getD .heuristic

end Provenance

inductive RenderError where
  | nonFinite (kit : String) (e : NonFinite)
  | unreadable (kit : String) (e : IntegerTooLong)
  | integerTooLarge (e : IntegerTooLarge)

def RenderError.message : RenderError → String
  | .nonFinite kit e => s!"failed to render plan for {kit}: {e.message}"
  | .unreadable kit e => s!"failed to render plan for {kit}: {e.message}"
  | .integerTooLarge e => e.message

def RenderError.ofFault (kit : String) : IntegerFault → RenderError
  | .tooLarge e => .integerTooLarge e
  | .tooLong e => .unreadable kit e

/-- The key of the default row: the plan's, else that of the first damage row with a key, else `e`. -/
def defaultKey (plan : Plan) : String :=
  match plan.defaultDamageKey with
  | some key => if key.isEmpty then fallback else key
  | none => fallback
where
  fallback : String :=
    ((plan.details.find? fun d => d.kind = .dmg && !d.damageKey.isEmpty).map (·.damageKey)).getD "e"

/-- The index of the first damage row of a key, else of the first damage row, else 0. -/
def defaultIndex (plan : Plan) (key : String) : Nat :=
  ((plan.details.findIdx? fun d => d.kind = .dmg && d.damageKey == key).or
    (plan.details.findIdx? (·.kind = .dmg))).getD 0

def isPlainParameter : Json → Bool
  | .bool _ | .int _ | .float _ | .str _ => true
  | _ => false

def given (s : Option String) : Option String := s.filter (!·.isEmpty)

def deferText (text : String) : Expr := .deferred (.verbatim text)

def entry? (key : String) (value : Option Expr) : List (String × Expr) := (value.map (key, ·)).toList

def parametersOf (d : Detail) : Except IntegerTooLarge (List (String × Expr)) :=
  match d.params with
  | none | some [] => .ok []
  | some params => do
    let fields ← Expr.ofJsonFields (params.filter fun (_, v) => isPlainParameter v)
    return [("params", .record fields)]

def detailRecord (kit : Kit) (d : Detail) : Except IntegerFault Expr := do
  let params ← parametersOf d
  let amount ← Formula.ofDetail kit d
  return .record ([("title", .string d.title), ("kind", .string d.kind.code)]
    ++ entry? "talent" ((given d.talent).map .string)
    ++ (if d.kind = .reaction then [] else [("dmgKey", .string d.damageKey)])
    ++ params
    ++ entry? "cons" (d.cons.map .natural)
    ++ entry? "check" ((given d.check).map deferText)
    ++ [("dmg", .deferred amount)])

def buffValue : BuffValue → Expr
  | .number x => .number x
  | .expression text => deferText text

def buffRecord (b : Buff) : Except IntegerTooLarge Expr := do
  let sort ← b.sort.mapM ofInteger
  return .record ([("title", .string b.title)]
    ++ entry? "sort" (sort.map .number)
    ++ entry? "cons" (b.constellation.map .natural)
    ++ entry? "tree" (b.trace.map .natural)
    ++ entry? "check" ((given b.check).map deferText)
    ++ [("data", .record (b.data.map fun (k, v) => (k, buffValue v)))])

def build (kit : Kit) (plan : Plan) (tag : String) : Except IntegerFault Program := do
  let key := defaultKey plan
  let details ← plan.details.mapM (detailRecord kit)
  let buffs ← (plan.buffs.mapM buffRecord : Except IntegerTooLarge _)
  return {
    header := s!"Auto-generated by {tag}.\n{kit.name} ({kit.game.code})"
    assignments := [
      ⟨"game", .string kit.game.code⟩, ⟨"createdBy", .string tag⟩, ⟨"mainAttr", .string plan.mainAttrs⟩,
      ⟨"defDmgKey", .string key⟩, ⟨"defDmgIdx", .natural (defaultIndex plan key)⟩,
      ⟨"details", .list details⟩, ⟨"buffs", .list buffs⟩] }

def render (kit : Kit) (plan : Plan) (tag : String) : Except RenderError String := do
  let script ← (build kit plan tag).mapError (.ofFault kit.name)
  script.text.mapError (.nonFinite kit.name)

end DamagePlan.Render
