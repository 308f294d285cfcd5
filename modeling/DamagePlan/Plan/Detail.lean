import DamagePlan.Form.Basic

/-!
Details: the showcase rows of a plan.
-/
set_option autoImplicit false

namespace DamagePlan

inductive DetailKind where
  | dmg
  | heal
  | shield
  | reaction
deriving DecidableEq, Repr

namespace DetailKind

def code : DetailKind → String
  | .dmg => "dmg"
  | .heal => "heal"
  | .shield => "shield"
  | .reaction => "reaction"

def ofCode? (s : String) : Option DetailKind :=
  [DetailKind.dmg, .heal, .shield, .reaction].find? (·.code == s)

end DetailKind

structure Detail where
  title : String
  kind : DetailKind := .dmg
  talent : Option String := none
  table : Option String := none
  key : Option String := none
  element : Option String := none
  scaleStat : Option String := none
  reaction : Option String := none
  pick : Option Nat := none
  params : Option (Fields Json) := none
  check : Option String := none
  raw : Option String := none
  cons : Option Nat := none

namespace Detail

def damageKey (d : Detail) : String :=
  match d.key with
  | some key => if Text.isBlankText key then d.talent.getD "" else Text.trim key
  | none => d.talent.getD ""

structure Identity where
  kind : DetailKind
  talent : Option String
  table : Option String
  damageKey : String
  element : Option String
  reaction : Option String
  pick : Option Nat
  raw : Option String
deriving DecidableEq

def identity (d : Detail) : Identity :=
  ⟨d.kind, d.talent, d.table, d.damageKey, d.element, d.reaction, d.pick, d.raw⟩

def isGiven (s : Option String) : Bool := s.any (!·.isEmpty)

def hasKindFields (d : Detail) : Bool :=
  match d.kind with
  | .reaction => isGiven d.reaction
  | _ => isGiven d.talent && isGiven d.table

def readKind : Form.Reader DetailKind
  | .scalar (.text s) => match DetailKind.ofCode? s with
    | some kind => .valid kind
    | none => .fail .enum
  | _ => .fail .enum

open Form in
def read (record : Fields Datum) : Checked Detail :=
  (Detail.mk
    <$> required record "title" Reader.nonEmptyString
    <*> defaulted record "kind" .dmg readKind
    <*> optional record "talent" Reader.string
    <*> optional record "table" Reader.string
    <*> optional record "key" Reader.string
    <*> optional record "element" Reader.string
    <*> optional record "scale_stat" Reader.string
    <*> optional record "reaction" Reader.string
    <*> optional record "pick" (Reader.naturalIn 0 (some 10))
    <*> optional record "params" (Reader.fields Reader.any)
    <*> optional record "check_expr" Reader.string
    <*> optional record "raw_expr" Reader.string
    <*> optional record "cons" (Reader.naturalIn 1 (some 6))).andThen fun d =>
  if d.hasKindFields then .valid d else .fail .valueError

def ofJson : Json → Form.Checked Detail := Form.ofObject read

def toFields (d : Detail) : Fields Json :=
  Fields.present [("title", some (.str d.title)), ("kind", some (.str d.kind.code)), ("talent", d.talent.map .str),
    ("table", d.table.map .str), ("key", d.key.map .str), ("element", d.element.map .str),
    ("scale_stat", d.scaleStat.map .str), ("reaction", d.reaction.map .str), ("pick", d.pick.map .ofNat),
    ("params", d.params.map .obj), ("check_expr", d.check.map .str), ("raw_expr", d.raw.map .str),
    ("cons", d.cons.map .ofNat)]

end Detail

end DamagePlan
