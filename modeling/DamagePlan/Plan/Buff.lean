import DamagePlan.Form.Basic

/-!
Buffs: conditional or constant modifiers of a character's stats.
-/
set_option autoImplicit false

namespace DamagePlan

inductive BuffValue where
  | number (x : Float)
  | expression (text : String)

def BuffValue.toJson : BuffValue → Json
  | .number x => .float x
  | .expression text => .str text

structure Buff where
  title : String
  sort : Option Int := none
  constellation : Option Nat := none
  trace : Option Nat := none
  check : Option String := none
  data : Fields BuffValue := []

namespace Buff

def isDisplayKey (key : String) : Bool := key.startsWith "_"

def effectKeys (b : Buff) : List String := b.data.keys.filter (!isDisplayKey ·)

def readValue : Form.Reader BuffValue
  | .scalar (.text s) => .valid (.expression s)
  | d => match Form.Reader.float d with
    | .valid x => .valid (.number x)
    | .invalid es => .invalid
      (es.map (fun e => { e with location := "float" :: e.location }) ++ [⟨["str"], .stringType⟩])

open Form in
def read (record : Fields Datum) : Checked Buff :=
  Buff.mk
    <$> required record "title" Reader.nonEmptyString
    <*> optional record "sort" Reader.integer
    <*> optional record "constellation_req" (Reader.naturalIn 1 (some 6))
    <*> optional record "trace_req" (Reader.naturalIn 1 (some 10))
    <*> optional record "check_expr" Reader.string
    <*> defaulted record "data" [] (Reader.fields readValue)

def ofJson : Json → Form.Checked Buff := Form.ofObject read

def toFields (b : Buff) : Fields Json :=
  Fields.present [("title", some (.str b.title)), ("sort", b.sort.map .int),
    ("constellation_req", b.constellation.map .ofNat), ("trace_req", b.trace.map .ofNat),
    ("check_expr", b.check.map .str), ("data", some (.ofFields BuffValue.toJson b.data))]

end Buff

end DamagePlan
