import DamagePlan.Form.Basic
import DamagePlan.Kit.Game

/-!
Kits: the structured description of one character's abilities. The tables of a kit are the whitelist of
everything a plan may refer to.
-/
set_option autoImplicit false

namespace DamagePlan

def Talent.areKeysOf (tables : Fields (List String)) : Bool := tables.all fun entry => keys.contains entry.1

structure Kit where
  game : Game
  name : String
  element : String := ""
  weapon : Option String := none
  star : Option Nat := none
  tables : Fields (List String) := []
  units : Fields (Fields String) := []
  samples : Fields (Fields Json) := []
  textSamples : Fields (Fields String) := []
  descriptions : Fields String := []
  hints : List String := []
  known : Talent.areKeysOf tables = true := by exact (rfl : true = true)

namespace Kit

theorem talent_known (kit : Kit) (entry : String × List String) (member : entry ∈ kit.tables) : entry.1 ∈ Talent.keys := by
  simpa using List.all_eq_true.mp kit.known entry member

def tablesOf (kit : Kit) (talent : String) : List String := (kit.tables.find? talent).getD []

def hasTable (kit : Kit) (talent table : Option String) : Bool :=
  match talent, table with
  | some t, some n => !t.isEmpty && !n.isEmpty && (kit.tablesOf t).contains n
  | _, _ => false

def evidence (kit : Kit) : String := "\n".intercalate (kit.hints ++ kit.descriptions.map (·.2))

def normalizeNames (names : List String) : List String :=
  ((names.map Text.trim).filter (!·.isEmpty)).eraseDups

structure Tables where
  entries : Fields (List String) := []
  known : Talent.areKeysOf entries = true := by exact (rfl : true = true)

def checkTables (tables : Fields (List String)) : Form.Checked Tables :=
  let entries := tables.map fun (talent, names) => (talent, normalizeNames names)
  if known : Talent.areKeysOf entries = true then .valid { entries, known } else .fail .valueError

def cleanHints (hints : List String) : List String := (hints.map Text.trim).filter (!·.isEmpty)

def readGame : Form.Reader Game
  | .scalar (.text s) => match Game.ofCode? s with
    | some game => .valid game
    | none => .fail .enum
  | _ => .fail .enum

def ofParts (game : Game) (name element : String) (weapon : Option String) (star : Option Nat) (tables : Tables)
    (units : Fields (Fields String)) (samples : Fields (Fields Json)) (textSamples : Fields (Fields String))
    (descriptions : Fields String) (hints : List String) : Kit :=
  { game, name, element, weapon, star, tables := tables.entries, units, samples, textSamples, descriptions, hints,
    known := tables.known }

open Form in
def read (record : Fields Datum) : Checked Kit :=
  ofParts
    <$> required record "game" readGame
    <*> required record "name" Reader.string
    <*> defaulted record "element" "" Reader.string
    <*> optional record "weapon" Reader.string
    <*> optional record "star" (Reader.naturalIn 1 (some 5))
    <*> defaulted record "tables" {} (fun d => (Reader.fields (Reader.list Reader.string) d).andThen checkTables)
    <*> defaulted record "table_units" [] (Reader.fields (Reader.fields Reader.string))
    <*> defaulted record "table_samples" [] (Reader.fields (Reader.fields Reader.any))
    <*> defaulted record "table_text_samples" [] (Reader.fields (Reader.fields Reader.string))
    <*> defaulted record "talent_desc" [] (Reader.fields Reader.string)
    <*> defaulted record "buff_hints" [] (fun d => cleanHints <$> Reader.list Reader.string d)

def ofJson : Json → Form.Checked Kit := Form.ofObject read

def toFields (kit : Kit) : Fields Json :=
  Fields.present [("game", some (.str kit.game.code)), ("name", some (.str kit.name)),
    ("element", some (.str kit.element)), ("weapon", kit.weapon.map .str), ("star", kit.star.map .ofNat),
    ("tables", some (.ofFields .ofTexts kit.tables)), ("table_units", some (.ofFields (.ofFields .str) kit.units)),
    ("table_samples", some (.ofFields .obj kit.samples)),
    ("table_text_samples", some (.ofFields (.ofFields .str) kit.textSamples)),
    ("talent_desc", some (.ofFields .str kit.descriptions)), ("buff_hints", some (.ofTexts kit.hints))]

end Kit

end DamagePlan
