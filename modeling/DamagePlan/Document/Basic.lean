import DamagePlan.Document.Files
import DamagePlan.Json.Parser
import DamagePlan.Kit.Basic
import DamagePlan.Settings
import DamagePlan.Text.Lines
import DamagePlan.Yaml.Reader

/-!
Documents: files that hold one mapping, in JSON if their name ends so and in YAML otherwise. Kits and settings are
read from them.
-/
set_option autoImplicit false

namespace DamagePlan

inductive DocumentError where
  | missing (path : Path)
  | file (e : FileFault)
  | undecodable (e : Undecodable)
  | json (e : Json.ParseError) (source : List Char)
  | yaml (e : Yaml.Fault)
  | noMapping (path : Path) (value : Datum)
  | unnamedField
  | fields (errors : List Form.FieldError)

namespace Document

def isJsonFile (path : Path) : Bool :=
  path.ending.map (fun c => if 'A' ≤ c && c ≤ 'Z' then Char.ofNat (c.toNat + 32) else c) == ".json"

def text (files : Files) (path : Path) : Except DocumentError String := do
  let bytes ← (files.read path).mapError fun e =>
    if e.kind = .missing || e.kind = .notFolder then .missing path else .file e
  (decodeText bytes).mapError .undecodable

def value (path : Path) (text : String) : Except DocumentError Datum :=
  let source := Text.universalNewlines text.toList
  if isJsonFile path then ((Json.parseList source).mapError (.json · source)).map .ofJson
  else (Yaml.parse (String.ofList source)).mapError .yaml

def mapping (files : Files) (path : Path) : Except DocumentError (Fields Datum) := do
  if path.hasEndMark then throw (.file ⟨.endMark, path⟩)
  let full := Path.resolve { root := "/", names := files.folder } path
  match ← value full (← text files full) with
  | .mapping entries =>
    if entries.all fun (key, _) => key.text?.isSome then return Datum.namedEntries entries
    else throw .unnamedField
  | value => throw (.noMapping full value)

def kit (files : Files) (path : Path) : Except DocumentError Kit := do
  (Kit.read (← mapping files path)).toExcept.mapError .fields

def settings (files : Files) (path : Option Path) : Except DocumentError Settings :=
  match path with
  | none => .ok {}
  | some path => do (Settings.read (← mapping files path)).toExcept.mapError .fields

end Document

def DocumentError.message : DocumentError → String
  | .missing path => s!"File not found: {path.text}"
  | .file e => e.message
  | .undecodable _ => "the text is no UTF-8"
  | .json e source => e.message source
  | .yaml e => e.message
  | .noMapping path value => s!"Expected a mapping in {path.text}, got {value.kindName}"
  | .unnamedField => "keywords must be strings"
  | .fields errors => "; ".intercalate (errors.map fun e => s!"{e.place}: {e.kind.code}")

end DamagePlan
