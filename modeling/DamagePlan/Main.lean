import DamagePlan.Command.Basic

/-!
The command line: compiles the kit of one file into a calculation script.
-/
set_option autoImplicit false

open DamagePlan DamagePlan.Command

namespace DamagePlan.Main

def usage : String :=
  "usage: damage-plan [-h] --input INPUT [--config CONFIG] [--output OUTPUT] [--no-model]\n" ++
  "                   [--provenance \x7b" ++ ",".intercalate (Render.Provenance.all.map (·.tag)) ++ "\x7d]\n" ++
  "                   [--log-level LOG_LEVEL]\n"

def help : String := usage ++ "
Compile an ability calculation script

options:
  -h, --help               show this help message and exit
  --input INPUT            file of the kit, in YAML or JSON
  --config CONFIG          file of the settings
  --output OUTPUT          file for the script
  --no-model               use the heuristic planner only
  --provenance PROVENANCE  tag that the script is marked with
  --log-level LOG_LEVEL    level of the log
"

def offline (settings : ModelSettings) : Client Unit where
  model := settings.model
  send _ _ s := (.error ⟨"APIConnectionError", "Connection error."⟩, s)

def look (names : List String) : IO (Option Entry) := do
  let path := "/" ++ "/".intercalate names
  try
    return some (.file (← IO.FS.readBinFile path).toList)
  catch
    | .inappropriateType .. => return some .folder
    | _ => return none

def lookedAt (folder : Path) (args : Arguments) : List (List String) :=
  let paths := args.input :: (args.config.toList ++ args.output.toList)
  let full := folder.names :: paths.map fun text => (folder.resolve (Path.ofText text)).names
  (full.flatMap fun names => (List.range names.length).map fun count => names.take (count + 1)).eraseDups

def surroundings (args : Arguments) : IO Surroundings := do
  let folder := Path.ofText (← IO.currentDir).toString
  let entries ← (lookedAt folder args).filterMapM fun names => return (← look names).map (names, ·)
  let files : Files := { folder := folder.names, entries }
  let names := [fallbackKeyVariable] ++ match Document.settings files (args.config.map Path.ofText) with
    | .ok settings => [settings.model.keyVariable]
    | .error _ => []
  let known ← names.mapM fun name => return (name, ← IO.getEnv name)
  return { files, environment := fun name => (known.lookup name).join, stack := .levels 200 }

def deliver (r : Report) : IO Unit := do
  match r.target with
  | some target =>
    IO.FS.createDirAll target.parent.text
    IO.FS.writeFile target.text r.script
  | none => IO.print r.outputText
  IO.eprint r.errorText

end DamagePlan.Main

def main (words : List String) : IO UInt32 := do
  match Arguments.ofWords words with
  | .error .help =>
    IO.print Main.help
    return 0
  | .error (.usage e) =>
    IO.eprint (Main.usage ++ s!"damage-plan: error: {e.message}\n")
    return 2
  | .ok args =>
    match run (← Main.surroundings args) Main.offline () args with
    | .error e =>
      IO.eprintln e.message
      return 1
    | .ok report =>
      Main.deliver report
      return 0
