import DamagePlan.Command.Arguments
import DamagePlan.Command.LogLevel
import DamagePlan.Compile.Basic
import DamagePlan.Document.Basic

/-!
A run of the command: settings and kit are read, the kit is compiled, and the script is printed or saved.
-/
set_option autoImplicit false

namespace DamagePlan.Command

structure Surroundings where
  stack : Script.Stack
  files : Files
  environment : String → Option String

inductive CommandError where
  | document (e : DocumentError)
  | logLevel (e : LogLevelFault)
  | noAccessKey (name : String)
  | compile (e : Compile.CompileError)
  | save (e : FileFault)

def fallbackKeyVariable : String := "OPENAI_API_KEY"

def CommandError.message : CommandError → String
  | .document e => e.message
  | .logLevel e => e.message
  | .noAccessKey name => s!"Model is enabled but no API key found in ${name} or ${fallbackKeyVariable}"
  | .compile e => e.message
  | .save e => e.message

structure Report where
  notes : List String
  script : String
  target : Option Path
  files : Files

namespace Report

def errorText (r : Report) : String :=
  let saved := match r.target with
    | some target => ["", s!"Saved script to {target.text}"]
    | none => []
  String.join ((r.notes ++ saved).map (· ++ "\n"))

def outputText (r : Report) : String := if r.target.isSome then "" else r.script ++ "\n"

end Report

def save (target : Path) (script : String) : FileWork Unit := do
  FileWork.keepFolders target.parent
  FileWork.write target script.toUTF8.toList

def kitNotes (kit : Kit) : List String :=
  let tables := (kit.tables.map fun (_, names) => names.length).foldl (· + ·) 0
  [s!"Character: {kit.name} ({kit.game.code})", s!"Tables: {tables} across {kit.tables.length} talents"]

def disabledNote : String := "Model: disabled, heuristic planner only"

def modelNote (settings : ModelSettings) : String :=
  s!"Model: {settings.model} (max {settings.maxAttempts} attempts)"

def outcomeNotes (o : Compile.Outcome) : List String :=
  let usedModel := if o.usedModel then "True" else "False"
  let error := match o.error with
    | some e => if e.isEmpty then [] else [s!"  Error: {e}"]
    | none => []
  ["", "Result:", s!"  Used model: {usedModel}", s!"  Attempts: {o.attempts}", s!"  Provenance: {o.provenance.tag}"] ++ error

def Surroundings.hasAccessKey (s : Surroundings) (settings : ModelSettings) : Bool :=
  [settings.keyVariable, fallbackKeyVariable].any fun name => (s.environment name).any (!·.isEmpty)

def compile {σ : Type} (s : Surroundings) (client : Client σ) (state : σ) (settings : Settings) (args : Arguments)
    (kit : Kit) : Except CommandError (String × Compile.Outcome) :=
  let tag := args.provenance.tag
  if settings.model.enabled && !args.noModel then
    if s.hasAccessKey settings.model then
      ((Compile.withModel s.stack settings.model settings.cache client kit tag { client := state }).1.mapError .compile).map
        (modelNote settings.model, ·)
    else .error (.noAccessKey settings.model.keyVariable)
  else ((Compile.heuristic s.stack kit tag).mapError .compile).map (disabledNote, ·)

def levelName? (args : Arguments) (settings : Settings) : Option String :=
  (args.logLevel.toList ++ [settings.logLevel]).find? (!·.isEmpty)

def run {σ : Type} (s : Surroundings) (clientFor : ModelSettings → Client σ) (state : σ) (args : Arguments) :
    Except CommandError Report := do
  let settings ← (Document.settings s.files (args.config.map Path.ofText)).mapError .document
  if let some e := (levelName? args settings).bind logLevelFault? then throw (.logLevel e)
  let kit ← (Document.kit s.files (Path.ofText args.input)).mapError .document
  let (note, outcome) ← compile s (clientFor settings.model) state settings args kit
  let target := args.output.map Path.ofText
  let saving : FileWork Unit := match target with
    | some target => save target outcome.script
    | none => pure ()
  match saving.run.run s.files with
  | (.error e, _) => throw (.save e)
  | (.ok (), files) =>
    return { notes := kitNotes kit ++ [note] ++ outcomeNotes outcome, script := outcome.script, target, files }

end DamagePlan.Command
