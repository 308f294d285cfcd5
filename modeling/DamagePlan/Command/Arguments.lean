import DamagePlan.Render.Script
import DamagePlan.Text.Letter
import DamagePlan.Text.Lines
import DamagePlan.Text.Quoted

/-!
Arguments of the command. An option may be shortened as long as it stays unique and may carry its value after an
equals sign; of a repeated option the last one counts.
-/
set_option autoImplicit false

namespace DamagePlan.Command

open Render (Provenance)

inductive Choice where
  | help
  | input
  | config
  | output
  | noModel
  | provenance
  | logLevel
deriving DecidableEq

namespace Choice

def all : List Choice := [.help, .input, .config, .output, .noModel, .provenance, .logLevel]

def name : Choice → String
  | .help => "--help"
  | .input => "--input"
  | .config => "--config"
  | .output => "--output"
  | .noModel => "--no-model"
  | .provenance => "--provenance"
  | .logLevel => "--log-level"

def shortHelp : String := "-h"

def display (o : Choice) : String := if o = .help then s!"{shortHelp}/{o.name}" else o.name

def takesValue (o : Choice) : Bool := o ≠ .help && o ≠ .noModel

def ofName? (s : String) : Option Choice := all.find? (·.name == s)

def beginningWith (s : String) : List Choice := all.filter fun o => s.toList.isPrefixOf o.name.toList

end Choice

inductive UsageError where
  | ambiguous (word : String) (candidates : List Choice)
  | valueMissing (o : Choice)
  | valueIgnored (o : Choice) (value : String)
  | unknownProvenance (tag : String)
  | inputMissing
  | unrecognized (words : List String)

def UsageError.message : UsageError → String
  | .ambiguous word candidates =>
    let names := ", ".intercalate (candidates.map Choice.name)
    s!"ambiguous option: {word} could match {names}"
  | .valueMissing o => s!"argument {o.display}: expected one argument"
  | .valueIgnored o value => s!"argument {o.display}: ignored explicit argument {Text.quoted value}"
  | .unknownProvenance tag =>
    let tags := ", ".intercalate (Provenance.all.map fun p => Text.quoted p.tag)
    s!"argument {Choice.provenance.name}: invalid choice: {Text.quoted tag} (choose from {tags})"
  | .inputMissing => s!"the following arguments are required: {Choice.input.name}"
  | .unrecognized words => "unrecognized arguments: " ++ " ".intercalate words

inductive Word where
  | choice (o : Choice) (value : Option String)
  | unknown (text : String)
  | plain (text : String)

def splitValue (s : String) : String × Option String :=
  match s.toList.span (· != '=') with
  | (name, _ :: value) => (String.ofList name, some (String.ofList value))
  | (_, []) => (s, none)

def isNegativeNumber (s : String) : Bool :=
  match s.toList with
  | '-' :: rest =>
    let cs := Text.withoutFinalNewline rest
    match cs.dropWhile Text.isDecimalDigit with
    | [] => !cs.isEmpty
    | '.' :: places => !places.isEmpty && places.all Text.isDecimalDigit
    | _ => false
  | _ => false

def shortened (s : String) : List (Choice × Option String) :=
  match s.toList with
  | '-' :: '-' :: _ =>
    let (name, value) := splitValue s
    (Choice.beginningWith name).map (·, value)
  | _ => []

def Word.ofShortHelp (following : List Char) : Word :=
  let value := match following with
    | '=' :: value => value
    | letters => letters
  if following.isEmpty || (!value.isEmpty && value.all (· == 'h')) then .choice .help none
  else .choice .help (some (String.ofList value))

def Word.ofText (s : String) : Except UsageError Word :=
  match s.toList with
  | '-' :: 'h' :: following => .ok (.ofShortHelp following)
  | ['-'] => .ok (.plain s)
  | '-' :: _ =>
    match Choice.ofName? s, Choice.ofName? (splitValue s).1, shortened s with
    | some o, _, _ => .ok (.choice o none)
    | none, some o, _ => .ok (.choice o (splitValue s).2)
    | none, none, [(o, value)] => .ok (.choice o value)
    | none, none, [] => .ok (if isNegativeNumber s || s.toList.contains ' ' then .plain s else .unknown s)
    | none, none, candidates => .error (.ambiguous s (candidates.map (·.1)))
  | _ => .ok (.plain s)

def Word.ofTexts : List String → Except UsageError (List Word)
  | [] => .ok []
  | s :: rest =>
    if s == "--" then .ok (.unknown s :: rest.map .plain)
    else do return (← Word.ofText s) :: (← Word.ofTexts rest)

structure Arguments where
  input : String
  config : Option String := none
  output : Option String := none
  noModel : Bool := false
  provenance : Provenance := .modelAssisted
  logLevel : Option String := none

inductive Refusal where
  | help
  | usage (e : UsageError)

namespace Arguments

structure Draft where
  input : Option String := none
  arguments : Arguments := { input := "" }
  extra : List String := []

def Draft.flag (d : Draft) : Choice → Except Refusal Draft
  | .help => .error .help
  | .noModel => .ok { d with arguments := { d.arguments with noModel := true } }
  | o => .error (.usage (.valueMissing o))

def Draft.assign (d : Draft) (o : Choice) (value : String) : Except Refusal Draft :=
  match o with
  | .input => .ok { d with input := some value }
  | .config => .ok { d with arguments := { d.arguments with config := some value } }
  | .output => .ok { d with arguments := { d.arguments with output := some value } }
  | .logLevel => .ok { d with arguments := { d.arguments with logLevel := some value } }
  | .provenance =>
    match Provenance.ofTag? value with
    | some p => .ok { d with arguments := { d.arguments with provenance := p } }
    | none => .error (.usage (.unknownProvenance value))
  | .help | .noModel => .error (.usage (.valueIgnored o value))

def Draft.read (d : Draft) : List Word → Except Refusal Draft
  | [] => .ok d
  | .plain s :: rest => Draft.read { d with extra := d.extra ++ [s] } rest
  | .unknown s :: rest => Draft.read { d with extra := d.extra ++ [s] } rest
  | .choice o (some value) :: rest => do Draft.read (← d.assign o value) rest
  | [.choice o none] => d.flag o
  | .choice o none :: .plain value :: rest =>
    if o.takesValue then do Draft.read (← d.assign o value) rest
    else do Draft.read (← d.flag o) (.plain value :: rest)
  | .choice o none :: next :: rest => do Draft.read (← d.flag o) (next :: rest)

def Draft.finish (d : Draft) : Except Refusal Arguments :=
  match d.input with
  | none => .error (.usage .inputMissing)
  | some input => if d.extra.isEmpty then .ok { d.arguments with input } else .error (.usage (.unrecognized d.extra))

def ofWords (words : List String) : Except Refusal Arguments := do
  (← Draft.read {} (← (Word.ofTexts words).mapError .usage)).finish

end Arguments

end DamagePlan.Command
