import DamagePlan.Document.Files
import DamagePlan.Json.Parser
import DamagePlan.Json.Printer
import DamagePlan.Text.Lines

/-!
Stored answers: a folder with one JSON file per key. An entry that cannot be read as one counts as absent, unless
its bytes are no text at all or it holds an integer of too many digits.
-/
set_option autoImplicit false

namespace DamagePlan

inductive EntryError where
  | file (e : FileFault)
  | undecodable (e : Undecodable)
  | integerTooLong (e : Decimal.IntegerTooLong)

structure Store where
  root : Path
  purpose : String := "calc-plan"

namespace Store

def pathOf (s : Store) (key : String) : Path :=
  (s.root.join (Path.ofText s.purpose)).join (Path.ofText (key ++ ".json"))

def entryText (createdAt : String) (model : Option String) (answer : String) : String :=
  let entry : Json := .obj [("created_at", .str createdAt), ("model", (model.map Json.str).getD .null),
    ("text", .str answer)]
  { indent := some 2 : Json.Style }.render entry ++ "\n"

def answerOf (text : String) : Except Decimal.IntegerTooLong (Option String) :=
  match Json.parseList (Text.universalNewlines text.toList) with
  | .error e =>
    match e.kind with
    | .integerTooLong e => .error e
    | _ => .ok none
  | .ok entry => .ok ((entry.field? "text").bind Json.str?)

def get (s : Store) (files : Files) (key : String) : Except EntryError (Option String) :=
  match files.read (s.pathOf key) with
  | .error e => if e.kind = .nameTooLong then .error (.file e) else .ok none
  | .ok bytes => do
    let text ← (decodeText bytes).mapError .undecodable
    (answerOf text).mapError .integerTooLong

def writeAside (path : Path) (bytes : List UInt8) : FileWork Unit := do
  FileWork.keepFolders path.parent
  let aside := path.withEnding ".json.tmp"
  FileWork.write aside bytes
  FileWork.move aside path

def put (s : Store) (createdAt : String) (key answer : String) (model : Option String := none) : FileWork Unit :=
  tryCatch (writeAside (s.pathOf key) (entryText createdAt model answer).toUTF8.toList) fun e => do
    if e.kind = .endMark then throw e

def write (s : Store) (key : String) (bytes : List UInt8) : FileWork Unit := do
  FileWork.keepFolders (s.pathOf key).parent
  FileWork.write (s.pathOf key) bytes

end Store

end DamagePlan
