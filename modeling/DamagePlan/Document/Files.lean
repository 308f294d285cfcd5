import DamagePlan.Document.Path
import DamagePlan.Text.Quoted

/-!
A tree of files and folders: looking at what stands at a path, reading it, and changing it. A path is followed name
by name, so that all but its last name have to be folders, and two dots go back to the folder above.
-/
set_option autoImplicit false

namespace DamagePlan

inductive Entry where
  | folder
  | file (bytes : List UInt8)

inductive FileFaultKind where
  | missing
  | alreadyThere
  | notFolder
  | isFolder
  | nameTooLong
  | endMark
deriving DecidableEq

structure FileFault where
  kind : FileFaultKind
  path : Path

def FileFaultKind.message : FileFaultKind → String
  | .missing => "[Errno 2] No such file or directory"
  | .alreadyThere => "[Errno 17] File exists"
  | .notFolder => "[Errno 20] Not a directory"
  | .isFolder => "[Errno 21] Is a directory"
  | .nameTooLong => "[Errno 36] File name too long"
  | .endMark => "embedded null byte"

def FileFault.message (e : FileFault) : String :=
  if e.kind = .endMark then e.kind.message else e.kind.message ++ ": " ++ Text.quoted e.path.text

structure Undecodable where
  bytes : List UInt8

def decodeText (bytes : List UInt8) : Except Undecodable String :=
  match String.fromUTF8? bytes.toByteArray with
  | some text => .ok text
  | none => .error ⟨bytes⟩

structure Files where
  folder : List String := []
  entries : List (List String × Entry) := []

namespace Files

def maxNameSize : Nat := 255

def maxPathSize : Nat := 4096

def entryAt? (files : Files) (place : List String) : Option Entry :=
  if place.isEmpty then some .folder else files.entries.lookup place

def follow (files : Files) (place : List String) : List String → Except FileFaultKind (List String)
  | [] => .ok place
  | name :: rest =>
    match files.entryAt? place with
    | none => .error .missing
    | some (.file _) => .error .notFolder
    | some .folder =>
      if name == ".." then follow files place.dropLast rest
      else if maxNameSize < name.utf8ByteSize then .error .nameTooLong
      else follow files (place ++ [name]) rest

def locate (files : Files) (p : Path) : Except FileFault (List String) :=
  if p.hasEndMark then .error ⟨.endMark, p⟩
  else if maxPathSize ≤ p.text.utf8ByteSize then .error ⟨.nameTooLong, p⟩
  else (files.follow (if p.root.isEmpty then files.folder else []) p.names).mapError (⟨·, p⟩)

def find (files : Files) (p : Path) : Except FileFault Entry := do
  match files.entryAt? (← files.locate p) with
  | some entry => return entry
  | none => .error ⟨.missing, p⟩

def isFolder (files : Files) (p : Path) : Bool :=
  match files.find p with
  | .ok .folder => true
  | _ => false

def read (files : Files) (p : Path) : Except FileFault (List UInt8) := do
  match ← files.find p with
  | .file bytes => return bytes
  | .folder => .error ⟨.isFolder, p⟩

def set (files : Files) (place : List String) (entry : Entry) : Files :=
  { files with entries := files.entries.filter (·.1 != place) ++ [(place, entry)] }

def remove (files : Files) (place : List String) : Files :=
  { files with entries := files.entries.filter (·.1 != place) }

def below (files : Files) (place : List String) : List (List String × List UInt8) :=
  files.entries.filterMap fun (names, entry) =>
    match entry with
    | .folder => none
    | .file bytes => if place.isPrefixOf names then some (names.drop place.length, bytes) else none

def ofList (files : List (List String × List UInt8)) : Files where
  entries :=
    (files.flatMap fun (names, _) => (List.range names.length).map fun count => (names.take count, Entry.folder))
      ++ files.map fun (names, bytes) => (names, .file bytes)

end Files

abbrev FileWork := ExceptT FileFault (StateM Files)

namespace FileWork

def locate (p : Path) : FileWork (List String) := do MonadExcept.ofExcept ((← get).locate p)

def makeFolder (p : Path) : FileWork Unit := do
  let place ← locate p
  if ((← get).entryAt? place).isSome then throw ⟨.alreadyThere, p⟩
  modify (·.set place .folder)

def keepFolder (p : Path) : FileWork Unit :=
  tryCatch (makeFolder p) fun e => do
    if !(← get).isFolder p then throw e

def keepFoldersOf (root : String) : (names : List String) → FileWork Unit
  | [] => keepFolder { root }
  | name :: above =>
    let p : Path := { root, names := (name :: above).reverse }
    tryCatch (keepFolder p) fun e => do
      if e.kind = .missing then
        keepFoldersOf root above
        keepFolder p
      else throw e

def keepFolders (p : Path) : FileWork Unit := keepFoldersOf p.root p.names.reverse

def write (p : Path) (bytes : List UInt8) : FileWork Unit := do
  let place ← locate p
  if (← get).isFolder p then throw ⟨.isFolder, p⟩
  modify (·.set place (.file bytes))

def move (source target : Path) : FileWork Unit := do
  let bytes ← MonadExcept.ofExcept ((← get).read source)
  let from_ ← locate source
  write target bytes
  let place ← locate target
  if from_ != place then modify (·.remove from_)

end FileWork

end DamagePlan
