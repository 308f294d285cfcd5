/-!
Paths of files: names under a root, or under the folder that work is done in.
-/
set_option autoImplicit false

namespace DamagePlan

structure Path where
  root : String := ""
  names : List String := []
deriving DecidableEq

namespace Path

def ofText (s : String) : Path :=
  let slashes := (s.toList.takeWhile (· == '/')).length
  let names := (s.toList.splitOnP (· == '/')).map String.ofList
  { root := if slashes = 0 then "" else if slashes = 2 then "//" else "/"
    names := names.filter fun name => name != "" && name != "." }

def text (p : Path) : String :=
  if p.root.isEmpty && p.names.isEmpty then "." else p.root ++ "/".intercalate p.names

def join (folder p : Path) : Path := if p.root.isEmpty then { folder with names := folder.names ++ p.names } else p

def hasEndMark (p : Path) : Bool := p.names.any fun name => name.toList.contains '\x00'

def parent (p : Path) : Path := { p with names := p.names.dropLast }

def takeBack (names : List String) : List String :=
  names.foldl (fun taken name => if name == ".." then taken.dropLast else taken ++ [name]) []

def resolve (folder p : Path) : Path :=
  { root := "/", names := takeBack (if p.root.isEmpty then folder.names ++ p.names else p.names) }

def splitEnding (p : Path) : String × String :=
  let name := (p.names.getLast?.getD "").toList
  let tail := (name.reverse.takeWhile (· != '.')).reverse
  if 0 < tail.length && tail.length + 1 < name.length then
    (String.ofList (name.take (name.length - tail.length - 1)), String.ofList ('.' :: tail))
  else (String.ofList name, "")

def ending (p : Path) : String := p.splitEnding.2

def withEnding (p : Path) (ending : String) : Path :=
  { p with names := p.names.dropLast ++ [p.splitEnding.1 ++ ending] }

end Path

end DamagePlan
