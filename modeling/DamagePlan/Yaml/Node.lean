import DamagePlan.Yaml.Scalar

/-!
Nodes of a YAML document, and the data that they stand for. Of several faults in a document the least deep one
counts, and of equally deep ones the first.
-/
set_option autoImplicit false

namespace DamagePlan.Yaml

inductive Node where
  | plain (text : String)
  | quoted (text : String)
  | sequence (items : List Node)
  | mapping (entries : List (Node × Node))

namespace Node

def empty : Node := .plain ""

end Node

structure DeepFault where
  depth : Nat
  fault : Fault

abbrev Built (α : Type) := Except DeepFault α

namespace Built

def ofExcept {α : Type} (result : Except Fault α) : Built α := result.mapError (⟨0, ·⟩)

def inside {α : Type} (result : Built α) : Built α := result.mapError fun e => { e with depth := e.depth + 1 }

def both {α β : Type} : Built α → Built β → Built (α × β)
  | .ok a, .ok b => .ok (a, b)
  | .error e, .error f => .error (if f.depth < e.depth then f else e)
  | .error e, .ok _ => .error e
  | .ok _, .error f => .error f

def all {α : Type} : List (Built α) → Built (List α)
  | [] => .ok []
  | result :: results => (both result (all results)).map fun (a, as) => a :: as

end Built

structure Part where
  key : Built Scalar
  value : Built Datum

def Part.built (p : Part) : Built (Scalar × Datum) := Built.both p.key p.value

namespace Node

def isMergeSign : Node → Bool
  | .plain text => text == mergeSign
  | _ => false

def key : Node → Except Fault Scalar
  | .plain text => if text == defaultSign then .ok (.text text) else plainValue text
  | .quoted text => .ok (.text text)
  | .sequence _ => .error .keyOfParts
  | .mapping _ => .error .keyOfParts

mutual
/-- The datum that a node stands for. Nodes in a collection are built after the collection's own keys and scalars. -/
def build : Node → Built Datum
  | .plain text => Built.ofExcept ((plainValue text).map .scalar)
  | .quoted text => .ok (.scalar (.text text))
  | .sequence items => (Built.all (buildItems items)).map .list
  | .mapping entries => do
    let parts ← Built.ofExcept (entryParts entries)
    let built ← Built.all (parts.map Part.built)
    return .mapping (built.foldl (fun done (key, value) => Datum.insertEntry key value done) [])

def buildInside : Node → Built Datum
  | .plain text => build (.plain text)
  | .quoted text => build (.quoted text)
  | .sequence items => Built.inside (build (.sequence items))
  | .mapping entries => Built.inside (build (.mapping entries))

def buildItems : List Node → List (Built Datum)
  | [] => []
  | node :: nodes => buildInside node :: buildItems nodes

def entryParts (entries : List (Node × Node)) : Except Fault (List Part) :=
  (splitParts entries).map fun (merged, own) => merged ++ own

def splitParts : List (Node × Node) → Except Fault (List Part × List Part)
  | [] => .ok ([], [])
  | (key, value) :: rest =>
    if key.isMergeSign then do
      let here ← mergeParts value
      let (merged, own) ← splitParts rest
      return (here ++ merged, own)
    else do
      let part : Part := ⟨Built.ofExcept key.key, buildInside value⟩
      let (merged, own) ← splitParts rest
      return (merged, part :: own)

def mergeParts : Node → Except Fault (List Part)
  | .mapping entries => entryParts entries
  | .sequence items => do return (← mergeItems items).reverse.flatten
  | .plain _ => .error .unmergeable
  | .quoted _ => .error .unmergeable

def mergeItems : List Node → Except Fault (List (List Part))
  | [] => .ok []
  | .mapping entries :: nodes => do return (← entryParts entries) :: (← mergeItems nodes)
  | _ :: _ => .error .unmergeable
end

def toDatum (node : Node) : Except Fault Datum := (build node).mapError (·.fault)

end Node

end DamagePlan.Yaml
