import DamagePlan.Yaml.Node
import DamagePlan.Yaml.Text

/-!
Reading YAML of the common kind: block mappings and sequences by indentation, flow collections, plain and quoted
scalars, and comments, in a single document.
-/
set_option autoImplicit false

namespace DamagePlan.Yaml

def maxKeyLength : Nat := 1024

def mayBeKey (start final : Place) : Bool :=
  start.line == final.line && start.rest.length - final.rest.length ≤ maxKeyLength

def plainNode (inFlow : Bool) (indent : Nat) (p : Place) : Node × Place :=
  let (text, q) := plain inFlow indent p
  (.plain text, q)

mutual
def flowNode : (fuel : Nat) → Place → Reading Node
  | 0, p => p.malformed
  | fuel + 1, p =>
    if p.isDocumentEnd then p.malformed else
    match p.head? with
    | some '[' => (flowItems fuel [] p.next.skipLayout).map fun (items, q) => (.sequence items, q)
    | some '\x7b' => (flowEntries fuel [] p.next.skipLayout).map fun (entries, q) => (.mapping entries, q)
    | some '"' => (quoted '"' p).map fun (s, q) => (.quoted s, q)
    | some '\'' => (quoted '\'' p).map fun (s, q) => (.quoted s, q)
    | _ => if beginsPlain true p then .ok (plainNode true 0 p) else p.malformed

def flowValue : (fuel : Nat) → (closing : Char) → Place → Reading Node
  | 0, _, p => p.malformed
  | fuel + 1, closing, p =>
    match p.head? with
    | some c => if c == ',' || c == closing then .ok (.empty, p) else flowNode fuel p
    | none => p.malformed

def flowPair : (fuel : Nat) → (closing : Char) → Place → Except Fault ((Node × Option Node) × Place)
  | 0, _, p => p.malformed
  | fuel + 1, closing, p => do
    let (node, q) ← flowNode fuel p
    let after := q.skipLayout
    if after.head? != some ':' then return ((node, none), after)
    else if !mayBeKey p after then after.malformed
    else
      let (value, r) ← flowValue fuel closing after.next.skipLayout
      return ((node, some value), r.skipLayout)

def flowItems : (fuel : Nat) → (items : List Node) → Place → Except Fault (List Node × Place)
  | 0, _, p => p.malformed
  | fuel + 1, items, p =>
    if p.head? == some ']' then .ok (items, p.next) else do
    let ((node, value), q) ← flowPair fuel ']' p
    let items := items ++ [match value with
      | none => node
      | some value => .mapping [(node, value)]]
    match q.head? with
    | some ',' => flowItems fuel items q.next.skipLayout
    | some ']' => return (items, q.next)
    | _ => q.malformed

def flowEntries : (fuel : Nat) → (entries : List (Node × Node)) → Place → Except Fault (List (Node × Node) × Place)
  | 0, _, p => p.malformed
  | fuel + 1, entries, p =>
    if p.head? == some '\x7d' then .ok (entries, p.next) else do
    let ((node, value), q) ← flowPair fuel '\x7d' p
    let entries := entries ++ [(node, value.getD .empty)]
    match q.head? with
    | some ',' => flowEntries fuel entries q.next.skipLayout
    | some '\x7d' => return (entries, q.next)
    | _ => q.malformed
end

def inlineNode (fuel indent : Nat) (p : Place) : Reading Node :=
  match p.head? with
  | some c =>
    if c == '[' || c == '\x7b' || c == '"' || c == '\'' then flowNode fuel p
    else if beginsPlain false p then .ok (plainNode false indent p)
    else p.malformed
  | none => p.malformed

def skipSpaces (p : Place) : Place := (p.span (· != ' ')).2

def endsLine (p : Place) : Bool :=
  match (skipSpaces p).head? with
  | some c => c == '#' || isBreak c
  | none => true

def blockKey (fuel indent : Nat) (p : Place) : Except Fault (Node × Place) := do
  let (node, q) ← inlineNode fuel indent p
  let after := skipSpaces q
  if after.isMark ':' && mayBeKey p after then return (node, after.next) else after.malformed

mutual
/-- A node whose column is beyond that of the block around it, which is `indent - 1`. Where a key or a dash is not
allowed to begin a block, `opens` is false. Without a node there the value is empty. -/
def blockNode : (fuel indent : Nat) → (opens : Bool) → Place → Except Fault (Node × Place)
  | 0, _, _, p => p.malformed
  | fuel + 1, indent, opens, from_ =>
    let p := from_.skipLayout
    let opens := opens || p.line != from_.line
    if p.isDocumentEnd || p.column < indent then .ok (.empty, p)
    else if p.isMark '-' then
      if opens then (sequence fuel p.column false [] p).map fun (items, q) => (.sequence items, q) else p.malformed
    else do
      let (node, q) ← inlineNode fuel indent p
      if (skipSpaces q).isMark ':' then
        if opens && mayBeKey p (skipSpaces q) then
          let (entries, r) ← mapping fuel p.column [] p
          return (.mapping entries, r)
        else q.malformed
      else if endsLine q then return (node, q)
      else q.malformed

/-- Entries of a block sequence from a dash at its column on. A mapping may go on after a sequence at its own
column, which then is `nested`. -/
def sequence : (fuel column : Nat) → (nested : Bool) → (items : List Node) → Place → Except Fault (List Node × Place)
  | 0, _, _, _, p => p.malformed
  | fuel + 1, column, nested, items, p => do
    let (item, q) ← blockNode fuel (column + 1) true p.next
    let items := items ++ [item]
    let after := q.skipLayout
    if after.isDocumentEnd || after.column < column then return (items, after)
    else if after.column == column && after.isMark '-' then sequence fuel column nested items after
    else if after.column == column && nested then return (items, after)
    else after.malformed

def mapping : (fuel column : Nat) → (entries : List (Node × Node)) → Place →
    Except Fault (List (Node × Node) × Place)
  | 0, _, _, p => p.malformed
  | fuel + 1, column, entries, p => do
    let (key, q) ← blockKey fuel (column + 1) p
    let (value, r) ← entryValue fuel column q
    let entries := entries ++ [(key, value)]
    let after := r.skipLayout
    if after.isDocumentEnd || after.column < column then return (entries, after)
    else if after.column == column then mapping fuel column entries after
    else after.malformed

def entryValue : (fuel column : Nat) → Place → Reading Node
  | 0, _, p => p.malformed
  | fuel + 1, column, from_ =>
    let p := from_.skipLayout
    if !p.isDocumentEnd && p.line != from_.line && p.column == column && p.isMark '-' then
      (sequence fuel column true [] p).map fun (items, q) => (.sequence items, q)
    else blockNode fuel (column + 1) false from_
end

def isAllowed (c : Char) : Bool :=
  let n := c.toNat
  n == 9 || n == 10 || n == 13 || (0x20 ≤ n && n ≤ 0x7e) || n == 0x85 || (0xa0 ≤ n && n ≤ 0xd7ff)
    || (0xe000 ≤ n && n ≤ 0xfffd) || 0x10000 ≤ n

def skipStart (p : Place) : Place :=
  let q := p.skipLayout
  if q.isDocumentEnd && q.rest.take 3 == "---".toList then q.skip 3 else q

def isFinished : (fuel : Nat) → Place → Bool
  | 0, _ => false
  | fuel + 1, p =>
    let q := p.skipLayout
    q.isEnd || (q.isDocumentEnd && q.rest.take 3 == "...".toList && isFinished fuel (q.skip 3))

def document (s : String) : Except Fault Node := do
  let cs := s.toList
  let start : Place := { rest := if cs.head? = some '\ufeff' then cs.tail else cs }
  if !cs.all isAllowed then start.malformed else
  let first := start.skipLayout
  if first.isDocumentEnd && first.rest.take 3 == "...".toList then first.malformed else
  let body := skipStart start
  let (node, p) ← blockNode (4 * cs.length + 8) 0 (body.line == first.line && body.column == first.column) body
  if isFinished (p.rest.length + 1) p then return node else p.malformed

def parse (s : String) : Except Fault Datum := do (← document s).toDatum

end DamagePlan.Yaml
