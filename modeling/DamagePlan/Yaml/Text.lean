import DamagePlan.Json.Parser
import DamagePlan.Yaml.Place

/-!
Texts of scalars: plain ones, and those in single or double quotes. A line break inside one counts as a space, and
further ones stay.
-/
set_option autoImplicit false

namespace DamagePlan.Yaml

def foldBreaks : List Char → List Char
  | [] => []
  | ['\n'] => [' ']
  | first :: more => if first == '\n' then more else first :: more

def isInlineBlank (c : Char) : Bool := c == ' ' || c == '\t'

def isFlowSign (c : Char) : Bool := c == ',' || c == '[' || c == ']' || c == '\x7b' || c == '\x7d'

def isIndicator (c : Char) : Bool := "-?:,[]\x7b\x7d#&*!|>'\"%@".toList.contains c || c == '\x60'

def beginsPlain (inFlow : Bool) (p : Place) : Bool :=
  match p.rest with
  | [] => false
  | c :: rest =>
    if isInlineBlank c || isBreak c then false
    else if !isIndicator c then true
    else !endsWord rest.head? && (c == '-' || (!inFlow && (c == '?' || c == ':')))

def plainRun (inFlow : Bool) : List Char → Nat
  | [] => 0
  | c :: rest =>
    let colonEnds := c == ':' && (endsWord rest.head? || (inFlow && rest.head?.any isFlowSign))
    if isInlineBlank c || isBreak c || colonEnds || (inFlow && (isFlowSign c || c == '?')) then 0
    else plainRun inFlow rest + 1

def skipBreaks : (fuel : Nat) → Place → List Char × Place
  | 0, p => ([], p)
  | fuel + 1, p =>
    if p.isDocumentEnd then ([], p) else
    match p.head? with
    | some c =>
      if c == ' ' then skipBreaks fuel p.next
      else if isBreak c then
        let (more, q) := skipBreaks fuel p.next
        ((if c == '\r' || c == '\x85' then '\n' else c) :: more, q)
      else ([], p)
    | none => ([], p)

def plainGap (p : Place) : List Char × Place :=
  let (spaces, q) := p.span (· != ' ')
  if q.head?.any isBreak then
    let (breaks, r) := skipBreaks (q.rest.length + 1) q
    (foldBreaks breaks, r)
  else (spaces, q)

/-- Reads runs of plain text; `indent` is the least column of further lines outside of flow collections. The place
is the one after the last run. -/
def plainRuns (inFlow : Bool) (indent : Nat) : (fuel : Nat) → Place → List Char × Place
  | 0, p => ([], p)
  | fuel + 1, p =>
    let count := plainRun inFlow p.rest
    let run := p.rest.take count
    let after := p.skip count
    let (gap, q) := plainGap after
    if gap.isEmpty || q.isDocumentEnd || q.head? == some '#' || (!inFlow && q.column < indent)
        || plainRun inFlow q.rest == 0 then (run, after)
    else
      let (more, final) := plainRuns inFlow indent fuel q
      (run ++ gap ++ more, final)

def plain (inFlow : Bool) (indent : Nat) (p : Place) : String × Place :=
  let (text, q) := plainRuns inFlow indent (p.rest.length + 1) p
  (String.ofList text, q)

def quotedBreaks : (fuel : Nat) → Place → Reading (List Char)
  | 0, p => .ok ([], p)
  | fuel + 1, p =>
    if p.isDocumentEnd && !p.isEnd then p.malformed else
    let q := (p.span (!isInlineBlank ·)).2
    match q.head? with
    | some c =>
      if isBreak c then
        (quotedBreaks fuel q.next).map fun (more, r) => ((if c == '\r' || c == '\x85' then '\n' else c) :: more, r)
      else .ok ([], q)
    | none => .ok ([], q)

def quotedGap (p : Place) : Reading (List Char) :=
  let (blanks, q) := p.span (!isInlineBlank ·)
  match q.head? with
  | none => q.malformed
  | some c =>
    if !isBreak c then .ok (blanks, q)
    else
      let first := if c == '\r' || c == '\x85' then '\n' else c
      (quotedBreaks (q.rest.length + 1) q.next).map fun (more, r) => (foldBreaks (first :: more), r)

def escapes : List (Char × Char) := [
  ('0', '\x00'), ('a', '\x07'), ('b', '\x08'), ('t', '\t'), ('\t', '\t'), ('n', '\n'), ('v', '\x0b'), ('f', '\x0c'),
  ('r', '\r'), ('e', '\x1b'), (' ', ' '), ('"', '"'), ('\\', '\\'), ('/', '/'), ('N', '\x85'), ('_', '\xa0'),
  ('L', '\u2028'), ('P', '\u2029')]

def numericEscapes : List (Char × Nat) := [('x', 2), ('u', 4), ('U', 8)]

def hexValue? (count : Nat) (cs : List Char) : Option Nat :=
  if cs.length < count then none
  else (cs.take count).foldl (fun n c => do return (← n) * 16 + (← Json.hexValue? c)) (some 0)

def escape (p : Place) : Reading (List Char) :=
  match p.rest with
  | [] => p.malformed
  | c :: rest =>
    match escapes.lookup c, numericEscapes.lookup c with
    | some d, _ => .ok ([d], p.next)
    | none, some count =>
      match hexValue? count rest with
      | some n =>
        if n < 0x110000 then .ok ([Json.unitChar n], p.skip (count + 1)) else .error (.noCharacter n)
      | none => p.malformed
    | none, none => if isBreak c then quotedBreaks (rest.length + 1) p.next else p.malformed

def quotedInside (quote : Char) : (fuel : Nat) → Place → Except Fault (List Char × Place)
  | 0, p => p.malformed
  | fuel + 1, p =>
    match p.rest with
    | [] => p.malformed
    | c :: rest =>
      if c == quote then
        if quote == '\'' && rest.head? == some '\'' then
          (quotedInside quote fuel (p.skip 2)).map fun (more, q) => ('\'' :: more, q)
        else .ok ([], p.next)
      else do
        let (part, q) ←
          if isInlineBlank c || isBreak c then quotedGap p
          else if c == '\\' && quote == '"' then escape p.next
          else .ok ([c], p.next)
        let (more, r) ← quotedInside quote fuel q
        return (part ++ more, r)

def quoted (quote : Char) (p : Place) : Reading String :=
  (quotedInside quote (p.rest.length + 1) p.next).map fun (cs, q) => (String.ofList cs, q)

end DamagePlan.Yaml
