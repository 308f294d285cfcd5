import DamagePlan.Text.Blank
import DamagePlan.Yaml.Fault

/-!
Places in a YAML text: what is left of the text, and the line and column where that begins.
-/
set_option autoImplicit false

namespace DamagePlan.Yaml

structure Place where
  rest : List Char
  line : Nat := 0
  column : Nat := 0

abbrev Reading (α : Type) := Except Fault (α × Place)

def isBreak (c : Char) : Bool := c == '\n' || c == '\r' || c == '\x85' || c == '\u2028' || c == '\u2029'

def endsWord (c : Option Char) : Bool := c.all fun c => c == ' ' || c == '\t' || isBreak c

namespace Place

def malformed {α : Type} (p : Place) : Except Fault α := .error (.malformed p.line p.column)

def head? (p : Place) : Option Char := p.rest.head?

def isEnd (p : Place) : Bool := p.rest.isEmpty

def next (p : Place) : Place :=
  match p.rest with
  | [] => p
  | c :: rest =>
    if isBreak c then ⟨rest, p.line + 1, 0⟩ else ⟨rest, p.line, if c == '\ufeff' then p.column else p.column + 1⟩

def skip : (count : Nat) → Place → Place
  | 0, p => p
  | count + 1, p => skip count p.next

def span (stops : Char → Bool) (p : Place) : List Char × Place :=
  let taken := p.rest.takeWhile (!stops ·)
  (taken, p.skip taken.length)

def isDocumentEnd (p : Place) : Bool :=
  p.isEnd || (p.column == 0 && (p.rest.take 3 == "---".toList || p.rest.take 3 == "...".toList)
    && endsWord (p.rest.drop 3).head?)

def skipLayoutFrom : (fuel : Nat) → Place → Place
  | 0, p => p
  | fuel + 1, p =>
    match p.head? with
    | some ' ' => skipLayoutFrom fuel p.next
    | some '#' => skipLayoutFrom fuel (p.span isBreak).2
    | some c => if isBreak c then skipLayoutFrom fuel p.next else p
    | none => p

def skipLayout (p : Place) : Place := skipLayoutFrom (p.rest.length + 1) p

def isMark (p : Place) (mark : Char) : Bool :=
  match p.rest with
  | c :: rest => c == mark && endsWord rest.head?
  | [] => false

end Place

end DamagePlan.Yaml
