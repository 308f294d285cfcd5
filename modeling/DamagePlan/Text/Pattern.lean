import DamagePlan.Text.Blank
import DamagePlan.Text.Letter
import DamagePlan.Text.Case

/-!
Text patterns and the places where they match. A pattern yields all its ends in order of preference:
the first alternative before the second, and a longer run before a shorter one.
-/
set_option autoImplicit false

namespace DamagePlan.Text

structure Place where
  before : Option Char
  rest : List Char
  marks : List (Nat × List Char) := []

inductive Pattern where
  | empty
  | one (accepts : Char → Bool)
  | run (accepts : Char → Bool) (least : Nat) (most : Option Nat)
  | seq (first second : Pattern)
  | either (first second : Pattern)
  | mark (label : Nat) (inner : Pattern)
  | wordEdge
  | atStart
  | atEnd

namespace Pattern

def runEnds (accepts : Char → Bool) : (least : Nat) → (most : Option Nat) → Place → List Char → List Place
  | least, _, place, [] => if least = 0 then [place] else []
  | least, most, place, c :: rest =>
    let here := if least = 0 then [place] else []
    if most = some 0 || !accepts c then here
    else runEnds accepts (least - 1) (most.map (· - 1)) { place with before := some c, rest := rest } rest ++ here

def isWordAt (c : Option Char) : Bool := c.any isWordChar

def ends : Pattern → Place → List Place
  | .empty, place => [place]
  | .one accepts, place =>
    match place.rest with
    | [] => []
    | c :: rest => if accepts c then [{ place with before := some c, rest := rest }] else []
  | .run accepts least most, place => runEnds accepts least most place place.rest
  | .seq first second, place => (first.ends place).flatMap second.ends
  | .either first second, place => first.ends place ++ second.ends place
  | .mark label inner, place => (inner.ends place).map fun e =>
      { e with marks := (label, place.rest.take (place.rest.length - e.rest.length)) :: e.marks }
  | .wordEdge, place => if isWordAt place.before != isWordAt place.rest.head? then [place] else []
  | .atStart, place => if place.before.isNone then [place] else []
  | .atEnd, place => if place.rest.isEmpty || place.rest == ['\n'] then [place] else []

def searchFrom (p : Pattern) (before : Option Char) : List Char → Option Place
  | [] => (p.ends ⟨before, [], []⟩).head?
  | c :: rest =>
    match (p.ends ⟨before, c :: rest, []⟩).head? with
    | some e => some e
    | none => searchFrom p (some c) rest

def search? (p : Pattern) (s : String) : Option Place := p.searchFrom none s.toList

def occursIn (p : Pattern) (s : String) : Bool := (p.search? s).isSome

def match? (p : Pattern) (s : String) : Option Place := (p.ends ⟨none, s.toList, []⟩).head?

def replaceFrom (p : Pattern) (by_ : List Char) : (skip : Nat) → (before : Option Char) → List Char → List Char
  | _, _, [] => []
  | skip + 1, _, c :: rest => replaceFrom p by_ skip (some c) rest
  | 0, before, c :: rest =>
    match (p.ends ⟨before, c :: rest, []⟩).head? with
    | some e =>
      let taken := (c :: rest).length - e.rest.length
      if taken = 0 then c :: replaceFrom p by_ 0 (some c) rest
      else by_ ++ replaceFrom p by_ (taken - 1) (some c) rest
    | none => c :: replaceFrom p by_ 0 (some c) rest

def replaceAll (p : Pattern) (by_ s : String) : String :=
  String.ofList (p.replaceFrom by_.toList 0 none s.toList)

def text (s : String) : Pattern := s.toList.foldr (fun c p => .seq (.one (foldsTo c)) p) .empty

def exactly (s : String) : Pattern := s.toList.foldr (fun c p => .seq (.one (· == c)) p) .empty

def word (s : String) : Pattern := .seq .wordEdge (.seq (text s) .wordEdge)

def sequence (ps : List Pattern) : Pattern := ps.foldr .seq .empty

def anyOf : List Pattern → Pattern
  | [] => .one fun _ => false
  | [p] => p
  | p :: ps => .either p (anyOf ps)

def anyText (texts : List String) : Pattern := anyOf (texts.map text)

def anyExactly (texts : List String) : Pattern := anyOf (texts.map exactly)

def optional (p : Pattern) : Pattern := .either p .empty

def blanks : Pattern := .run isBlank 0 none

def gap (least : Nat) (most : Option Nat) : Pattern := .run (· != '\n') least most

def digits (least : Nat) (most : Option Nat) : Pattern := .run isDecimalDigit least most

end Pattern

def Place.mark? (place : Place) (label : Nat) : Option String :=
  (place.marks.lookup label).map String.ofList

end DamagePlan.Text
