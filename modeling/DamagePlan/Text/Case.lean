import DamagePlan.Text.Case.Context
import DamagePlan.Text.Case.Table

/-!
Lower case of any script, and equality of letters when case is ignored.
-/
set_option autoImplicit false

namespace DamagePlan.Text

def CaseRun.target? (run : CaseRun) (n : Nat) : Option Nat :=
  if run.first ≤ n && n ≤ run.last && (n - run.first) % run.step == 0 then
    some (run.target + (n - run.first))
  else none

def lowerChar (c : Char) : Char :=
  let n := c.toNat
  if n < 128 then if 'A' ≤ c && c ≤ 'Z' then Char.ofNat (n + 32) else c
  else if 0x2e80 ≤ n && n ≤ 0xa63f then c
  else match lowerRuns.findSome? (·.target? n) with
    | some m => Char.ofNat m
    | none => c

def meetsCased (cs : List Char) : Bool :=
  (cs.dropWhile fun c => attachedSpans.contains c.toNat).head?.any fun c => casedSpans.contains c.toNat

/-- The lower case of a character between others, of which those `before` it are in reverse. The dotted capital I
keeps its dot, as a combining mark of its own, and a sigma at the end of a word has a form of its own. -/
def lowerBetween (before : List Char) (c : Char) (after : List Char) : List Char :=
  if c == 'İ' then ['i', '\u0307']
  else if c == 'Σ' && meetsCased before && !meetsCased after then ['ς']
  else [lowerChar c]

def lowerFrom (before : List Char) : List Char → List Char
  | [] => []
  | c :: after => lowerBetween before c after ++ lowerFrom (c :: before) after

def lowerList (cs : List Char) : List Char := lowerFrom [] cs

def lower (s : String) : String := String.ofList (lowerList s.toList)

def foldsTo (letter c : Char) : Bool :=
  c == letter || (
    let wanted := (lowerChar letter).toNat
    let found := (lowerChar c).toNat
    found == wanted || match caseVariants.lookup wanted with
      | some others => others.contains found
      | none => false)

end DamagePlan.Text
