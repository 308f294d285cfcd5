/-!
Lines of a text, under every line boundary that Unicode knows, and line ends read as newlines.
-/
set_option autoImplicit false

namespace DamagePlan.Text

def isLineBoundary (c : Char) : Bool :=
  let n := c.toNat
  (10 ≤ n && n ≤ 13) || (28 ≤ n && n ≤ 30) || n == 0x85 || n == 0x2028 || n == 0x2029

def linesFrom (line : List Char) : List Char → List (List Char)
  | [] => if line.isEmpty then [] else [line.reverse]
  | '\r' :: '\n' :: cs => line.reverse :: linesFrom [] cs
  | c :: cs => if isLineBoundary c then line.reverse :: linesFrom [] cs else linesFrom (c :: line) cs

def lines (s : String) : List String := (linesFrom [] s.toList).map String.ofList

def universalNewlines : List Char → List Char
  | [] => []
  | '\r' :: '\n' :: cs => '\n' :: universalNewlines cs
  | c :: cs => (if c == '\r' then '\n' else c) :: universalNewlines cs

def withoutFinalNewline (cs : List Char) : List Char := if cs.getLast? = some '\n' then cs.dropLast else cs

end DamagePlan.Text
