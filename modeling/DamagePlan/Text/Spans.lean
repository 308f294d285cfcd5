/-!
Sets of code points as ascending arrays of closed intervals, with membership by bisection.
-/
set_option autoImplicit false

namespace DamagePlan.Text

abbrev Spans := Array (Nat × Nat)

namespace Spans

def search (spans : Spans) (n : Nat) : (rounds low high : Nat) → Bool
  | 0, _, _ => false
  | rounds + 1, low, high =>
    if high ≤ low then false else
    let mid := (low + high) / 2
    match spans[mid]? with
    | none => false
    | some (first, last) =>
      if n < first then search spans n rounds low mid
      else if last < n then search spans n rounds (mid + 1) high
      else true

def contains (spans : Spans) (n : Nat) : Bool :=
  search spans n (spans.size + 1) 0 spans.size

end Spans

end DamagePlan.Text
