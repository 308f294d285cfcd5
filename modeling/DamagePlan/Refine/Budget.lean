import DamagePlan.Plan.Basic
import DamagePlan.Refine.RowClass
import DamagePlan.Text.Markup

/-!
The budget of rows: a list that never grows beyond its cap and takes no row twice. When it is full, an
eviction policy chooses which row makes room.
-/
set_option autoImplicit false

namespace DamagePlan

open Decimal (IntegerTooLong)

structure Row where
  tag : Nat
  detail : Detail

/-- The index of the row that makes room for an incoming one, or none to reject that. -/
abbrev EvictionPolicy := List Detail → Detail → Option Nat

namespace EvictionPolicy

def lastOf (inClass : Detail → Bool) (rows : List Detail) : Option Nat :=
  (rows.reverse.findIdx? inClass).map (rows.length - 1 - ·)

def classes : List (Detail → Bool) := [RowClass.isSegment, RowClass.isNormal, RowClass.isCharged]

def default : EvictionPolicy := fun rows _ => classes.findSome? (lastOf · rows)

def never : EvictionPolicy := fun _ _ => none

end EvictionPolicy

structure Budget where
  cap : Int
  policy : EvictionPolicy
  rows : List Row
  evicted : List Row := []

namespace Budget

def ofRows (cap : Int) (policy : EvictionPolicy) (rows : List Row) : Budget :=
  ⟨cap, policy, rows.take (if cap < 0 then rows.length - cap.natAbs else cap.toNat), []⟩

def tagged (details : List Detail) : List Row := details.zipIdx.map fun (d, i) => ⟨i, d⟩

def ofDetails (cap : Int) (policy : EvictionPolicy) (details : List Detail) : Budget :=
  ofRows cap policy (tagged details)

def details (b : Budget) : List Detail := b.rows.map (·.detail)

def isFull (b : Budget) : Bool := b.cap ≤ (b.rows.length : Int)

def titleKey (title : String) : Except IntegerTooLong String := (Text.compact title).map Text.lower

def hasTitle (b : Budget) (title : String) : Except IntegerTooLong Bool := do
  let wanted ← titleKey title
  b.details.anyM fun d => return (← titleKey d.title) == wanted

def hasIdentity (b : Budget) (d : Detail) : Bool := b.details.any fun e => e.identity = d.identity

structure Query where
  kind : Option DetailKind := none
  talent : Option String := none
  table : Option String := none
  key : Option String := none
  element : Option (Option String) := none

def Query.accepts (q : Query) (d : Detail) : Bool :=
  q.kind.all (· = d.kind) && q.talent.all (some · = d.talent) && q.table.all (some · = d.table)
    && q.key.all (· == d.damageKey) && q.element.all (· = d.element)

def find? (b : Budget) (q : Query) : Option Detail := b.details.find? q.accepts

def knows (b : Budget) (d : Detail) : Except IntegerTooLong Bool :=
  if b.hasIdentity d then .ok true else b.hasTitle d.title

/-- Puts a new row at the end while there is room, else in the place that the policy chooses. The answer tells whether
the row was taken. -/
def place (b : Budget) (row : Row) : Bool × Budget :=
  if !b.isFull then (true, { b with rows := b.rows ++ [row] })
  else match b.policy b.details row.detail with
    | none => (false, b)
    | some i =>
      match b.rows[i]? with
      | none => (false, b)
      | some old => (true, { b with rows := b.rows.set i row, evicted := b.evicted ++ [old] })

def add (b : Budget) (row : Row) : Except IntegerTooLong (Bool × Budget) :=
  (b.knows row.detail).map fun known => if known then (false, b) else b.place row

def nextTag (b : Budget) : Nat := b.rows.length + b.evicted.length

def push (b : Budget) (d : Detail) : Except IntegerTooLong Budget := (b.add ⟨b.nextTag, d⟩).map (·.2)

def replace? (b : Budget) (old new : Row) : Option Budget :=
  (b.rows.findIdx? (·.tag == old.tag)).map fun i => { b with rows := b.rows.set i new }

def update (b : Budget) (tag : Nat) (d : Detail) : Budget := (b.replace? ⟨tag, d⟩ ⟨tag, d⟩).getD b

def missingMessage (old : Row) : String := s!"Detail {Text.quoted old.detail.title} is not in the budget"

end Budget

end DamagePlan
