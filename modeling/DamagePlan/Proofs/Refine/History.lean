import Mathlib.Data.List.Perm.Basic
import DamagePlan.Proofs.Refine.Budget
import DamagePlan.Proofs.Refine.Places

/-!
Histories of a budget: rows are added and replaced in any order, and the policy may answer as it likes. Rows never
outnumber the cap and never get fewer, no row gets lost other than by making room or by being replaced, and what is
added resembles no other row.
-/
set_option autoImplicit false

namespace DamagePlan

namespace EvictionPolicy

theorem last_of_class_last (inClass : Detail → Bool) (rows : List Detail) (i : Nat) (found : lastOf inClass rows = some i)
    (j : Nat) (d : Detail) (later : i < j) (there : rows[j]? = some d) : inClass d = false := by
  obtain ⟨back, first, rfl⟩ := Option.map_eq_some_iff.mp found
  obtain ⟨_, _, before⟩ := List.findIdx?_eq_some_iff_getElem.mp first
  obtain ⟨inside, rfl⟩ := List.getElem?_eq_some_iff.mp there
  -- counted from the end, the later row comes first
  have none := before (rows.length - 1 - j) (by omega)
  rw [List.getElem_reverse] at none
  simpa [show rows.length - 1 - (rows.length - 1 - j) = j by omega] using none

theorem last_of_none_iff (inClass : Detail → Bool) (rows : List Detail) :
    lastOf inClass rows = none ↔ ∀ d ∈ rows, inClass d = false := by
  simp [lastOf]

def ChoosesLast (rows : List Detail) (i : Nat) : Prop :=
  ∃ before inClass after, classes = before ++ inClass :: after ∧ (∀ other ∈ before, ∀ d ∈ rows, other d = false) ∧
    (∃ d, rows[i]? = some d ∧ inClass d = true) ∧ ∀ (j : Nat) (d : Detail), i < j → rows[j]? = some d → inClass d = false

theorem default_choice (rows : List Detail) (incoming : Detail) (i : Nat)
    (chosen : EvictionPolicy.default rows incoming = some i) : ChoosesLast rows i := by
  obtain ⟨before, inClass, after, split, found, none⟩ := List.findSome?_eq_some_iff.mp chosen
  exact ⟨before, inClass, after, split, fun other member => (last_of_none_iff other rows).mp (none other member),
    last_of_class inClass rows i found, last_of_class_last inClass rows i found⟩

theorem default_rejects_iff (rows : List Detail) (incoming : Detail) :
    EvictionPolicy.default rows incoming = none ↔ ∀ inClass ∈ classes, ∀ d ∈ rows, inClass d = false := by
  simp only [EvictionPolicy.default, List.findSome?_eq_none_iff, last_of_none_iff]

def NamesRows (policy : EvictionPolicy) : Prop :=
  ∀ rows incoming i, policy rows incoming = some i → i < rows.length

theorem default_names_rows : NamesRows .default := by
  intro rows incoming i chosen
  obtain ⟨-, -, -, -, -, ⟨d, there, -⟩, -⟩ := default_choice rows incoming i chosen
  exact (List.getElem?_eq_some_iff.mp there).1

end EvictionPolicy

namespace Budget

open EvictionPolicy (ChoosesLast NamesRows)

def SameWords (title other : String) : Prop := ∃ key, titleKey title = .ok key ∧ titleKey other = .ok key

/-- Rows that one budget should not hold both: of one identity, or of titles with the same words. -/
def Alike (d e : Detail) : Prop := d.identity = e.identity ∨ SameWords d.title e.title

theorem Alike.symm {d e : Detail} (alike : Alike d e) : Alike e d :=
  alike.imp Eq.symm fun ⟨key, one, other⟩ => ⟨key, other, one⟩

theorem identity_found_iff (b : Budget) (d : Detail) :
    b.hasIdentity d = true ↔ ∃ row ∈ b.rows, row.detail.identity = d.identity := by
  simp [hasIdentity, details]

theorem new_row_unlike {b : Budget} {d : Detail} (new : b.knows d = .ok false) : ∀ other ∈ b.rows, ¬Alike other.detail d := by
  intro other member alike
  rcases (knows_ok_iff b d false).mp new with ⟨-, no⟩ | ⟨other_, asked⟩
  · cases no
  · rcases alike with identity | ⟨key, one, two⟩
    · rw [(identity_found_iff b d).mpr ⟨other, member, identity⟩] at other_
      cases other_
    · obtain ⟨wanted, read, none⟩ := has_title_asks b d.title false asked
      obtain rfl := Except.ok.inj (two.symm.trans read)
      have same := any_m_false _ _ none other.detail (List.mem_map_of_mem member)
      rw [one] at same
      simp [bind, Except.bind, pure, Except.pure] at same

theorem known_row_alike {b : Budget} {d : Detail} (there : b.knows d = .ok true) : ∃ other ∈ b.rows, Alike other.detail d := by
  rcases (knows_ok_iff b d true).mp there with ⟨own, -⟩ | ⟨-, asked⟩
  · obtain ⟨other, member, identity⟩ := (identity_found_iff b d).mp own
    exact ⟨other, member, .inl identity⟩
  · obtain ⟨wanted, read, some_⟩ := has_title_asks b d.title true asked
    obtain ⟨e, among, same⟩ := any_m_true _ _ some_
    obtain ⟨other, member, rfl⟩ := List.mem_map.mp among
    obtain ⟨key, titled, same⟩ := bind_ok _ _ _ same
    obtain rfl : key = wanted := eq_of_beq (Except.ok.inj same)
    exact ⟨other, member, .inr ⟨key, titled, read⟩⟩

def HasKey (title : String) : Prop := ∃ key, titleKey title = .ok key

/-- What adding a row does to a budget. -/
structure AddsFairly (b : Budget) (row : Row) : Prop where
  /-- To add a row fails only for want of a title that can be read. -/
  answers : HasKey row.detail.title → (∀ other ∈ b.rows, HasKey other.detail.title) → ∃ result, b.add row = .ok result
  refused : ∀ b', b.add row = .ok (false, b') → b' = b
  /-- A row that is taken is there afterwards: at the end, or in the place of one that made room. -/
  taken : ∀ b', b.add row = .ok (true, b') → row ∈ b'.rows ∧
    (b' = { b with rows := b.rows ++ [row] } ∨
      ∃ i old, b.rows[i]? = some old ∧ b' = { b with rows := b.rows.set i row, evicted := b.evicted ++ [old] })
  /-- Rows that are alike afterwards were so before, in the same places. -/
  apart : ∀ (answer : Bool) (b' : Budget), b.add row = .ok (answer, b') → ∀ (i j : Nat) (first second : Row), i ≠ j →
    b'.rows[i]? = some first → b'.rows[j]? = some second → Alike first.detail second.detail →
      b.rows[i]? = some first ∧ b.rows[j]? = some second
  /-- Only a row like another one is refused, and one that the policy grants no place. -/
  wanted : b.policy.NamesRows → ∀ (answer : Bool) (b' : Budget), b.add row = .ok (answer, b') → (answer = true ↔
    (∀ other ∈ b.rows, ¬Alike other.detail row.detail) ∧
      (b.isFull = true → ∃ i, b.policy b.details row.detail = some i))
  /-- The default policy gives up the last row of the first class that has one, if any class has. -/
  standard : b.policy = .default → b.isFull = true → (∀ other ∈ b.rows, ¬Alike other.detail row.detail) →
    ∀ result, b.add row = .ok result →
      (∃ i old, ChoosesLast b.details i ∧ b.rows[i]? = some old ∧
        result = (true, { b with rows := b.rows.set i row, evicted := b.evicted ++ [old] })) ∨
      ((∀ inClass ∈ EvictionPolicy.classes, ∀ d ∈ b.details, inClass d = false) ∧ result = (false, b))

theorem unlike_apart {rows rows' : List Row} {row : Row} (k : Nat)
    (placed : ∀ (i : Nat) (other : Row), rows'[i]? = some other → rows[i]? = some other ∨ i = k ∧ other = row)
    (unlike : ∀ other ∈ rows, ¬Alike other.detail row.detail) (i j : Nat) (first second : Row) (different : i ≠ j)
    (one : rows'[i]? = some first) (other : rows'[j]? = some second) (alike : Alike first.detail second.detail) :
    rows[i]? = some first ∧ rows[j]? = some second := by
  rcases placed i first one with old | ⟨rfl, rfl⟩
  · rcases placed j second other with old' | ⟨rfl, rfl⟩
    · exact ⟨old, old'⟩
    · exact absurd alike (unlike first (List.mem_of_getElem? old))
  · rcases placed j second other with old' | ⟨rfl, rfl⟩
    · exact absurd alike.symm (unlike second (List.mem_of_getElem? old'))
    · exact absurd rfl different

theorem append_placed (rows : List Row) (row : Row) (i : Nat) (other : Row) (there : (rows ++ [row])[i]? = some other) :
    rows[i]? = some other ∨ i = rows.length ∧ other = row := by
  by_cases inside : i < rows.length
  · exact .inl (by rwa [List.getElem?_append_left inside] at there)
  · rw [List.getElem?_append_right (by omega), List.getElem?_singleton] at there
    split at there
    · cases there
      exact .inr ⟨by omega, rfl⟩
    · cases there

theorem set_placed (rows : List Row) (k : Nat) (row : Row) (i : Nat) (other : Row)
    (there : (rows.set k row)[i]? = some other) : rows[i]? = some other ∨ i = k ∧ other = row := by
  rw [List.getElem?_set] at there
  split at there
  · split at there
    · cases there
      exact .inr ⟨by omega, rfl⟩
    · cases there
  · exact .inl there

section Adds

variable {b : Budget} {row : Row}

theorem Adds.apart {result : Bool × Budget} (adds : Adds b row result) (i j : Nat) (first second : Row) (different : i ≠ j)
    (one : result.2.rows[i]? = some first) (other : result.2.rows[j]? = some second)
    (alike : Alike first.detail second.detail) : b.rows[i]? = some first ∧ b.rows[j]? = some second := by
  cases adds with
  | known | refused => exact ⟨one, other⟩
  | appended new =>
    exact unlike_apart _ (append_placed b.rows row) (new_row_unlike new) i j first second different one other alike
  | evicting new _ k =>
    exact unlike_apart k (set_placed b.rows k row) (new_row_unlike new) i j first second different one other alike

theorem Adds.taken {b' : Budget} (adds : Adds b row (true, b')) : row ∈ b'.rows ∧
    (b' = { b with rows := b.rows ++ [row] } ∨
      ∃ i old, b.rows[i]? = some old ∧ b' = { b with rows := b.rows.set i row, evicted := b.evicted ++ [old] }) := by
  cases adds with
  | appended => exact ⟨List.mem_append_right _ List.mem_cons_self, .inl rfl⟩
  | evicting _ _ i old _ there =>
    exact ⟨List.mem_set (List.getElem?_eq_some_iff.mp there).1 row, .inr ⟨i, old, there, rfl⟩⟩

theorem Adds.wanted {answer : Bool} {b' : Budget} (adds : Adds b row (answer, b')) (names : b.policy.NamesRows) :
    answer = true ↔ (∀ other ∈ b.rows, ¬Alike other.detail row.detail) ∧
      (b.isFull = true → ∃ i, b.policy b.details row.detail = some i) := by
  cases adds with
  | known there =>
    obtain ⟨other, member, alike⟩ := known_row_alike there
    exact ⟨nofun, fun wanted => absurd alike (wanted.1 other member)⟩
  | appended new room => exact ⟨fun _ => ⟨new_row_unlike new, by simp [room]⟩, fun _ => rfl⟩
  | refused _ full none =>
    refine ⟨nofun, fun wanted => ?_⟩
    obtain ⟨i, chosen⟩ := wanted.2 full
    -- a place that the policy names holds a row
    have inside := names _ _ _ chosen
    have beyond := none i chosen
    simp only [details, List.length_map] at inside
    omega
  | evicting new _ i _ chosen => exact ⟨fun _ => ⟨new_row_unlike new, fun _ => ⟨i, chosen⟩⟩, fun _ => rfl⟩

theorem Adds.standard {result : Bool × Budget} (adds : Adds b row result) (standard : b.policy = .default)
    (full : b.isFull = true) (unlike : ∀ other ∈ b.rows, ¬Alike other.detail row.detail) :
    (∃ i old, ChoosesLast b.details i ∧ b.rows[i]? = some old ∧
      result = (true, { b with rows := b.rows.set i row, evicted := b.evicted ++ [old] })) ∨
    ((∀ inClass ∈ EvictionPolicy.classes, ∀ d ∈ b.details, inClass d = false) ∧ result = (false, b)) := by
  cases adds with
  | known there =>
    obtain ⟨other, member, alike⟩ := known_row_alike there
    exact absurd alike (unlike other member)
  | appended _ room => simp [full] at room
  | refused _ _ none =>
    refine .inr ⟨(EvictionPolicy.default_rejects_iff b.details row.detail).mp ?_, rfl⟩
    cases chosen : EvictionPolicy.default b.details row.detail with
    | none => rfl
    | some i =>
      have inside := EvictionPolicy.default_names_rows _ _ _ chosen
      have beyond := none i (by rw [standard, chosen])
      simp only [details, List.length_map] at inside
      omega
  | evicting _ _ i old chosen there =>
    rw [standard] at chosen
    exact .inl ⟨i, old, EvictionPolicy.default_choice _ _ i chosen, there, rfl⟩

end Adds

theorem adds_fairly (b : Budget) (row : Row) : AddsFairly b row where
  answers read each := by
    have known := knows_total b row.detail read fun d among => by
      obtain ⟨other, member, rfl⟩ := List.mem_map.mp among
      exact each other member
    exact map_total _ _ known
  refused b' added := by
    cases add_cases b row _ added with
    | known | refused => rfl
  taken b' added := (add_cases b row _ added).taken
  apart answer b' added := (add_cases b row _ added).apart
  wanted names answer b' added := (add_cases b row _ added).wanted names
  standard standard full unlike result added := (add_cases b row result added).standard standard full unlike

theorem Adds.conserves {b b' : Budget} {row : Row} {answer : Bool} (adds : Adds b row (answer, b')) :
    (b'.rows ++ b'.evicted).Perm (b.rows ++ b.evicted ++ if answer then [row] else []) := by
  classical
  rw [List.perm_iff_count]
  intro r
  cases adds with
  | known | refused => simp
  | appended =>
    simp only [if_true, List.count_append]
    omega
  | evicting _ _ i old _ there =>
    have moved := (List.getD_set_perm_cons b.rows i row).count_eq r
    rw [there, Option.getD_some, List.count_cons, List.count_cons] at moved
    simp only [if_true, List.count_append, List.count_singleton]
    omega

theorem replace_cases (b : Budget) (old new : Row) :
    b.replace? old new = none ∧ b.rows.find? (·.tag == old.tag) = none ∨
    ∃ (i : Nat) (there : Row), b.rows[i]? = some there ∧ b.rows.find? (·.tag == old.tag) = some there ∧
      b.replace? old new = some { b with rows := b.rows.set i new } := by
  unfold replace?
  cases found : b.rows.findIdx? (·.tag == old.tag) with
  | none =>
    refine .inl ⟨rfl, List.find?_eq_none.mpr fun row member => ?_⟩
    simpa using List.findIdx?_eq_none_iff.mp found row member
  | some i =>
    obtain ⟨inside, same, before⟩ := List.findIdx?_eq_some_iff_getElem.mp found
    refine .inr ⟨i, b.rows[i], List.getElem?_eq_getElem inside, ?_, rfl⟩
    exact List.find?_eq_some_iff_getElem.mpr ⟨same, i, inside, rfl, fun j earlier => by simpa using before j earlier⟩

inductive Call where
  | add (row : Row)
  | replace (old new : Row)

/-- A budget with all rows that it ever took and those that replacements overwrote. -/
structure History where
  budget : Budget
  taken : List Row
  overwritten : List Row := []

namespace History

def start (cap : Int) (policy : EvictionPolicy) (rows : List Row) : History where
  budget := ofRows cap policy rows
  taken := (ofRows cap policy rows).rows

def add (h : History) (row : Row) : History :=
  match h.budget.add row with
  | .ok (answer, b) => ⟨b, h.taken ++ (if answer then [row] else []), h.overwritten⟩
  | .error _ => h

def replace (h : History) (old new : Row) : History :=
  match h.budget.replace? old new with
  | none => h
  | some b => ⟨b, h.taken ++ [new], h.overwritten ++ (h.budget.rows.find? (·.tag == old.tag)).toList⟩

def judged (h : History) (policy : EvictionPolicy) : History := { h with budget := { h.budget with policy } }

def step (h : History) : EvictionPolicy × Call → History
  | (policy, .add row) => (h.judged policy).add row
  | (policy, .replace old new) => (h.judged policy).replace old new

def run (h : History) (calls : List (EvictionPolicy × Call)) : History := calls.foldl step h

/-- What holds at any time: the cap is kept, and every row ever taken is there, has made room or was overwritten. -/
structure Accounts (cap : Nat) (h : History) : Prop where
  within : Keeps (fun _ => True) cap h.budget
  kept : h.taken.Perm (h.budget.rows ++ h.budget.evicted ++ h.overwritten)

variable {cap : Nat} {h : History}

theorem start_accounts (cap : Nat) (policy : EvictionPolicy) (rows : List Row) : Accounts cap (start cap policy rows) where
  within := by
    have positive : ¬(cap : Int) < 0 := by omega
    refine ⟨fun _ _ => trivial, ?_, Int.le_refl _⟩
    simp only [start, ofRows, positive, if_false, Int.toNat_natCast]
    exact List.length_take_le cap rows
  kept := by simp [start, ofRows]

theorem replace_accounts (accounts : Accounts cap h) (old new : Row) : Accounts cap (h.replace old new) := by
  unfold replace
  rcases replace_cases h.budget old new with ⟨missing, -⟩ | ⟨i, there, place, found, replaced⟩
  · rw [missing]
    exact accounts
  · rw [replaced, found]
    refine ⟨set_keeps accounts.within i new trivial _, ?_⟩
    classical
    rw [List.perm_iff_count]
    intro r
    have moved := (List.getD_set_perm_cons h.budget.rows i new).count_eq r
    have kept := accounts.kept.count_eq r
    rw [place, Option.getD_some, List.count_cons, List.count_cons] at moved
    simp only [Option.toList_some, List.count_append, List.count_singleton] at kept ⊢
    omega

theorem add_accounts (accounts : Accounts cap h) (row : Row) : Accounts cap (h.add row) := by
  unfold add
  split
  · rename_i answer b added
    have adds := add_cases h.budget row _ added
    refine ⟨adds.keeps accounts.within trivial, ?_⟩
    classical
    rw [List.perm_iff_count]
    intro r
    have moved := adds.conserves.count_eq r
    have kept := accounts.kept.count_eq r
    simp only [List.count_append] at moved kept ⊢
    omega
  · exact accounts

theorem step_accounts (accounts : Accounts cap h) (next : EvictionPolicy × Call) : Accounts cap (h.step next) := by
  obtain ⟨policy, call⟩ := next
  -- the policy has no part in what the history accounts for
  have same : Accounts cap (h.judged policy) :=
    ⟨⟨accounts.within.each, accounts.within.few, accounts.within.capped⟩, accounts.kept⟩
  cases call with
  | add row => exact add_accounts same row
  | replace old new => exact replace_accounts same old new

theorem step_longer (h : History) (next : EvictionPolicy × Call) : h.budget.rows.length ≤ (h.step next).budget.rows.length := by
  obtain ⟨policy, call⟩ := next
  cases call with
  | add row =>
    dsimp only [step, add]
    split
    · rename_i added
      exact (add_cases (h.judged policy).budget row _ added).grows.longer
    · exact Nat.le_refl _
  | replace old new =>
    dsimp only [step, replace]
    rcases replace_cases (h.judged policy).budget old new with ⟨missing, -⟩ | ⟨i, there, place, found, replaced⟩
    · rw [missing]
      exact Nat.le_refl _
    · rw [replaced]
      simp [judged]

theorem run_accounts (cap : Nat) (policy : EvictionPolicy) (rows : List Row) (calls : List (EvictionPolicy × Call)) :
    Accounts cap ((start cap policy rows).run calls) :=
  List.foldlRecOn calls step (start_accounts cap policy rows) fun _ accounts next _ => step_accounts accounts next

end History

/-- Whatever is asked of a budget, in any order and under any policies: its rows are never more than the cap and never
get fewer, all rows it ever took are accounted for, and adding is fair. An addition that fails leaves it as it was. -/
theorem budget_history (cap : Nat) (policy : EvictionPolicy) (rows : List Row) (calls : List (EvictionPolicy × Call)) :
    let h := (History.start cap policy rows).run calls
    h.budget.rows.length ≤ cap ∧
      h.taken.Perm (h.budget.rows ++ h.budget.evicted ++ h.overwritten) ∧
      (∀ next, h.budget.rows.length ≤ (h.step next).budget.rows.length) ∧
      ∀ policy row, AddsFairly { h.budget with policy } row := by
  intro h
  have accounts := History.run_accounts cap policy rows calls
  exact ⟨accounts.within.few, accounts.kept, h.step_longer, fun policy row => adds_fairly { h.budget with policy } row⟩

end Budget

end DamagePlan
