import Mathlib.Data.List.Basic
import DamagePlan.Proofs.Steps
import DamagePlan.Refine.Budget

/-!
The budget of rows never grows beyond its cap, and what all of its rows have in common stays so under every change.
-/
set_option autoImplicit false

namespace DamagePlan.Budget

theorem has_title_asks (b : Budget) (title : String) (there : Bool) (asked : b.hasTitle title = .ok there) :
    ∃ wanted, titleKey title = .ok wanted ∧ b.details.anyM (fun d => return (← titleKey d.title) == wanted) = .ok there :=
  bind_ok _ _ _ asked

theorem has_title_total (b : Budget) (title : String) (read : ∃ key, titleKey title = .ok key)
    (each : ∀ d ∈ b.details, ∃ key, titleKey d.title = .ok key) : ∃ there, b.hasTitle title = .ok there :=
  bind_total _ _ read fun _ => any_m_total _ _ fun d among => bind_total _ _ (each d among) fun _ => ⟨_, rfl⟩

theorem knows_total (b : Budget) (d : Detail) (read : ∃ key, titleKey d.title = .ok key)
    (each : ∀ e ∈ b.details, ∃ key, titleKey e.title = .ok key) : ∃ there, b.knows d = .ok there := by
  unfold knows
  split
  · exact ⟨_, rfl⟩
  · exact has_title_total b d.title read each

theorem knows_ok_iff (b : Budget) (d : Detail) (known : Bool) : b.knows d = .ok known ↔
    b.hasIdentity d = true ∧ known = true ∨ b.hasIdentity d = false ∧ b.hasTitle d.title = .ok known := by
  unfold knows
  cases b.hasIdentity d with
  | true => simp [eq_comm]
  | false => simp

inductive Adds (b : Budget) (row : Row) : Bool × Budget → Prop
  | known (there : b.knows row.detail = .ok true) : Adds b row (false, b)
  | appended (new : b.knows row.detail = .ok false) (room : b.isFull = false) :
      Adds b row (true, { b with rows := b.rows ++ [row] })
  | refused (new : b.knows row.detail = .ok false) (full : b.isFull = true)
      (none : ∀ i, b.policy b.details row.detail = some i → b.rows.length ≤ i) : Adds b row (false, b)
  | evicting (new : b.knows row.detail = .ok false) (full : b.isFull = true)
      (i : Nat) (old : Row) (chosen : b.policy b.details row.detail = some i) (there : b.rows[i]? = some old) :
      Adds b row (true, { b with rows := b.rows.set i row, evicted := b.evicted ++ [old] })

theorem place_cases (b : Budget) (row : Row) (new : b.knows row.detail = .ok false) : Adds b row (b.place row) := by
  unfold place
  split
  · rename_i room
    exact .appended new (by simpa using room)
  · rename_i full
    have full : b.isFull = true := by simpa using full
    split
    · rename_i none
      exact .refused new full fun i chosen => by simp [none] at chosen
    · rename_i i chosen
      split
      · rename_i beyond
        refine .refused new full fun j chosen' => ?_
        rw [chosen] at chosen'
        cases chosen'
        exact List.getElem?_eq_none_iff.mp beyond
      · rename_i old there
        exact .evicting new full i old chosen there

theorem add_cases (b : Budget) (row : Row) (result : Bool × Budget) (made : b.add row = .ok result) :
    Adds b row result := by
  obtain ⟨known, told, rfl⟩ := map_ok _ _ _ made
  cases known with
  | true => exact .known told
  | false => exact place_cases b row told

theorem push_cases (b : Budget) (d : Detail) (b' : Budget) (made : b.push d = .ok b') :
    ∃ taken, Adds b ⟨b.nextTag, d⟩ (taken, b') := by
  obtain ⟨⟨taken, _⟩, added, rfl⟩ := map_ok _ _ _ made
  exact ⟨taken, add_cases b _ _ added⟩

structure Grows (b b' : Budget) : Prop where
  cap : b'.cap = b.cap
  longer : b.rows.length ≤ b'.rows.length

theorem grows_refl (b : Budget) : Grows b b := ⟨rfl, Nat.le_refl _⟩

theorem Grows.trans {b b' b'' : Budget} (first : Grows b b') (second : Grows b' b'') : Grows b b'' :=
  ⟨second.cap.trans first.cap, Nat.le_trans first.longer second.longer⟩

theorem Grows.full {b b' : Budget} (grows : Grows b b') (full : b.isFull = true) : b'.isFull = true := by
  have longer := grows.longer
  simp only [isFull, decide_eq_true_eq, grows.cap] at full ⊢
  omega

theorem Grows.room {b b' : Budget} (grows : Grows b b') (room : b'.isFull = false) : b.isFull = false := by
  rw [← Bool.not_eq_true]
  exact fun full => by simp [grows.full full] at room

theorem Adds.grows {b : Budget} {row : Row} {result : Bool × Budget} (adds : Adds b row result) : Grows b result.2 := by
  cases adds with
  | known | refused => exact grows_refl b
  | appended => exact ⟨rfl, by simp⟩
  | evicting => exact ⟨rfl, by simp⟩

theorem push_grows (b : Budget) (d : Detail) (b' : Budget) (made : b.push d = .ok b') : Grows b b' := by
  obtain ⟨taken, adds⟩ := push_cases b d b' made
  exact adds.grows

theorem update_grows (b : Budget) (tag : Nat) (d : Detail) : Grows b (b.update tag d) := by
  unfold update replace?
  cases b.rows.findIdx? (·.tag == tag) with
  | none => exact grows_refl b
  | some i => exact ⟨rfl, by simp⟩

structure Keeps (P : Detail → Prop) (most : Nat) (b : Budget) : Prop where
  each : ∀ row ∈ b.rows, P row.detail
  few : b.rows.length ≤ most
  capped : b.cap ≤ most

variable {P : Detail → Prop} {most : Nat} {b : Budget}

theorem of_details_each (cap : Int) (policy : EvictionPolicy) (details : List Detail) (each : ∀ d ∈ details, P d) :
    ∀ row ∈ (ofDetails cap policy details).rows, P row.detail := by
  intro row member
  have among := List.mem_of_mem_take member
  simp only [tagged, List.mem_map] at among
  obtain ⟨⟨d, i⟩, indexed, rfl⟩ := among
  exact each d (List.fst_mem_of_mem_zipIdx indexed)

theorem of_details_keeps (policy : EvictionPolicy) (details : List Detail) (each : ∀ d ∈ details, P d) :
    Keeps P most (ofDetails most policy details) where
  each := of_details_each most policy details each
  few := by
    have whole : ¬(most : Int) < 0 := by omega
    simp only [ofDetails, ofRows, whole, if_false, Int.toNat_natCast]
    exact List.length_take_le most _
  capped := Int.le_refl _

theorem of_details_within (cap : Int) (policy : EvictionPolicy) (details : List Detail) (each : ∀ d ∈ details, P d) :
    Keeps P (max details.length cap.toNat) (ofDetails cap policy details) where
  each := of_details_each cap policy details each
  few := by
    have part : (ofDetails cap policy details).rows.length ≤ (tagged details).length := List.length_take_le' ..
    have tags : (tagged details).length = details.length := by simp [tagged]
    omega
  capped := Int.le_trans (Int.self_le_toNat cap) (Int.ofNat_le.mpr (Nat.le_max_right ..))

theorem Keeps.details (keeps : Keeps P most b) : ∀ d ∈ b.details, P d := by
  intro d member
  obtain ⟨row, among, rfl⟩ := List.mem_map.mp member
  exact keeps.each row among

theorem set_keeps (keeps : Keeps P most b) (i : Nat) (row : Row) (own : P row.detail) (evicted : List Row) :
    Keeps P most { b with rows := b.rows.set i row, evicted } where
  each := by
    intro other member
    rcases List.mem_or_eq_of_mem_set member with there | rfl
    · exact keeps.each other there
    · exact own
  few := by simpa using keeps.few
  capped := keeps.capped

theorem Adds.keeps {row : Row} {result : Bool × Budget} (adds : Adds b row result) (keeps : Keeps P most b)
    (own : P row.detail) : Keeps P most result.2 := by
  cases adds with
  | known | refused => exact keeps
  | appended _ room =>
    -- room is counted against the cap, which is no more than what is admitted
    have below : b.rows.length + 1 ≤ most := by
      have capped := keeps.capped
      simp only [isFull, decide_eq_false_iff_not] at room
      omega
    refine ⟨fun other member => ?_, by simpa using below, keeps.capped⟩
    rcases List.mem_append.mp member with there | added
    · exact keeps.each other there
    · rw [List.mem_singleton.mp added]
      exact own
  | evicting => exact set_keeps keeps _ row own _

theorem push_keeps (keeps : Keeps P most b) (d : Detail) (own : P d) (b' : Budget) (made : b.push d = .ok b') :
    Keeps P most b' := by
  obtain ⟨taken, adds⟩ := push_cases b d b' made
  exact adds.keeps keeps own

theorem update_keeps (keeps : Keeps P most b) (tag : Nat) (d : Detail) (own : P d) : Keeps P most (b.update tag d) := by
  unfold update replace?
  cases b.rows.findIdx? (·.tag == tag) with
  | none => exact keeps
  | some i => exact set_keeps keeps i ⟨tag, d⟩ own _

end DamagePlan.Budget
