import Mathlib.Data.List.Basic
import DamagePlan.Refine.Evidence

/-!
Pruning leaves a part of the rows, with at most as many special ones as the limit, and evidence for each of these: all
rows that are not special, and the first special ones with evidence.
-/
set_option autoImplicit false

namespace DamagePlan.Evidence

variable (kit : Kit)

-- Induction on the rows with the limit generalised: it goes down by one with each special row that stays.
theorem pruned_part (limit : Nat) (details : List Detail) : (prune kit limit details).Sublist details := by
  induction details generalizing limit with
  | nil => exact .slnil
  | cons d rest ih =>
    unfold prune
    split
    · exact (ih limit).cons_cons d
    · split
      · exact (ih limit).cons d
      · split
        · exact (ih 0).cons d
        · exact (ih _).cons_cons d

def isSpecialRow (game : Game) (d : Detail) : Bool := (mechanicOf? game d).isSome

theorem pruned_few (limit : Nat) (details : List Detail) :
    (prune kit limit details).countP (isSpecialRow kit.game) ≤ limit := by
  induction details generalizing limit with
  | nil => exact Nat.zero_le limit
  | cons d rest ih =>
    unfold prune
    split
    · rename_i plain
      have ordinary : ¬isSpecialRow kit.game d = true := by simp [isSpecialRow, plain]
      rw [List.countP_cons_of_neg ordinary]
      exact ih limit
    · rename_i id special
      have counted : isSpecialRow kit.game d = true := by simp [isSpecialRow, special]
      split
      · exact ih limit
      · split
        · exact ih 0
        · rw [List.countP_cons_of_pos counted]
          exact Nat.succ_le_succ (ih _)

theorem pruned_supported (limit : Nat) (details : List Detail) :
    ∀ d ∈ prune kit limit details, ∀ id ∈ mechanicOf? kit.game d, supports kit id = true := by
  induction details generalizing limit with
  | nil => exact fun d member => nomatch member
  | cons d rest ih =>
    unfold prune
    split
    · rename_i plain
      rw [List.forall_mem_cons, plain]
      exact ⟨nofun, ih limit⟩
    · rename_i id special
      split
      · exact ih limit
      · rename_i supported
        split
        · exact ih 0
        · rw [List.forall_mem_cons, special]
          refine ⟨fun id' own => ?_, ih _⟩
          cases own
          simpa using supported

def isEvidenced (d : Detail) : Bool := (mechanicOf? kit.game d).any (supports kit)

def staysAt (limit : Nat) (details : List Detail) (placed : Detail × Nat) : Bool :=
  !isSpecialRow kit.game placed.1 ||
    (isEvidenced kit placed.1 && decide ((details.take placed.2).countP (isEvidenced kit) < limit))

theorem evidenced_special (d : Detail) (evidenced : isEvidenced kit d = true) : isSpecialRow kit.game d = true := by
  unfold isEvidenced at evidenced
  unfold isSpecialRow
  cases special : mechanicOf? kit.game d with
  | none => rw [special] at evidenced; cases evidenced
  | some id => rfl

theorem prune_ordinary (limit : Nat) (d : Detail) (rest : List Detail) (ordinary : isSpecialRow kit.game d = false) :
    prune kit limit (d :: rest) = d :: prune kit limit rest := by
  have none_ : mechanicOf? kit.game d = none := by simpa [isSpecialRow] using ordinary
  conv_lhs => unfold prune
  rw [none_]

theorem prune_unevidenced (limit : Nat) (d : Detail) (rest : List Detail) (special : isSpecialRow kit.game d = true)
    (silent : isEvidenced kit d = false) : prune kit limit (d :: rest) = prune kit limit rest := by
  obtain ⟨id, mechanic⟩ := Option.isSome_iff_exists.mp special
  have unsupported : supports kit id = false := by simpa [isEvidenced, mechanic] using silent
  conv_lhs => unfold prune
  rw [mechanic]
  dsimp only
  rw [unsupported, Bool.not_false, if_pos rfl]

theorem prune_evidenced (limit : Nat) (d : Detail) (rest : List Detail) (evidenced : isEvidenced kit d = true) :
    prune kit limit (d :: rest) = if limit = 0 then prune kit 0 rest else d :: prune kit (limit - 1) rest := by
  obtain ⟨id, mechanic⟩ := Option.isSome_iff_exists.mp (evidenced_special kit d evidenced)
  have supported : supports kit id = true := by simpa [isEvidenced, mechanic] using evidenced
  conv_lhs => unfold prune
  rw [mechanic]
  dsimp only
  rw [supported, Bool.not_true, if_neg Bool.false_ne_true]
  cases limit <;> rfl

-- The rows before the present one are carried along, since what they have used up of the limit decides from here on.
theorem prune_after (limit : Nat) (rest before : List Detail) :
    prune kit (limit - before.countP (isEvidenced kit)) rest =
      ((rest.zipIdx before.length).filter (staysAt kit limit (before ++ rest))).map (·.1) := by
  induction rest generalizing before with
  | nil => rfl
  | cons d rest ih =>
    have later := ih (before ++ [d])
    rw [List.length_append, List.length_singleton, List.append_assoc, List.singleton_append] at later
    have here : (before ++ d :: rest).take before.length = before := by simp
    rw [List.zipIdx_cons, List.filter_cons]
    cases special : isSpecialRow kit.game d with
    | false =>
      have silent : isEvidenced kit d = false := by
        cases evidenced : isEvidenced kit d with
        | false => rfl
        | true => rw [evidenced_special kit d evidenced] at special; cases special
      have stays : staysAt kit limit (before ++ d :: rest) (d, before.length) = true := by simp [staysAt, special]
      rw [prune_ordinary kit _ d rest special, if_pos stays, List.map_cons, ← later]
      simp [List.countP_append, silent]
    | true =>
      cases evidenced : isEvidenced kit d with
      | false =>
        have goes : staysAt kit limit (before ++ d :: rest) (d, before.length) = false := by simp [staysAt, special, evidenced]
        rw [prune_unevidenced kit _ d rest special evidenced, goes, if_neg Bool.false_ne_true, ← later]
        simp [List.countP_append, evidenced]
      | true =>
        have stays_iff : staysAt kit limit (before ++ d :: rest) (d, before.length) =
            decide (before.countP (isEvidenced kit) < limit) := by simp [staysAt, special, evidenced]
        have used : (before ++ [d]).countP (isEvidenced kit) = before.countP (isEvidenced kit) + 1 := by
          simp [List.countP_append, evidenced]
        rw [used] at later
        rw [prune_evidenced kit _ d rest evidenced, stays_iff]
        by_cases room : before.countP (isEvidenced kit) < limit
        · rw [if_neg (by omega), if_pos (by simpa using room), List.map_cons, ← later, Nat.sub_sub]
        · rw [if_pos (by omega), if_neg (by simpa using room), ← later]
          congr 1
          omega

theorem prune_filter (limit : Nat) (details : List Detail) : prune kit limit details =
    (details.zipIdx.filter (staysAt kit limit details)).map (·.1) := prune_after kit limit details []

theorem pruned_ordinary (limit : Nat) (details : List Detail) :
    (prune kit limit details).filter (!isSpecialRow kit.game ·) = details.filter (!isSpecialRow kit.game ·) := by
  induction details generalizing limit with
  | nil => rfl
  | cons d rest ih =>
    cases special : isSpecialRow kit.game d with
    | false =>
      rw [prune_ordinary kit limit d rest special, List.filter_cons_of_pos (by simp [special]),
        List.filter_cons_of_pos (by simp [special]), ih]
    | true =>
      rw [List.filter_cons_of_neg (by simp [special])]
      cases evidenced : isEvidenced kit d with
      | false => rw [prune_unevidenced kit limit d rest special evidenced, ih]
      | true =>
        rw [prune_evidenced kit limit d rest evidenced]
        split
        · exact ih 0
        · rw [List.filter_cons_of_neg (by simp [special]), ih]

theorem pruned_special (limit : Nat) (details : List Detail) :
    (prune kit limit details).filter (isSpecialRow kit.game) = (details.filter (isEvidenced kit)).take limit := by
  induction details generalizing limit with
  | nil => simp [prune]
  | cons d rest ih =>
    cases evidenced : isEvidenced kit d with
    | true =>
      rw [prune_evidenced kit limit d rest evidenced, List.filter_cons_of_pos evidenced]
      cases limit with
      | zero => rw [if_pos rfl, ih, List.take_zero, List.take_zero]
      | succ limit =>
        rw [if_neg (Nat.succ_ne_zero limit), List.filter_cons_of_pos (evidenced_special kit d evidenced), ih, List.take_succ_cons,
          Nat.add_sub_cancel]
    | false =>
      rw [List.filter_cons_of_neg (by simp [evidenced])]
      cases special : isSpecialRow kit.game d with
      | false => rw [prune_ordinary kit limit d rest special, List.filter_cons_of_neg (by simp [special]), ih]
      | true => rw [prune_unevidenced kit limit d rest special evidenced, ih]

theorem prune_whole (limit : Nat) (details : List Detail) (few : details.countP (isSpecialRow kit.game) ≤ limit)
    (supported : ∀ d ∈ details, ∀ id ∈ mechanicOf? kit.game d, supports kit id = true) : prune kit limit details = details := by
  induction details generalizing limit with
  | nil => rfl
  | cons d rest ih =>
    rw [List.forall_mem_cons] at supported
    cases special : isSpecialRow kit.game d with
    | false =>
      rw [List.countP_cons_of_neg (by simp [special])] at few
      rw [prune_ordinary kit limit d rest special, ih limit few supported.2]
    | true =>
      rw [List.countP_cons_of_pos special] at few
      obtain ⟨id, mechanic⟩ := Option.isSome_iff_exists.mp special
      have evidenced : isEvidenced kit d = true := by simp [isEvidenced, mechanic, supported.1 id mechanic]
      rw [prune_evidenced kit limit d rest evidenced, if_neg (by omega), ih (limit - 1) (by omega) supported.2]

/-- Pruning keeps exactly the rows that are not special and the first `limit` special ones with evidence, in their order and
place by place. A second pruning changes nothing, and of the special rows with evidence as many are left as the limit allows. -/
theorem pruning_keeps_first_evidenced (limit : Nat) (details : List Detail) :
    prune kit limit details = (details.zipIdx.filter (staysAt kit limit details)).map (·.1) ∧
      (prune kit limit details).filter (!isSpecialRow kit.game ·) = details.filter (!isSpecialRow kit.game ·) ∧
      (prune kit limit details).filter (isSpecialRow kit.game) = (details.filter (isEvidenced kit)).take limit ∧
      prune kit limit (prune kit limit details) = prune kit limit details ∧
      (prune kit limit details).countP (isSpecialRow kit.game) = min limit (details.countP (isEvidenced kit)) := by
  have special := pruned_special kit limit details
  refine ⟨prune_filter kit limit details, pruned_ordinary kit limit details, special, ?_, ?_⟩
  · exact prune_whole kit limit _ (pruned_few kit limit details) (pruned_supported kit limit details)
  · rw [List.countP_eq_length_filter, special, List.length_take, ← List.countP_eq_length_filter]

end DamagePlan.Evidence
