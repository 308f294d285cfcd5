import Mathlib.Data.List.Forall2

/-!
Computations that may fail, taken apart into their steps.
-/
set_option autoImplicit false

namespace DamagePlan

variable {ε ε' α β : Type} {P P' : ε → Prop}

theorem bind_ok (x : Except ε α) (f : α → Except ε β) (b : β) (whole : x >>= f = .ok b) :
    ∃ a, x = .ok a ∧ f a = .ok b := by
  cases x with
  | error e => cases whole
  | ok a => exact ⟨a, rfl, whole⟩

theorem lifted_ok (x : Except ε α) (g : ε → ε') (f : α → Except ε' β) (b : β) (whole : x.mapError g >>= f = .ok b) :
    ∃ a, x = .ok a ∧ f a = .ok b := by
  cases x with
  | error e => cases whole
  | ok a => exact ⟨a, rfl, whole⟩

theorem bind_made {x : Except ε α} {f : α → Except ε β} {a : α} {b : Except ε β} (first : x = .ok a) (second : f a = b) :
    x >>= f = b := by
  rw [first]
  exact second

theorem lift_made {x : Except ε α} {g : ε → ε'} {f : α → Except ε' β} {a : α} {b : Except ε' β} (first : x = .ok a)
    (second : f a = b) : x.mapError g >>= f = b := by
  rw [first]
  exact second

theorem map_ok (x : Except ε α) (f : α → β) (b : β) (whole : x.map f = .ok b) : ∃ a, x = .ok a ∧ f a = b := by
  cases x with
  | error e => cases whole
  | ok a => exact ⟨a, rfl, Except.ok.inj whole⟩

theorem map_error_ok (x : Except ε α) (f : ε → ε') (a : α) (whole : x.mapError f = .ok a) : x = .ok a := by
  cases x with
  | error e => cases whole
  | ok a => rw [Except.ok.inj whole]

theorem evaluated_ok (x : Except ε α) (f : α → β) (b : β) (part : x.toOption.map f = some b) : ∃ a, x = .ok a ∧ f a = b := by
  cases x with
  | error e => cases part
  | ok a => exact ⟨a, rfl, Option.some.inj part⟩

theorem bind_total (x : Except ε α) (f : α → Except ε β) (first : ∃ a, x = .ok a) (second : ∀ a, ∃ b, f a = .ok b) :
    ∃ b, x >>= f = .ok b := by
  obtain ⟨a, made⟩ := first
  obtain ⟨b, made'⟩ := second a
  exact ⟨b, by rw [made]; exact made'⟩

theorem map_total (x : Except ε α) (f : α → β) (first : ∃ a, x = .ok a) : ∃ b, x.map f = .ok b := by
  obtain ⟨a, made⟩ := first
  exact ⟨f a, by rw [made]; rfl⟩

theorem option_map_m_ok (a? : Option α) (f : α → Except ε β) (b : β) (whole : a?.mapM f = .ok (some b)) :
    ∃ a ∈ a?, f a = .ok b := by
  cases a? with
  | none => cases whole
  | some a =>
    obtain ⟨b', made, same⟩ := map_ok (f a) some (some b) whole
    cases same
    exact ⟨a, rfl, made⟩

theorem map_m_pairs (as : List α) (f : α → Except ε β) (bs : List β) (whole : as.mapM f = .ok bs) :
    List.Forall₂ (fun a b => f a = .ok b) as bs := by
  induction as generalizing bs with
  | nil =>
    cases whole
    exact .nil
  | cons a as ih =>
    rw [List.mapM_cons] at whole
    obtain ⟨first, made, whole⟩ := bind_ok _ _ _ whole
    obtain ⟨rest, madeRest, shape⟩ := bind_ok _ _ _ whole
    cases shape
    exact .cons made (ih rest madeRest)

theorem paired_right {R : α → β → Prop} (as : List α) (bs : List β) (pairs : List.Forall₂ R as bs) :
    ∀ b ∈ bs, ∃ a ∈ as, R a b := by
  induction pairs with
  | nil => nofun
  | cons first _ ih =>
    intro b member
    rcases List.mem_cons.mp member with rfl | later
    · exact ⟨_, List.mem_cons_self, first⟩
    · obtain ⟨a, among, holds⟩ := ih b later
      exact ⟨a, List.mem_cons_of_mem _ among, holds⟩

theorem paired_at {R : α → β → Prop} (as : List α) (bs : List β) (pairs : List.Forall₂ R as bs) (i : Nat) (a : α)
    (there : as[i]? = some a) : ∃ b, bs[i]? = some b ∧ R a b := by
  induction pairs generalizing i with
  | nil => cases there
  | cons first _ ih =>
    cases i with
    | zero =>
      cases there
      exact ⟨_, rfl, first⟩
    | succ i => exact ih i there

theorem pairs_between {γ : Type} {R : α → β → Prop} {S : β → γ → Prop} (as : List α) (cs : List γ)
    (each : List.Forall₂ (fun a c => ∃ b, R a b ∧ S b c) as cs) :
    ∃ bs, List.Forall₂ R as bs ∧ List.Forall₂ S bs cs := by
  induction each with
  | nil => exact ⟨[], .nil, .nil⟩
  | cons first _ ih =>
    obtain ⟨b, left, right⟩ := first
    obtain ⟨bs, lefts, rights⟩ := ih
    exact ⟨b :: bs, .cons left lefts, .cons right rights⟩

theorem map_m_ok (as : List α) (f : α → Except ε β) (bs : List β) (whole : as.mapM f = .ok bs) :
    ∀ b ∈ bs, ∃ a ∈ as, f a = .ok b := paired_right as bs (map_m_pairs as f bs whole)

theorem map_m_each (as : List α) (f : α → Except ε β) (bs : List β) (whole : as.mapM f = .ok bs) :
    ∀ a ∈ as, ∃ b ∈ bs, f a = .ok b := paired_right bs as (map_m_pairs as f bs whole).flip

theorem map_m_error_iff (as : List α) (f : α → Except ε β) (e : ε) : as.mapM f = .error e ↔
    ∃ before a after, as = before ++ a :: after ∧ (∀ b ∈ before, ∃ r, f b = .ok r) ∧ f a = .error e := by
  induction as with
  | nil => simp [pure, Except.pure]
  | cons first rest ih =>
    rw [List.mapM_cons]
    constructor
    · intro failed
      cases made : f first with
      | error e' =>
        rw [made] at failed
        cases failed
        exact ⟨[], first, rest, rfl, List.forall_mem_nil _, made⟩
      | ok r =>
        cases later : rest.mapM f with
        | ok rs =>
          rw [made, later] at failed
          cases failed
        | error e' =>
          rw [made, later] at failed
          cases failed
          obtain ⟨before, a, after, split, each, stops⟩ := ih.mp later
          exact ⟨first :: before, a, after, by rw [split, List.cons_append], List.forall_mem_cons.mpr ⟨⟨r, made⟩, each⟩, stops⟩
    · rintro ⟨before, a, after, split, each, stops⟩
      cases before with
      | nil =>
        cases split
        rw [stops]
        rfl
      | cons b before =>
        rw [List.cons_append, List.cons.injEq] at split
        obtain ⟨rfl, split⟩ := split
        obtain ⟨⟨r, made⟩, each⟩ := List.forall_mem_cons.mp each
        have later := ih.mpr ⟨before, a, after, split, each, stops⟩
        exact bind_made made (by rw [later]; rfl)

theorem fold_m_keeps {I : β → Prop} (as : List α) (f : β → α → Except ε β)
    (step : ∀ b a b', a ∈ as → f b a = .ok b' → I b → I b') (b b' : β) (whole : as.foldlM f b = .ok b') (start : I b) :
    I b' := by
  induction as generalizing b with
  | nil =>
    cases whole
    exact start
  | cons a as ih =>
    rw [List.foldlM_cons] at whole
    obtain ⟨next, first, whole⟩ := bind_ok _ _ _ whole
    exact ih (fun b a b' member => step b a b' (List.mem_cons_of_mem _ member)) next whole
      (step b a next List.mem_cons_self first start)

theorem fold_m_total {I : β → Prop} (as : List α) (f : β → α → Except ε β)
    (step : ∀ b a, a ∈ as → I b → ∃ b', f b a = .ok b' ∧ I b') (b : β) (start : I b) : ∃ b', as.foldlM f b = .ok b' ∧ I b' := by
  induction as generalizing b with
  | nil => exact ⟨b, rfl, start⟩
  | cons a as ih =>
    obtain ⟨next, first, kept⟩ := step b a List.mem_cons_self start
    obtain ⟨b', rest, end_⟩ := ih (fun b a member => step b a (List.mem_cons_of_mem _ member)) next kept
    exact ⟨b', bind_made first rest, end_⟩

theorem any_m_false (as : List α) (p : α → Except ε Bool) (whole : as.anyM p = .ok false) : ∀ a ∈ as, p a = .ok false := by
  induction as with
  | nil => nofun
  | cons a as ih =>
    obtain ⟨found, first, rest⟩ := bind_ok _ _ _ whole
    cases found with
    | true => cases rest
    | false => exact List.forall_mem_cons.mpr ⟨first, ih rest⟩

theorem any_m_true (as : List α) (p : α → Except ε Bool) (whole : as.anyM p = .ok true) : ∃ a ∈ as, p a = .ok true := by
  induction as with
  | nil => cases whole
  | cons a as ih =>
    obtain ⟨found, first, rest⟩ := bind_ok _ _ _ whole
    cases found with
    | true => exact ⟨a, List.mem_cons_self, first⟩
    | false =>
      obtain ⟨other, among, holds⟩ := ih rest
      exact ⟨other, List.mem_cons_of_mem a among, holds⟩

theorem any_m_total (as : List α) (p : α → Except ε Bool) (each : ∀ a ∈ as, ∃ found, p a = .ok found) :
    ∃ found, as.anyM p = .ok found := by
  induction as with
  | nil => exact ⟨false, rfl⟩
  | cons a as ih =>
    obtain ⟨found, first⟩ := each a List.mem_cons_self
    cases found with
    | true => exact ⟨true, bind_made first rfl⟩
    | false =>
      obtain ⟨found, rest⟩ := ih fun other member => each other (List.mem_cons_of_mem _ member)
      exact ⟨found, bind_made first rest⟩

theorem filter_m_ok (as : List α) (p : α → Except ε Bool) (kept : List α) (whole : as.filterM p = .ok kept) :
    ∀ a ∈ kept, p a = .ok true := by
  suffices from_ : ∀ before after, (∀ a ∈ before, p a = .ok true) → as.filterAuxM p before = .ok after →
      ∀ a ∈ after, p a = .ok true by
    obtain ⟨after, filtered, shape⟩ := bind_ok _ _ _ whole
    cases shape
    exact fun a member => from_ [] after (List.forall_mem_nil _) filtered a (List.mem_reverse.mp member)
  clear whole
  induction as with
  | nil =>
    intro before after each filtered
    cases filtered
    exact each
  | cons a as ih =>
    intro before after each filtered
    obtain ⟨keeps, asked, filtered⟩ := bind_ok _ _ _ filtered
    cases keeps with
    | true => exact ih _ after (List.forall_mem_cons.mpr ⟨asked, each⟩) filtered
    | false => exact ih before after each filtered

theorem map_m_total (as : List α) (f : α → Except ε β) (each : ∀ a ∈ as, ∃ b, f a = .ok b) :
    ∃ bs, as.mapM f = .ok bs := by
  induction as with
  | nil => exact ⟨[], rfl⟩
  | cons a as ih =>
    obtain ⟨b, made⟩ := each a List.mem_cons_self
    obtain ⟨bs, rest⟩ := ih fun other member => each other (List.mem_cons_of_mem _ member)
    refine ⟨b :: bs, ?_⟩
    rw [List.mapM_cons, made, rest]
    rfl

def Fails (P : ε → Prop) (x : Except ε α) : Prop := ∀ e, x = .error e → P e

theorem fails_ok (a : α) : Fails P (.ok a : Except ε α) := by
  intro e same
  cases same

theorem fails_error (e : ε) (holds : P e) : Fails P (.error e : Except ε α) := by
  intro e' same
  cases same
  exact holds

theorem Fails.mono {x : Except ε α} (fails : Fails P x) (weaker : ∀ e, P e → P' e) : Fails P' x :=
  fun e same => weaker e (fails e same)

theorem fails_bind (x : Except ε α) (f : α → Except ε β) (first : Fails P x) (second : ∀ a, x = .ok a → Fails P (f a)) :
    Fails P (x >>= f) := by
  cases x with
  | ok a => exact second a rfl
  | error e => exact fails_error e (first e rfl)

theorem fails_map (x : Except ε α) (f : α → β) (first : Fails P x) : Fails P (x.map f) := by
  cases x with
  | ok a => exact fails_ok _
  | error e => exact fails_error e (first e rfl)

theorem fails_map_error (x : Except ε α) (f : ε → ε') (Q : ε' → Prop) (first : Fails P x) (each : ∀ e, P e → Q (f e)) :
    Fails Q (x.mapError f) := by
  cases x with
  | ok a => exact fails_ok _
  | error e => exact fails_error _ (each e (first e rfl))

theorem fails_map_m (as : List α) (f : α → Except ε β) (each : ∀ a ∈ as, Fails P (f a)) : Fails P (as.mapM f) := by
  induction as with
  | nil => exact fails_ok _
  | cons a as ih =>
    rw [List.mapM_cons]
    exact fails_bind _ _ (each a List.mem_cons_self) fun _ _ =>
      fails_bind _ _ (ih fun other member => each other (List.mem_cons_of_mem _ member)) fun _ _ => fails_ok _

theorem fails_fold_m (as : List α) (f : β → α → Except ε β) (each : ∀ b, ∀ a ∈ as, Fails P (f b a)) (b : β) :
    Fails P (as.foldlM f b) := by
  induction as generalizing b with
  | nil => exact fails_ok _
  | cons a as ih =>
    rw [List.foldlM_cons]
    exact fails_bind _ _ (each b a List.mem_cons_self) fun next _ =>
      ih (fun b other member => each b other (List.mem_cons_of_mem _ member)) next

theorem fails_filter_m (as : List α) (p : α → Except ε Bool) (each : ∀ a ∈ as, Fails P (p a)) : Fails P (as.filterM p) := by
  suffices from_ : ∀ kept, Fails P (as.filterAuxM p kept) from fails_bind _ _ (from_ []) fun _ _ => fails_ok _
  induction as with
  | nil =>
    intro kept
    exact fails_ok _
  | cons a as ih =>
    intro kept
    exact fails_bind _ _ (each a List.mem_cons_self) fun _ _ =>
      ih (fun other member => each other (List.mem_cons_of_mem _ member)) _

end DamagePlan
