import Mathlib.Data.List.Infix

/-!
What replacing one text by another in a third comes to: the text is read from the left, an occurrence is exchanged
whole, and a character that begins none is kept. A filled text stays filled when something is appended to it, when others
are joined with it, and when filled text takes the place of parts of it.
-/
set_option autoImplicit false

namespace DamagePlan.Text

theorem append_filled (s t : String) (filled : s ≠ "") : s ++ t ≠ "" := by
  intro none
  exact filled (String.append_eq_empty_iff.mp none).1

theorem filled_append (s t : String) (filled : t ≠ "") : s ++ t ≠ "" := by
  intro none
  exact filled (String.append_eq_empty_iff.mp none).2

theorem intercalate_filled (separator text : String) (texts : List String) (filled : text ≠ "") :
    separator.intercalate (text :: texts) ≠ "" := by
  intro none
  have empty := congrArg String.toList none
  have some_ : text.toList ≠ [] := fun nil => filled (String.toList_inj.mp nil)
  rw [String.toList_intercalate, List.map_cons] at empty
  cases texts with
  | nil => simp [some_] at empty
  | cons other texts =>
    rw [List.intercalate_cons_of_ne_nil (by simp)] at empty
    simp [some_] at empty

inductive Rewrites (pattern by_ : List Char) : List Char → List Char → Prop
  | nil : Rewrites pattern by_ [] []
  | exchange {cs ds : List Char} (rest : Rewrites pattern by_ cs ds) : Rewrites pattern by_ (pattern ++ cs) (by_ ++ ds)
  | keep (c : Char) {cs ds : List Char} (none : ¬pattern <+: c :: cs) (rest : Rewrites pattern by_ cs ds) :
      Rewrites pattern by_ (c :: cs) (c :: ds)

open String.Slice.Pattern (SearchStep ToForwardSearcher.toSearcher)
open String.Slice.Pattern.Model (IsValidSearchFrom MatchesAt ForwardStringSearcher.lawfulToForwardSearcherModel
  ForwardStringSearcher.isLongestMatchAt_iff_splits ForwardStringSearcher.matchesAt_iff_splits)

section Search

variable {s : String.Slice} {pattern by_ : String}

def replaceStep (by_ sofar : String) : SearchStep s → String
  | .matched _ _ => sofar ++ String.ToSlice.toSlice by_
  | .rejected start stop => sofar ++ s.slice! start stop

theorem rewrites_between (between : List Char) (front back : String) (ds : List Char) (start stop : s.Pos)
    (starts : start.Splits front (String.ofList between ++ back)) (stops : stop.Splits (front ++ String.ofList between) back)
    (none : ∀ pos, start ≤ pos → pos < stop → ¬MatchesAt pattern pos)
    (rest : Rewrites pattern.toList by_.toList back.toList ds) :
    Rewrites pattern.toList by_.toList (between ++ back.toList) (between ++ ds) := by
  induction between generalizing front start with
  | nil => exact rest
  | cons c between ih =>
    have split : String.ofList (c :: between) = String.singleton c ++ String.ofList between := by
      rw [← String.toList_inj]
      simp
    rw [split] at starts stops
    have before : start < stop := (starts.lt_iff_exists_eq_append stops).mpr
      ⟨String.singleton c ++ String.ofList between, by simp, rfl, by rw [String.append_assoc]⟩
    have next := (String.append_assoc ▸ starts).next
    refine .keep c (fun occurs => ?_) (ih _ _ next (by rwa [String.append_assoc]) fun pos after inside => ?_)
    · obtain ⟨more, shape⟩ := occurs
      refine none start (Std.le_refl _) before (ForwardStringSearcher.matchesAt_iff_splits.mpr ⟨front, String.ofList more, ?_⟩)
      refine starts.of_eq rfl ?_
      rw [← String.toList_inj]
      simpa using shape.symm
    · exact none pos (Std.le_trans (Std.le_of_lt (by simp)) after) inside

theorem search_rewrites (by_ : String) (start : s.Pos) (steps : List (SearchStep s)) (valid : IsValidSearchFrom pattern start steps)
    (front back : String) (splits : start.Splits front back) (sofar : String) :
    ∃ ds, Rewrites pattern.toList by_.toList back.toList ds ∧
      (steps.foldl (replaceStep by_) sofar).toList = sofar.toList ++ ds := by
  induction valid generalizing front back sofar with
  | endPos =>
    obtain ⟨-, rfl⟩ := String.Slice.splits_endPos_iff.mp splits
    exact ⟨[], .nil, by simp⟩
  | matched found _ ih =>
    obtain ⟨front', back', starts, stops⟩ := ForwardStringSearcher.isLongestMatchAt_iff_splits.mp found
    obtain ⟨rfl, rfl⟩ := splits.eq starts
    obtain ⟨ds, rest, folded⟩ := ih _ _ stops (sofar ++ by_)
    refine ⟨by_.toList ++ ds, by simpa using rest.exchange, ?_⟩
    simpa [replaceStep, String.ToSlice.toSlice] using folded
  | @mismatched _ start stop before none _ ih =>
    obtain ⟨front', back', starts, stops⟩ := String.Slice.copy_slice_eq_iff_splits.mp ⟨Std.le_of_lt before, rfl⟩
    obtain ⟨rfl, rfl⟩ := splits.eq starts
    obtain ⟨ds, rest, folded⟩ := ih _ _ stops (sofar ++ (s.slice start stop (Std.le_of_lt before)).copy)
    refine ⟨(s.slice start stop (Std.le_of_lt before)).copy.toList ++ ds, ?_, ?_⟩
    · rw [String.toList_append]
      exact rewrites_between _ front back' ds start stop (by simpa using starts) (by simpa using stops) none rest
    · have ordered : start ≤ stop := Std.le_of_lt before
      have kept : replaceStep by_ sofar (.rejected start stop) = sofar ++ (s.slice start stop ordered).copy := by
        simp [replaceStep, ← String.Slice.slice_eq_slice!, ordered]
      rw [List.foldl_cons, kept, folded, String.toList_append, List.append_assoc]

end Search

theorem replace_rewrites (s pattern by_ : String) (marked : pattern ≠ "") :
    Rewrites pattern.toList by_.toList s.toList (s.replace pattern by_).toList := by
  have lawful := ForwardStringSearcher.lawfulToForwardSearcherModel marked
  have valid := lawful.isValidSearchFrom_toList s.toSlice
  have folded : s.replace pattern by_ = (ToForwardSearcher.toSearcher pattern s.toSlice).toList.foldl (replaceStep by_) "" := by
    unfold String.replace String.Slice.replace
    rw [← Std.Iter.foldl_toList]
    congr 1
    funext sofar step
    cases step <;> rfl
  have splits : s.toSlice.startPos.Splits "" s := by simp
  obtain ⟨ds, rewrites, result⟩ := search_rewrites by_ _ _ valid "" s splits ""
  rw [folded, result]
  simpa using rewrites

section Lists

variable {pattern by_ cs ds : List Char}

theorem Rewrites.filled (rewrites : Rewrites pattern by_ cs ds) (filled : by_ ≠ []) (some_ : cs ≠ []) : ds ≠ [] := by
  cases rewrites with
  | nil => exact some_
  | exchange => simp [filled]
  | keep => exact List.cons_ne_nil _ _

theorem Rewrites.unique {cs' ds' : List Char} (rewrites : Rewrites pattern by_ cs ds) (rewrites' : Rewrites pattern by_ cs' ds')
    (marked : pattern ≠ []) (same : cs = cs') : ds = ds' := by
  induction rewrites generalizing cs' ds' with
  | nil =>
    cases rewrites' with
    | nil => rfl
    | exchange => simp [marked] at same
    | keep => cases same
  | exchange _ ih =>
    cases rewrites' with
    | nil => simp [marked] at same
    | exchange rest => rw [ih rest (List.append_cancel_left same)]
    | keep c none => exact absurd ⟨_, same⟩ none
  | keep c none _ ih =>
    cases rewrites' with
    | nil => cases same
    | exchange => exact absurd ⟨_, same.symm⟩ none
    | keep c' none' rest =>
      cases same
      rw [ih rest rfl]

theorem Rewrites.unchanged (rewrites : Rewrites pattern by_ cs ds) (absent : ¬pattern <:+: cs) : ds = cs := by
  induction rewrites with
  | nil => rfl
  | exchange => exact absurd (List.prefix_append _ _).isInfix absent
  | keep c _ _ ih => rw [ih fun occurs => absent (List.infix_cons occurs)]

theorem Rewrites.part (rewrites : Rewrites pattern by_ cs ds) (shorter : by_.Sublist pattern) : ds.Sublist cs := by
  induction rewrites with
  | nil => exact .slnil
  | exchange _ ih => exact shorter.append ih
  | keep c _ _ ih => exact ih.cons_cons c

theorem Rewrites.prefix_kept (rewrites : Rewrites pattern by_ cs ds) (filled : by_ ≠ []) (word : List Char)
    (apart : ∀ c ∈ word, c ∉ by_) (begins : word <+: ds) : word <+: cs := by
  induction rewrites generalizing word with
  | nil => exact begins
  | exchange =>
    cases word with
    | nil => exact List.nil_prefix
    | cons c word =>
      obtain ⟨first, by_, rfl⟩ := List.exists_cons_of_ne_nil filled
      obtain ⟨rfl, -⟩ := List.cons_prefix_cons.mp begins
      exact absurd List.mem_cons_self (apart c List.mem_cons_self)
  | keep c _ _ ih =>
    cases word with
    | nil => exact List.nil_prefix
    | cons c' word =>
      obtain ⟨rfl, later⟩ := List.cons_prefix_cons.mp begins
      exact List.cons_prefix_cons.mpr ⟨rfl, ih word (fun c member => apart c (List.mem_cons_of_mem _ member)) later⟩

theorem infix_behind (marked : pattern ≠ []) (apart : ∀ c ∈ pattern, c ∉ by_) (occurs : pattern <:+: by_ ++ ds) :
    pattern <:+: ds := by
  induction by_ with
  | nil => exact occurs
  | cons c by_ ih =>
    rcases List.infix_cons_iff.mp occurs with begins | later
    · obtain ⟨first, pattern, rfl⟩ := List.exists_cons_of_ne_nil marked
      obtain ⟨rfl, -⟩ := List.cons_prefix_cons.mp begins
      exact absurd List.mem_cons_self (apart first List.mem_cons_self)
    · exact ih (fun c member among => apart c member (List.mem_cons_of_mem _ among)) later

theorem Rewrites.removes (rewrites : Rewrites pattern by_ cs ds) (marked : pattern ≠ []) (filled : by_ ≠ [])
    (apart : ∀ c ∈ pattern, c ∉ by_) : ¬pattern <:+: ds := by
  induction rewrites with
  | nil => simp [marked]
  | exchange _ ih => exact fun occurs => ih (infix_behind marked apart occurs)
  | keep c none rest ih =>
    intro occurs
    rcases List.infix_cons_iff.mp occurs with begins | later
    · exact none ((Rewrites.keep c none rest).prefix_kept filled pattern apart begins)
    · exact ih later

theorem Rewrites.undone {x y : Char} (rewrites : Rewrites pattern [x, y] cs ds) (different : x ≠ y)
    (absent : ¬[x, y] <:+: cs) : Rewrites [x, y] pattern ds cs := by
  induction rewrites with
  | nil => exact .nil
  | exchange _ ih => exact (ih fun occurs => absent (occurs.trans (List.suffix_append _ _).isInfix)).exchange
  | keep c _ rest ih =>
    refine .keep c (fun begins => ?_) (ih fun occurs => absent (List.infix_cons occurs))
    obtain ⟨rfl, next⟩ := List.cons_prefix_cons.mp begins
    -- the second letter was kept as well, since what is put in begins with the first
    cases rest with
    | nil => simp at next
    | exchange =>
      obtain ⟨same, -⟩ := List.cons_prefix_cons.mp next
      exact different same.symm
    | keep c' _ _ =>
      obtain ⟨rfl, -⟩ := List.cons_prefix_cons.mp next
      exact absent ⟨[], _, rfl⟩

end Lists

section Strings

variable (s pattern by_ : String) (marked : pattern ≠ "")

include marked

theorem replace_nonempty (filled : by_ ≠ "") (some_ : s ≠ "") : s.replace pattern by_ ≠ "" := by
  have rewrites := replace_rewrites s pattern by_ marked
  simpa using rewrites.filled (by simpa using filled) (by simpa using some_)

theorem replace_unchanged (absent : ¬pattern.toList <:+: s.toList) : s.replace pattern by_ = s :=
  String.toList_inj.mp ((replace_rewrites s pattern by_ marked).unchanged absent)

theorem replace_removes (filled : by_ ≠ "") (apart : ∀ c ∈ pattern.toList, c ∉ by_.toList) :
    ¬pattern.toList <:+: (s.replace pattern by_).toList :=
  (replace_rewrites s pattern by_ marked).removes (by simpa using marked) (by simpa using filled) apart

theorem replace_changes_iff (filled : by_ ≠ "") (apart : ∀ c ∈ pattern.toList, c ∉ by_.toList) :
    s.replace pattern by_ ≠ s ↔ pattern.toList <:+: s.toList := by
  constructor
  · exact fun changed => by_contra fun absent => changed (replace_unchanged s pattern by_ marked absent)
  · intro occurs same
    exact replace_removes s pattern by_ marked filled apart (same.symm ▸ occurs)

theorem replace_undone (x y : Char) (word : by_.toList = [x, y]) (different : x ≠ y)
    (absent : ¬by_.toList <:+: s.toList) : (s.replace pattern by_).replace by_ pattern = s := by
  have rewrites := replace_rewrites s pattern by_ marked
  have filled : by_ ≠ "" := by
    rintro rfl
    cases word
  have again := replace_rewrites (s.replace pattern by_) by_ pattern filled
  rw [word] at rewrites absent again
  exact String.toList_inj.mp (again.unique (rewrites.undone different absent) (by simp) rfl)

end Strings

end DamagePlan.Text
