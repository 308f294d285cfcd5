import Mathlib.Data.List.Forall2
import DamagePlan.Text.Pattern

/-!
What a match tells of the text: a search finds a pattern at a place of the text, a text in either case is found where its
letters are and nowhere else, and a marked character is one of the text's.
-/
set_option autoImplicit false

namespace DamagePlan.Text

theorem decimal_digit_span (c : Char) (digit : isDecimalDigit c = true) :
    ∃ first ∈ decimalZeros, first ≤ c.toNat ∧ c.toNat ≤ first + 9 := by
  unfold isDecimalDigit decimalDigit? at digit
  split at digit
  · split at digit
    · rename_i ascii
      simp only [isAsciiDigit, Bool.and_eq_true, decide_eq_true_eq, Char.le_def, UInt32.le_iff_toNat_le] at ascii
      exact ⟨48, by decide, ascii.1, ascii.2⟩
    · cases digit
  · rw [Option.isSome_map] at digit
    obtain ⟨first, among⟩ := Option.isSome_iff_exists.mp digit
    have bounds := List.find?_some among
    simp only [Bool.and_eq_true, decide_eq_true_eq] at bounds
    exact ⟨first, List.mem_of_find?_eq_some among, bounds⟩

theorem case_runs_apart : (lowerRuns.toList.all fun run => decimalZeros.all fun first =>
    run.last < first || first + 9 < run.first) = true := by decide +kernel

theorem lower_digit (c : Char) (digit : isDecimalDigit c = true) : lowerChar c = c := by
  obtain ⟨first, among, low, high⟩ := decimal_digit_span c digit
  have outside : lowerRuns.findSome? (·.target? c.toNat) = none := by
    rw [← Array.findSome?_toList, List.findSome?_eq_none_iff]
    intro run member
    have apart := List.all_eq_true.mp (List.all_eq_true.mp case_runs_apart run member) first among
    simp only [Bool.or_eq_true, decide_eq_true_eq] at apart
    rw [CaseRun.target?, if_neg]
    simp only [Bool.and_eq_true, decide_eq_true_eq]
    omega
  have letters : first ≤ 48 ∨ 128 ≤ first := by
    have zeros : ∀ first ∈ decimalZeros, first ≤ 48 ∨ 128 ≤ first := by decide
    exact zeros first among
  unfold lowerChar
  dsimp only
  rw [outside]
  split
  · rw [if_neg]
    simp only [Bool.and_eq_true, decide_eq_true_eq, Char.le_def, UInt32.le_iff_toNat_le]
    rintro ⟨upper, -⟩
    have upper : 65 ≤ c.toNat := upper
    omega
  · split <;> rfl

def caseClass (letter : Char) : List Nat :=
  letter.toNat :: (lowerChar letter).toNat :: (caseVariants.lookup (lowerChar letter).toNat).getD []

theorem digit_folds (letter c : Char) (digit : isDecimalDigit c = true) (folds : foldsTo letter c = true) :
    c.toNat ∈ caseClass letter := by
  simp only [foldsTo, lower_digit c digit, Bool.or_eq_true, beq_iff_eq] at folds
  rcases folds with rfl | same | variant
  · exact List.mem_cons_self
  · exact List.mem_cons_of_mem _ (same ▸ List.mem_cons_self)
  · split at variant
    · rename_i others found
      rw [caseClass, found, Option.getD_some]
      exact List.mem_cons_of_mem _ (List.mem_cons_of_mem _ (List.contains_iff_mem.mp variant))
    · cases variant

namespace Pattern

theorem search_from_found (p : Pattern) (before : Option Char) (cs : List Char) (e : Place)
    (found : p.searchFrom before cs = some e) : ∃ place, e ∈ p.ends place ∧ ∀ c ∈ place.rest, c ∈ cs := by
  induction cs generalizing before with
  | nil => exact ⟨_, List.mem_of_head? found, fun c member => member⟩
  | cons c rest ih =>
    unfold searchFrom at found
    split at found
    · rename_i first
      cases found
      exact ⟨_, List.mem_of_head? first, fun c member => member⟩
    · obtain ⟨place, ended, inside⟩ := ih _ found
      exact ⟨place, ended, fun c member => List.mem_cons_of_mem _ (inside c member)⟩

def Needs (p : Pattern) (wanted : Char → Bool) : Prop := ∀ place e, e ∈ p.ends place → ∃ c ∈ place.rest, wanted c = true

theorem needs_either {first second : Pattern} {wanted : Char → Bool} (one : first.Needs wanted) (other : second.Needs wanted) :
    (either first second).Needs wanted := by
  intro place e member
  rcases List.mem_append.mp member with there | there
  · exact one place e there
  · exact other place e there

theorem occurs_needs {p : Pattern} {wanted : Char → Bool} (needs : p.Needs wanted) (s : String)
    (without : ∀ c ∈ s.toList, wanted c = false) : p.occursIn s = false := by
  rw [occursIn, Option.isSome_eq_false_iff, Option.isNone_iff_eq_none, search?, Option.eq_none_iff_forall_ne_some]
  intro e found
  obtain ⟨place, ended, inside⟩ := search_from_found p none s.toList e found
  obtain ⟨c, member, meets⟩ := needs place e ended
  rw [without c (inside c member)] at meets
  cases meets

theorem text_needs (s : String) (letter : Char) (member : letter ∈ s.toList) (wanted : Char → Bool)
    (folds : ∀ c, foldsTo letter c = true → wanted c = true) : (text s).Needs wanted := by
  unfold text
  generalize s.toList = letters at member
  induction letters with
  | nil => cases member
  | cons first letters ih =>
    intro place e matched
    simp only [List.foldr_cons, ends, List.mem_flatMap] at matched
    obtain ⟨next, taken, matched⟩ := matched
    split at taken
    · cases taken
    · rename_i c rest shape
      split at taken
      · rename_i folded
        rw [List.mem_singleton.mp taken] at matched
        rw [shape]
        rcases List.mem_cons.mp member with rfl | later
        · exact ⟨c, List.mem_cons_self, folds c folded⟩
        · obtain ⟨found, among, meets⟩ := ih later _ e matched
          exact ⟨found, List.mem_cons_of_mem _ among, meets⟩
      · cases taken

theorem search_from_finds (p : Pattern) (back : List Char) (there : ∀ before, p.ends ⟨before, back, []⟩ ≠ [])
    (before : Option Char) (front : List Char) : (p.searchFrom before (front ++ back)).isSome = true := by
  induction front generalizing before with
  | nil =>
    obtain ⟨e, rest, found⟩ := List.exists_cons_of_ne_nil (there before)
    cases back with
    | nil => simp [searchFrom, found]
    | cons c back => simp [searchFrom, found]
  | cons c front ih =>
    rw [List.cons_append, searchFrom]
    split
    · rfl
    · exact ih _

theorem text_ends (word : String) (found back : List Char) (before : Option Char) (marks : List (Nat × List Char))
    (folds : List.Forall₂ (fun letter c => foldsTo letter c = true) word.toList found) :
    (text word).ends ⟨before, found ++ back, marks⟩ ≠ [] := by
  unfold text
  generalize word.toList = letters at folds
  induction folds generalizing before with
  | nil => exact List.cons_ne_nil _ _
  | cons first _ ih => simpa [ends, first] using ih _

theorem any_of_ends (ps : List Pattern) (p : Pattern) (member : p ∈ ps) (place : Place) (there : p.ends place ≠ []) :
    (anyOf ps).ends place ≠ [] := by
  induction ps with
  | nil => cases member
  | cons first ps ih =>
    cases ps with
    | nil => rwa [anyOf, ← List.mem_singleton.mp member]
    | cons second ps =>
      intro empty
      obtain ⟨one, others⟩ := List.append_eq_nil_iff.mp empty
      rcases List.mem_cons.mp member with rfl | later
      · exact there one
      · exact ih later others

theorem any_text_occurs (words : List String) (word : String) (member : word ∈ words) (front found back : List Char)
    (folds : List.Forall₂ (fun letter c => foldsTo letter c = true) word.toList found) (s : String)
    (shape : s.toList = front ++ (found ++ back)) : (anyText words).occursIn s = true := by
  rw [occursIn, search?, shape]
  refine search_from_finds _ _ (fun before => ?_) _ _
  exact any_of_ends _ _ (List.mem_map_of_mem member) _ (text_ends word found back before [] folds)

theorem replace_from_part (p : Pattern) (skip : Nat) (before : Option Char) (cs : List Char) :
    (p.replaceFrom [] skip before cs).Sublist cs := by
  induction cs generalizing skip before with
  | nil => exact .slnil
  | cons c rest ih =>
    cases skip with
    | succ skip => exact (ih skip _).cons c
    | zero =>
      unfold replaceFrom
      split
      · dsimp only
        split
        · exact (ih 0 _).cons_cons c
        · exact (ih _ _).cons c
      · exact (ih 0 _).cons_cons c

def isPlain : Pattern → Bool
  | .seq first second | .either first second => first.isPlain && second.isPlain
  | .mark _ _ => false
  | _ => true

theorem run_ends_marks (accepts : Char → Bool) (cs : List Char) (least : Nat) (most : Option Nat) (place e : Place)
    (ended : e ∈ runEnds accepts least most place cs) : e.marks = place.marks := by
  have here : ∀ (least : Nat) (place e : Place), e ∈ (if least = 0 then [place] else []) → e.marks = place.marks := by
    intro least place e member
    split at member
    · rw [List.mem_singleton.mp member]
    · cases member
  induction cs generalizing least most place with
  | nil => exact here least place e ended
  | cons c rest ih =>
    unfold runEnds at ended
    dsimp only at ended
    split at ended
    · exact here least place e ended
    · rcases List.mem_append.mp ended with farther | there
      · exact ih _ _ { place with before := some c, rest } farther
      · exact here least place e there

theorem plain_ends_marks (p : Pattern) (plain : p.isPlain = true) (place e : Place) (ended : e ∈ p.ends place) :
    e.marks = place.marks := by
  induction p generalizing place e with
  | empty => rw [List.mem_singleton.mp ended]
  | one accepts =>
    unfold ends at ended
    split at ended
    · cases ended
    · split at ended
      · rw [List.mem_singleton.mp ended]
      · cases ended
  | run accepts least most => exact run_ends_marks accepts _ least most place e ended
  | seq first second one other =>
    simp only [isPlain, Bool.and_eq_true] at plain
    obtain ⟨middle, before, after⟩ := List.mem_flatMap.mp ended
    exact (other plain.2 middle e after).trans (one plain.1 place middle before)
  | either first second one other =>
    simp only [isPlain, Bool.and_eq_true] at plain
    rcases List.mem_append.mp ended with there | there
    · exact one plain.1 place e there
    · exact other plain.2 place e there
  | mark label inner => cases plain
  | wordEdge | atStart | atEnd =>
    unfold ends at ended
    split at ended
    · rw [List.mem_singleton.mp ended]
    · cases ended

theorem one_takes (accepts : Char → Bool) (place e : Place) (ended : e ∈ (one accepts).ends place) :
    ∃ c, accepts c = true ∧ place.rest.take (place.rest.length - e.rest.length) = [c] := by
  unfold ends at ended
  split at ended
  · cases ended
  · rename_i c rest shape
    split at ended
    · rename_i accepted
      rw [List.mem_singleton.mp ended, shape]
      exact ⟨c, accepted, by simp⟩
    · cases ended

theorem run_once (accepts : Char → Bool) (place : Place) : (run accepts 1 (some 1)).ends place = (one accepts).ends place := by
  obtain ⟨before, rest, marks⟩ := place
  cases rest with
  | nil => rfl
  | cons c rest =>
    -- after one character a run of one has come to its end, whatever follows
    have ended : ∀ place, runEnds accepts 0 (some 0) place rest = [place] := by
      intro place
      cases rest <;> simp [runEnds]
    cases accepted : accepts c <;> simp [ends, runEnds, accepted, ended]

theorem marked_first (label : Nat) (inner rest : Pattern) (plain : rest.isPlain = true) (s taken : String)
    (found : ((seq (mark label inner) rest).match? s).bind (·.mark? label) = some taken) :
    ∃ e ∈ inner.ends ⟨none, s.toList, []⟩, taken = String.ofList (s.toList.take (s.toList.length - e.rest.length)) := by
  obtain ⟨last, first, named⟩ := Option.bind_eq_some_iff.mp found
  obtain ⟨middle, before, after⟩ := List.mem_flatMap.mp (List.mem_of_head? first)
  obtain ⟨e, ended, rfl⟩ := List.mem_map.mp before
  refine ⟨e, ended, ?_⟩
  rw [Place.mark?, plain_ends_marks rest plain _ last after, List.lookup_cons_self] at named
  exact (Option.some.inj named).symm

end Pattern

end DamagePlan.Text
