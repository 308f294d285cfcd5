import Mathlib.Data.List.DropRight
import DamagePlan.Proofs.Steps
import DamagePlan.Text.Markup

/-!
Character references: to resolve them is to shorten the text and to make no digits, and it fails only for a text with an
ampersand and more digits than a number may have.
-/
set_option autoImplicit false

namespace DamagePlan.Text

open Decimal (IntegerTooLong maxIntegerDigits readDigits)

namespace Entity

theorem named_short : (named.all fun entry => decide (entry.2.length ≤ 1) ||
    decide (entry.2.length = 2) && !(entry.1.toList.drop 1).isEmpty) = true := by decide +kernel

theorem name_text_short (name text : List Char) (some_ : name ≠ []) (found : ofName? name = some text) :
    text.length ≤ name.length := by
  obtain ⟨codes, listed, rfl⟩ := Option.map_eq_some_iff.mp found
  obtain ⟨before, after, split, -⟩ := List.lookup_eq_some_iff.mp listed
  have entry := List.all_eq_true.mp named_short (String.ofList name, codes) (by rw [split]; simp)
  rw [List.length_map]
  simp only [Bool.or_eq_true, Bool.and_eq_true, decide_eq_true_eq, Bool.not_eq_true', String.toList_ofList] at entry
  have filled := List.length_pos_iff.mpr some_
  rcases entry with single | ⟨double, more⟩
  · exact Nat.le_trans single filled
  · have two : 0 < (name.drop 1).length := List.length_pos_iff.mpr (by simpa using more)
    rw [List.length_drop] at two
    omega

theorem number_short (n : Nat) : (ofNumber n).length ≤ 1 := by
  unfold ofNumber
  split
  · exact Nat.le_refl 1
  · split
    · exact Nat.le_refl 1
    · split
      · exact Nat.le_refl 1
      · split <;> simp

theorem longest_name_short (name text : List Char) (count : Nat) (within : count ≤ name.length)
    (found : longestName name count = some text) : text.length ≤ name.length := by
  induction count with
  | zero => cases found
  | succ count ih =>
    cases count with
    | zero => cases found
    | succ count =>
      rw [longestName] at found
      split at found
      · rename_i own known
        cases found
        have some_ : name.take (count + 2) ≠ [] := List.ne_nil_of_length_pos (by rw [List.length_take]; omega)
        have short := name_text_short _ own some_ known
        rw [List.length_take] at short
        rw [List.length_append, List.length_drop]
        omega
      · exact ih (by omega) found

theorem name_short (name : List Char) (some_ : name ≠ []) :
    (ofName name).length ≤ name.length ∨ ofName name = '&' :: name := by
  unfold ofName
  cases known : ofName? name with
  | some text => exact .inl (name_text_short name text some_ known)
  | none =>
    cases longest : longestName name (name.length - 1) with
    | some text => exact .inl (longest_name_short name text _ (Nat.sub_le _ _) longest)
    | none => exact .inr rfl

theorem semicolon_short (cs : List Char) : semicolon cs ≤ cs.length := by
  unfold semicolon
  split <;> simp

theorem semicolon_within (cs : List Char) (n : Nat) (within : n ≤ cs.length) : n + semicolon (cs.drop n) ≤ cs.length := by
  have mark := semicolon_short (cs.drop n)
  rw [List.length_drop] at mark
  omega

theorem named_reference_short (cs : List Char) (length : Nat) (filled : 0 < length) (reach : length ≤ cs.length) :
    (ofName (cs.take (length + semicolon (cs.drop length)))).length ≤ length + semicolon (cs.drop length) ∨
      ofName (cs.take (length + semicolon (cs.drop length))) = '&' :: cs.take (length + semicolon (cs.drop length)) := by
  have some_ : cs.take (length + semicolon (cs.drop length)) ≠ [] :=
    List.ne_nil_of_length_pos (by rw [List.length_take]; omega)
  refine (name_short _ some_).imp_left fun short => ?_
  rw [List.length_take] at short
  omega

theorem reference_short (cs text : List Char) (taken : Nat) (found : reference? cs = .ok (some (text, taken))) :
    taken ≤ cs.length ∧ (text.length ≤ taken ∨ text = '&' :: cs.take taken) := by
  have digits (P : Char → Bool) (rest : List Char) : (rest.takeWhile P).length ≤ rest.length :=
    (List.takeWhile_prefix P).length_le
  unfold reference? at found
  split at found
  · rename_i rest
    dsimp only at found
    split at found
    · unfold readDigits at found
      split at found
      · cases found
      · cases found
        have within := semicolon_within rest _ (digits isAsciiDigit rest)
        have behind : (rest.takeWhile isAsciiDigit ++ rest.dropWhile isAsciiDigit).drop (rest.takeWhile isAsciiDigit).length =
            rest.dropWhile isAsciiDigit := List.drop_left' rfl
        rw [List.takeWhile_append_dropWhile] at behind
        rw [behind] at within
        have short := number_short (Decimal.digitsValue (rest.takeWhile isAsciiDigit))
        rw [List.length_cons]
        exact ⟨by omega, .inl (by omega)⟩
    · split at found
      · rename_i x rest _
        split at found
        · cases found
          have within := semicolon_within rest _ (digits isHexDigit rest)
          have short := number_short ((rest.takeWhile isHexDigit).foldl
            (fun n c => n * 16 + (hexDigit? c).getD 0) 0)
          rw [List.length_cons, List.length_cons]
          exact ⟨by omega, .inl (by omega)⟩
        · cases found
      · cases found
  · dsimp only at found
    split at found
    · cases found
    · rename_i some_
      cases found
      have reach : ((cs.takeWhile isNameChar).take 32).length ≤ cs.length :=
        Nat.le_trans (List.length_take_le' _ _) (digits isNameChar cs)
      have filled := List.length_pos_iff.mpr (mt List.isEmpty_iff.mpr some_)
      exact ⟨semicolon_within cs _ reach, named_reference_short cs _ filled reach⟩

inductive Resolves : List Char → List Char → Prop
  | nil : Resolves [] []
  | keep (c : Char) {cs ds : List Char} (plain : c = '&' → reference? cs = .ok none) (rest : Resolves cs ds) :
      Resolves (c :: cs) (c :: ds)
  | refer (text : List Char) (taken : Nat) {cs ds : List Char} (found : reference? cs = .ok (some (text, taken)))
      (rest : Resolves (cs.drop taken) ds) : Resolves ('&' :: cs) (text ++ ds)

theorem unescape_skips (skip : Nat) (cs : List Char) : unescapeFrom skip cs = unescape (cs.drop skip) := by
  induction skip generalizing cs with
  | zero => rfl
  | succ skip ih =>
    cases cs with
    | nil => rfl
    | cons c cs => exact ih cs

theorem unescape_kept (c : Char) (rest : List Char) (kept : c = '&' → reference? rest = .ok none) :
    unescape (c :: rest) = (unescape rest).map (c :: ·) := by
  rw [unescape, unescapeFrom]
  split
  · rename_i mark
    rw [kept (eq_of_beq mark)]
    rfl
  · rfl

theorem unescape_reference (rest text : List Char) (taken : Nat) (found : reference? rest = .ok (some (text, taken))) :
    unescape ('&' :: rest) = (unescape (rest.drop taken)).map (text ++ ·) := by
  rw [unescape, unescapeFrom, if_pos (beq_self_eq_true _), found, ← unescape_skips]
  rfl

theorem unescape_fault (rest : List Char) (e : IntegerTooLong) (found : reference? rest = .error e) :
    unescape ('&' :: rest) = .error e := by
  rw [unescape, unescapeFrom, if_pos (beq_self_eq_true _), found]
  rfl

theorem unescape_resolves (cs ds : List Char) (made : unescape cs = .ok ds) : Resolves cs ds := by
  induction length : cs.length using Nat.strongRecOn generalizing cs ds with
  | ind n ih =>
    subst length
    cases cs with
    | nil =>
      cases made
      exact .nil
    | cons c rest =>
      have kept (plain : c = '&' → reference? rest = .ok none) : Resolves (c :: rest) ds := by
        rw [unescape_kept c rest plain] at made
        obtain ⟨after, whole, rfl⟩ := map_ok _ _ _ made
        exact .keep c plain (ih rest.length (Nat.lt_succ_self _) rest after whole rfl)
      by_cases mark : c = '&'
      · subst mark
        cases found : reference? rest with
        | error e =>
          rw [unescape_fault rest e found] at made
          cases made
        | ok reference =>
          cases reference with
          | none => exact kept fun _ => found
          | some reference =>
            obtain ⟨text, taken⟩ := reference
            rw [unescape_reference rest text taken found] at made
            obtain ⟨after, whole, rfl⟩ := map_ok _ _ _ made
            exact .refer text taken found
              (ih (rest.drop taken).length (by rw [List.length_drop, List.length_cons]; omega) _ after whole rfl)
      · exact kept fun own => absurd own mark

theorem Resolves.short {cs ds : List Char} (resolves : Resolves cs ds) : ds.length < cs.length ∨ ds = cs := by
  induction resolves with
  | nil => exact .inr rfl
  | keep c _ _ ih => exact ih.imp Nat.succ_lt_succ fun same => by rw [same]
  | @refer text taken cs ds found _ ih =>
    obtain ⟨within, short⟩ := reference_short cs text taken found
    rw [List.length_drop] at ih
    rcases short with short | rfl
    · have most : ds.length ≤ cs.length - taken :=
        ih.elim Nat.le_of_lt fun same => Nat.le_of_eq (by rw [same, List.length_drop])
      rw [List.length_append, List.length_cons]
      exact .inl (by omega)
    · rcases ih with shorter | same
      · rw [List.length_append, List.length_cons, List.length_cons, List.length_take]
        exact .inl (by omega)
      · exact .inr (by rw [same, List.cons_append, List.take_append_drop])

theorem unescape_plain (cs : List Char) (none_ : '&' ∉ cs) : unescape cs = .ok cs := by
  induction cs with
  | nil => rfl
  | cons c cs ih =>
    rw [unescape_kept c cs fun mark => absurd (by rw [mark]; exact List.mem_cons_self) none_,
      ih fun member => none_ (List.mem_cons_of_mem c member)]
    rfl

theorem char_digit (n : Nat) (digit : isAsciiDigit (Char.ofNat n) = true) : 48 ≤ n ∧ n ≤ 57 := by
  have range (c : Char) : isAsciiDigit c = true ↔ 48 ≤ c.toNat ∧ c.toNat ≤ 57 := by
    simp only [isAsciiDigit, Bool.and_eq_true, decide_eq_true_eq, Char.le_def, UInt32.le_iff_toNat_le]
    exact Iff.rfl
  by_cases valid : n.isValidChar
  · rw [range, Char.ofNat, dif_pos valid] at digit
    exact digit
  · rw [range, Char.ofNat, dif_neg valid] at digit
    exact absurd digit.1 (by decide)

theorem number_digit (n : Nat) (c : Char) (member : c ∈ ofNumber n) (digit : isAsciiDigit c = true) : n % 16 < 10 := by
  have others : windowsCodes.all (fun entry => !isAsciiDigit (Char.ofNat entry.2)) = true := by decide +kernel
  unfold ofNumber at member
  split at member
  · rename_i m found
    obtain ⟨before, after, split, -⟩ := List.lookup_eq_some_iff.mp found
    have entry := List.all_eq_true.mp others (n, m) (by rw [split]; simp)
    rw [List.mem_singleton.mp member] at digit
    simp [digit] at entry
  · have range (own : c = Char.ofNat n) : n % 16 < 10 := by
      have bounds := char_digit n (own ▸ digit)
      omega
    split at member
    · exact range (List.mem_singleton.mp member)
    · split at member
      · rw [List.mem_singleton.mp member] at digit
        exact absurd digit (by decide)
      · split at member
        · cases member
        · exact range (List.mem_singleton.mp member)

theorem hex_digit_low (c : Char) (other : isAsciiDigit c = false) (n : Nat) (found : hexDigit? c = some n) : 10 ≤ n ∧ n < 16 := by
  unfold hexDigit? at found
  rw [other] at found
  simp only [Bool.false_eq_true, if_false] at found
  split at found
  · rename_i range
    simp only [Bool.and_eq_true, decide_eq_true_eq, Char.le_def, UInt32.le_iff_toNat_le] at range
    cases found
    have low : 97 ≤ c.toNat := range.1
    have high : c.toNat ≤ 102 := range.2
    omega
  · split at found
    · rename_i range
      simp only [Bool.and_eq_true, decide_eq_true_eq, Char.le_def, UInt32.le_iff_toNat_le] at range
      cases found
      have low : 65 ≤ c.toNat := range.1
      have high : c.toNat ≤ 70 := range.2
      omega
    · cases found

theorem hex_value_high (ds : List Char) (some_ : ds ≠ []) (known : ∀ d ∈ ds, (hexDigit? d).isSome = true)
    (others : ∀ d ∈ ds, isAsciiDigit d = false) : 10 ≤ ds.foldl (fun n c => n * 16 + (hexDigit? c).getD 0) 0 % 16 := by
  rw [← List.dropLast_append_getLast some_, List.foldl_append]
  have last := List.getLast_mem some_
  obtain ⟨value, found⟩ := Option.isSome_iff_exists.mp (known _ last)
  have bounds := hex_digit_low _ (others _ last) value found
  simp only [List.foldl_cons, List.foldl_nil, found, Option.getD_some]
  omega

theorem name_text_plain (name text : List Char) (found : ofName? name = some text) : text.countP isAsciiDigit = 0 := by
  have others : named.all (fun entry => entry.2.all fun n => !isAsciiDigit (Char.ofNat n)) = true := by decide +kernel
  obtain ⟨codes, listed, rfl⟩ := Option.map_eq_some_iff.mp found
  obtain ⟨before, after, split, -⟩ := List.lookup_eq_some_iff.mp listed
  have entry := List.all_eq_true.mp others (String.ofList name, codes) (by rw [split]; simp)
  rw [List.countP_eq_zero]
  intro c member
  obtain ⟨n, inside, rfl⟩ := List.mem_map.mp member
  simpa using List.all_eq_true.mp entry n inside

theorem longest_name_digits (name text : List Char) (count : Nat) (found : longestName name count = some text) :
    text.countP isAsciiDigit ≤ name.countP isAsciiDigit := by
  induction count with
  | zero => cases found
  | succ count ih =>
    cases count with
    | zero => cases found
    | succ count =>
      rw [longestName] at found
      split at found
      · rename_i own known
        cases found
        rw [List.countP_append, name_text_plain _ own known, Nat.zero_add]
        exact (List.drop_sublist _ name).countP_le
      · exact ih found

theorem name_digits (name : List Char) : (ofName name).countP isAsciiDigit ≤ name.countP isAsciiDigit := by
  unfold ofName
  cases known : ofName? name with
  | some text => exact Nat.le_trans (Nat.le_of_eq (name_text_plain name text known)) (Nat.zero_le _)
  | none =>
    cases longest : longestName name (name.length - 1) with
    | some text => exact longest_name_digits name text _ longest
    | none => exact Nat.le_of_eq (List.countP_cons_of_neg (by decide))

theorem taken_part (P : Char → Bool) (rest : List Char) (more : Nat) :
    (rest.takeWhile P).Sublist (rest.take ((rest.takeWhile P).length + more)) := by
  obtain ⟨after, split⟩ := List.takeWhile_prefix P (l := rest)
  generalize rest.takeWhile P = front at split
  subst split
  rw [List.take_length_add_append]
  exact List.sublist_append_left _ _

theorem decimal_digits (rest : List Char) (some_ : rest.takeWhile isAsciiDigit ≠ []) (n mark : Nat) :
    (ofNumber n).countP isAsciiDigit ≤ (rest.take ((rest.takeWhile isAsciiDigit).length + mark)).countP isAsciiDigit := by
  have part := (taken_part isAsciiDigit rest mark).countP_le (p := isAsciiDigit)
  have all : (rest.takeWhile isAsciiDigit).countP isAsciiDigit = (rest.takeWhile isAsciiDigit).length :=
    List.countP_eq_length.mpr fun c member => List.mem_takeWhile_imp member
  have filled := List.length_pos_iff.mpr some_
  have short : (ofNumber n).countP isAsciiDigit ≤ 1 := Nat.le_trans List.countP_le_length (number_short n)
  omega

theorem hex_digits (rest : List Char) (some_ : rest.takeWhile isHexDigit ≠ []) (mark : Nat) :
    (ofNumber ((rest.takeWhile isHexDigit).foldl (fun n c => n * 16 + (hexDigit? c).getD 0) 0)).countP isAsciiDigit ≤
      (rest.take ((rest.takeWhile isHexDigit).length + mark)).countP isAsciiDigit := by
  refine Nat.le_trans ?_ (taken_part isHexDigit rest mark).countP_le
  by_cases digits : (rest.takeWhile isHexDigit).countP isAsciiDigit = 0
  · rw [digits, Nat.le_zero, List.countP_eq_zero]
    rw [List.countP_eq_zero] at digits
    have high := hex_value_high _ some_ (fun d member => List.mem_takeWhile_imp (p := isHexDigit) member)
      fun d member => by simpa using digits d member
    intro c member digit
    have low := number_digit _ c member digit
    omega
  · have short : (ofNumber ((rest.takeWhile isHexDigit).foldl (fun n c => n * 16 + (hexDigit? c).getD 0) 0)).countP
        isAsciiDigit ≤ 1 := Nat.le_trans List.countP_le_length (number_short _)
    omega

theorem reference_digits (cs text : List Char) (taken : Nat) (found : reference? cs = .ok (some (text, taken))) :
    text.countP isAsciiDigit ≤ (cs.take taken).countP isAsciiDigit := by
  unfold reference? at found
  split at found
  · rename_i rest
    dsimp only at found
    split at found
    · rename_i some_
      unfold readDigits at found
      split at found
      · cases found
      · cases found
        rw [Nat.add_assoc, Nat.add_comm 1, List.take_succ_cons, List.countP_cons_of_neg (by decide)]
        exact decimal_digits rest (by simpa using some_) _ _
    · split at found
      · rename_i x rest _
        split at found
        · rename_i hex
          cases found
          simp only [Bool.and_eq_true, Bool.not_eq_true'] at hex
          rw [Nat.add_assoc, Nat.add_comm 2, List.take_succ_cons, List.take_succ_cons]
          have behind := (List.sublist_cons_self x _).trans (List.sublist_cons_self '#' (x :: rest.take
            ((rest.takeWhile isHexDigit).length + semicolon (rest.drop (rest.takeWhile isHexDigit).length))))
          exact Nat.le_trans (hex_digits rest (List.isEmpty_eq_false_iff.mp hex.2) _) behind.countP_le
        · cases found
      · cases found
  · dsimp only at found
    split at found
    · cases found
    · cases found
      exact name_digits _

theorem Resolves.digits {cs ds : List Char} (resolves : Resolves cs ds) : ds.countP isAsciiDigit ≤ cs.countP isAsciiDigit := by
  induction resolves with
  | nil => exact Nat.le_refl _
  | keep c _ _ ih =>
    rw [List.countP_cons, List.countP_cons]
    omega
  | @refer text taken cs ds found _ ih =>
    have own := reference_digits cs text taken found
    have split : cs.countP isAsciiDigit = (cs.take taken).countP isAsciiDigit + (cs.drop taken).countP isAsciiDigit := by
      rw [← List.countP_append, List.take_append_drop]
    rw [List.countP_append, List.countP_cons_of_neg (by decide)]
    omega

theorem Resolves.mark {cs ds : List Char} (resolves : Resolves cs ds) (member : '&' ∈ ds) : '&' ∈ cs := by
  cases resolves with
  | nil => exact member
  | refer => exact List.mem_cons_self
  | keep c plain rest =>
    rcases List.mem_cons.mp member with rfl | later
    · exact List.mem_cons_self
    · exact List.mem_cons_of_mem _ (rest.mark later)

theorem reference_total (cs : List Char) (few : cs.countP isAsciiDigit ≤ maxIntegerDigits) : ∃ found, reference? cs = .ok found := by
  unfold reference?
  split
  · rename_i rest
    dsimp only
    split
    · have part : (rest.takeWhile isAsciiDigit).length ≤ maxIntegerDigits := by
        have all : (rest.takeWhile isAsciiDigit).countP isAsciiDigit = (rest.takeWhile isAsciiDigit).length :=
          List.countP_eq_length.mpr fun c member => List.mem_takeWhile_imp member
        have inside := ((List.takeWhile_sublist isAsciiDigit).trans (List.sublist_cons_self '#' rest)).countP_le (p := isAsciiDigit)
        omega
      rw [readDigits, if_neg (by omega)]
      exact ⟨_, rfl⟩
    · split
      · split <;> exact ⟨_, rfl⟩
      · exact ⟨_, rfl⟩
  · dsimp only
    split <;> exact ⟨_, rfl⟩

end Entity

/-- Whether no reference in a text or in a part of it has too many digits, not even with so many more of them. -/
def Brief (more : Nat) (cs : List Char) : Prop := '&' ∈ cs → cs.countP isAsciiDigit + more ≤ maxIntegerDigits

instance (more : Nat) (cs : List Char) : Decidable (Brief more cs) := inferInstanceAs (Decidable (_ → _))

theorem Brief.sublist {more : Nat} {cs ds : List Char} (brief : Brief more ds) (part : cs.Sublist ds) : Brief more cs :=
  fun mark => Nat.le_trans (Nat.add_le_add_right part.countP_le more) (brief (part.subset mark))

theorem Brief.append {more k : Nat} {cs ds : List Char} (brief : Brief (more + k) cs) (plain : '&' ∉ ds)
    (few : ds.countP isAsciiDigit ≤ k) : Brief more (cs ++ ds) := by
  intro mark
  have own := brief ((List.mem_append.mp mark).resolve_right plain)
  rw [List.countP_append]
  omega

theorem Brief.mono {more less : Nat} {cs : List Char} (brief : Brief more cs) (fewer : less ≤ more) : Brief less cs :=
  fun mark => Nat.le_trans (Nat.add_le_add_left fewer _) (brief mark)

theorem Brief.perm {more : Nat} {cs ds : List Char} (brief : Brief more cs) (same : cs.Perm ds) : Brief more ds := by
  intro mark
  rw [← same.countP_eq]
  exact brief (same.mem_iff.mpr mark)

structure Milder (cs ds : List Char) : Prop where
  digits : cs.countP isAsciiDigit ≤ ds.countP isAsciiDigit
  mark : '&' ∈ cs → '&' ∈ ds

theorem Brief.milder {more : Nat} {cs ds : List Char} (brief : Brief more ds) (milder : Milder cs ds) : Brief more cs :=
  fun mark => Nat.le_trans (Nat.add_le_add_right milder.digits more) (brief (milder.mark mark))

theorem Milder.refl (cs : List Char) : Milder cs cs := ⟨Nat.le_refl _, id⟩

theorem Milder.trans {as bs cs : List Char} (first : Milder as bs) (second : Milder bs cs) : Milder as cs :=
  ⟨Nat.le_trans first.digits second.digits, fun mark => second.mark (first.mark mark)⟩

theorem Milder.append {as bs cs ds : List Char} (front : Milder as cs) (back : Milder bs ds) : Milder (as ++ bs) (cs ++ ds) where
  digits := by
    rw [List.countP_append, List.countP_append]
    exact Nat.add_le_add front.digits back.digits
  mark mark := by
    rw [List.mem_append] at mark ⊢
    exact mark.imp front.mark back.mark

theorem milder_part {cs ds : List Char} (part : cs.Sublist ds) : Milder cs ds := ⟨part.countP_le, fun mark => part.subset mark⟩

theorem Entity.Resolves.milder {cs ds : List Char} (resolves : Entity.Resolves cs ds) : Milder ds cs :=
  ⟨resolves.digits, resolves.mark⟩

theorem brief_plain {cs : List Char} (plain : '&' ∉ cs) (more : Nat) : Brief more cs := fun mark => absurd mark plain

theorem unescape_total (cs : List Char) (brief : Brief 0 cs) : ∃ ds, Entity.unescape cs = .ok ds := by
  by_cases mark : '&' ∈ cs
  · have few := brief mark
    clear brief mark
    induction length : cs.length using Nat.strongRecOn generalizing cs with
    | ind n ih =>
      subst length
      cases cs with
      | nil => exact ⟨[], rfl⟩
      | cons c rest =>
        have part : rest.countP isAsciiDigit ≤ maxIntegerDigits :=
          Nat.le_trans (List.sublist_cons_self c rest).countP_le few
        have kept (plain : c = '&' → Entity.reference? rest = .ok none) : ∃ ds, Entity.unescape (c :: rest) = .ok ds := by
          rw [Entity.unescape_kept c rest plain]
          exact map_total _ _ (ih rest.length (Nat.lt_succ_self _) rest part rfl)
        by_cases own : c = '&'
        · subst own
          obtain ⟨found, read⟩ := Entity.reference_total rest part
          cases found with
          | none => exact kept fun _ => read
          | some reference =>
            rw [Entity.unescape_reference rest reference.1 reference.2 read]
            exact map_total _ _ (ih _ (by rw [List.length_drop, List.length_cons]; omega) _
              (Nat.le_trans (List.drop_sublist _ rest).countP_le part) rfl)
        · exact kept fun same => absurd same own
  · exact ⟨cs, Entity.unescape_plain cs mark⟩

/-- A reference with one digit too many. -/
def endless : List Char := "&#".toList ++ List.replicate (maxIntegerDigits + 1) '1'

theorem endless_fails : ∃ e, normalizeMarkup (String.ofList endless) = .error e := by
  have failed : (Entity.unescape (dropTagsFrom 0 endless)).toOption.isNone = true := by decide +kernel
  rw [normalizeMarkup, String.toList_ofList]
  cases outcome : Entity.unescape (dropTagsFrom 0 endless) with
  | ok text => simp [outcome, Except.toOption] at failed
  | error e => exact ⟨e, rfl⟩

end DamagePlan.Text
