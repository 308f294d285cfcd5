import Mathlib.Data.List.Chain
import Mathlib.Data.List.DropRight
import DamagePlan.Proofs.Text.Reference

/-!
Trimmed text and normal text: normal text is the same when it is normalized again exactly if no tag and no reference to
another text is left in it.
-/
set_option autoImplicit false

namespace DamagePlan.Text

open Decimal (IntegerTooLong)

theorem trim_while_trimmed (drop : Char → Bool) (cs : List Char) :
    trimWhile drop (trimWhile drop cs) = trimWhile drop cs := by
  have front : ∀ filled : 0 < (cs.dropWhile drop).length, ¬drop (cs.dropWhile drop)[0] = true :=
    List.dropWhile_eq_self_iff.mp (List.dropWhile_idempotent drop cs)
  have part : (cs.dropWhile drop).rdropWhile drop <+: cs.dropWhile drop := List.rdropWhile_prefix _ _
  have kept : ((cs.dropWhile drop).rdropWhile drop).dropWhile drop = (cs.dropWhile drop).rdropWhile drop := by
    refine List.dropWhile_eq_self_iff.mpr fun filled => ?_
    rw [part.getElem]
    exact front (Nat.lt_of_lt_of_le filled part.length_le)
  change (((cs.dropWhile drop).rdropWhile drop).dropWhile drop).rdropWhile drop = (cs.dropWhile drop).rdropWhile drop
  rw [kept, List.rdropWhile_idempotent]

theorem trim_trimmed (s : String) : trim (trim s) = trim s := by
  rw [trim, trim, String.toList_ofList, trimList, trimList, trim_while_trimmed]

theorem trim_filled (s : String) (filled : isBlankText s = false) : trim s ≠ "" := by
  intro empty
  have none : (s.toList.dropWhile isBlank).rdropWhile isBlank = [] := by
    rw [trim, ← String.toList_inj, String.toList_ofList] at empty
    exact empty
  -- what is left after the blanks in front does not begin with a blank, so nothing is left
  have rest : s.toList.dropWhile isBlank = [] := by
    cases left : s.toList.dropWhile isBlank with
    | nil => rfl
    | cons c cs =>
      have blank := List.rdropWhile_eq_nil_iff.mp none c (by simp [left])
      have first := List.head?_dropWhile_not isBlank s.toList
      simp [left, blank] at first
  rw [isBlankText, List.all_eq_false] at filled
  obtain ⟨c, member, other⟩ := filled
  exact other (List.dropWhile_eq_nil_iff.mp rest c member)

def TagAhead (cs : List Char) : Prop := ∃ inside after, cs = inside ++ '>' :: after ∧ inside ≠ [] ∧ '>' ∉ inside

def HasTag (cs : List Char) : Prop := ∃ before rest, cs = before ++ '<' :: rest ∧ TagAhead rest

inductive Untagged : List Char → List Char → Prop
  | nil : Untagged [] []
  | drop (inside : List Char) (some_ : inside ≠ []) (inner : '>' ∉ inside) {after ds : List Char} (rest : Untagged after ds) :
      Untagged ('<' :: (inside ++ '>' :: after)) ds
  | keep (c : Char) {cs ds : List Char} (plain : c = '<' → ¬TagAhead cs) (rest : Untagged cs ds) : Untagged (c :: cs) (c :: ds)

theorem drop_tags_skips (skip : Nat) (cs : List Char) : dropTagsFrom skip cs = dropTagsFrom 0 (cs.drop skip) := by
  induction skip generalizing cs with
  | zero => rfl
  | succ skip ih =>
    cases cs with
    | nil => rfl
    | cons c cs => exact ih cs

theorem taken_inside (inside after : List Char) (inner : '>' ∉ inside) :
    (inside ++ '>' :: after).takeWhile (· != '>') = inside := by
  have all : ∀ c ∈ inside, (c != '>') = true := by
    intro c member
    rw [bne_iff_ne]
    rintro rfl
    exact inner member
  rw [List.takeWhile_append_of_pos all]
  simp

theorem tag_ahead_iff (cs : List Char) : TagAhead cs ↔
    (!(cs.takeWhile (· != '>')).isEmpty && decide ((cs.takeWhile (· != '>')).length < cs.length)) = true := by
  constructor
  · rintro ⟨inside, after, rfl, some_, inner⟩
    rw [taken_inside inside after inner]
    simp [some_]
  · intro found
    simp only [Bool.and_eq_true, Bool.not_eq_true', decide_eq_true_eq] at found
    obtain ⟨some_, short⟩ := found
    have member : '>' ∈ cs := by
      by_contra none_
      have all : ∀ c ∈ cs, (c != '>') = true := fun c member => bne_iff_ne.mpr fun own => none_ (own ▸ member)
      rw [List.takeWhile_eq_self_iff.mpr all] at short
      exact absurd short (Nat.lt_irrefl _)
    obtain ⟨inside, after, rfl, inner⟩ := List.eq_append_cons_of_mem member
    rw [taken_inside inside after inner] at some_
    exact ⟨inside, after, rfl, by simpa using some_, inner⟩

theorem drop_tags_untagged (cs : List Char) : Untagged cs (dropTagsFrom 0 cs) := by
  induction length : cs.length using Nat.strongRecOn generalizing cs with
  | ind n ih =>
    subst length
    cases cs with
    | nil => exact .nil
    | cons c rest =>
      by_cases tag : c = '<' ∧ TagAhead rest
      · obtain ⟨rfl, ahead⟩ := tag
        have found := (tag_ahead_iff rest).mp ahead
        obtain ⟨inside, after, rfl, some_, inner⟩ := ahead
        rw [dropTagsFrom, if_pos (by simpa using found), taken_inside inside after inner, drop_tags_skips]
        have behind : (inside ++ '>' :: after).drop (inside.length + 1) = after := by simp
        rw [behind]
        exact .drop inside some_ inner (ih after.length (by simp; omega) after rfl)
      · have kept : dropTagsFrom 0 (c :: rest) = c :: dropTagsFrom 0 rest := by
          rw [dropTagsFrom, if_neg]
          intro found
          rw [Bool.and_assoc, Bool.and_eq_true] at found
          exact tag ⟨eq_of_beq found.1, (tag_ahead_iff rest).mpr found.2⟩
        rw [kept]
        exact .keep c (fun own ahead => tag ⟨own, ahead⟩) (ih rest.length (Nat.lt_succ_self _) rest rfl)

theorem untagged_short {cs ds : List Char} (untagged : Untagged cs ds) :
    ds.length < cs.length ∧ HasTag cs ∨ ds = cs ∧ ¬HasTag cs := by
  induction untagged with
  | nil => exact .inr ⟨rfl, by rintro ⟨before, rest, split, -⟩; simp at split⟩
  | @drop inside some_ inner after ds rest ih =>
    have most : ds.length ≤ after.length := ih.elim (fun shorter => Nat.le_of_lt shorter.1) fun same => Nat.le_of_eq (by rw [same.1])
    refine .inl ⟨?_, [], _, rfl, inside, after, rfl, some_, inner⟩
    rw [List.length_cons, List.length_append, List.length_cons]
    omega
  | @keep c cs ds plain _ ih =>
    rcases ih with ⟨shorter, before, rest, rfl, ahead⟩ | ⟨rfl, none_⟩
    · exact .inl ⟨Nat.succ_lt_succ shorter, c :: before, rest, rfl, ahead⟩
    · refine .inr ⟨rfl, ?_⟩
      rintro ⟨before, rest, split, ahead⟩
      cases before with
      | nil =>
        obtain ⟨rfl, rfl⟩ := List.cons.inj split
        exact plain rfl ahead
      | cons d before => exact none_ ⟨before, rest, (List.cons.inj split).2, ahead⟩

theorem drop_tags_same_iff (cs : List Char) : dropTagsFrom 0 cs = cs ↔ ¬HasTag cs := by
  rcases untagged_short (drop_tags_untagged cs) with ⟨shorter, tag⟩ | ⟨same, none_⟩
  · exact ⟨fun same => absurd (by rw [same] at shorter; exact shorter) (Nat.lt_irrefl _), fun none_ => absurd tag none_⟩
  · exact ⟨fun _ => none_, fun _ => same⟩

theorem untagged_part {cs ds : List Char} (untagged : Untagged cs ds) : ds.Sublist cs := by
  induction untagged with
  | nil => exact .slnil
  | drop inside _ _ _ ih => exact ((ih.cons _).trans (List.sublist_append_right inside _)).cons _
  | keep c _ _ ih => exact ih.cons_cons c

theorem untagged_member {cs ds : List Char} (untagged : Untagged cs ds) (c : Char) (member : c ∈ ds) : c ∈ cs :=
  (untagged_part untagged).subset member

inductive TagState where
  | outside | opened | inside | closed

namespace TagState

def next : TagState → Char → TagState
  | .outside, c => if c = '<' then .opened else .outside
  | .opened, c => if c = '>' then .outside else .inside
  | .inside, c => if c = '>' then .closed else .inside
  | .closed, _ => .closed

def after (state : TagState) (cs : List Char) : TagState := cs.foldl next state

theorem closed_after (cs : List Char) : after .closed cs = .closed := by
  induction cs with
  | nil => rfl
  | cons c cs ih => exact ih

theorem inside_after (cs : List Char) (none_ : '>' ∉ cs) : after .inside cs = .inside := by
  induction cs with
  | nil => rfl
  | cons c cs ih =>
    have other : c ≠ '>' := fun own => none_ (own ▸ List.mem_cons_self)
    rw [after, List.foldl_cons, next, if_neg other]
    exact ih fun member => none_ (List.mem_cons_of_mem c member)

theorem after_append (state : TagState) (cs ds : List Char) : after state (cs ++ ds) = after (after state cs) ds :=
  List.foldl_append

theorem tag_closes (cs : List Char) (tag : HasTag cs) : after .outside cs = .closed := by
  obtain ⟨before, rest, rfl, inside, behind, rfl, some_, inner⟩ := tag
  obtain ⟨d, inside, rfl⟩ := List.exists_cons_of_ne_nil some_
  have other : d ≠ '>' := fun own => inner (own ▸ List.mem_cons_self)
  have inner' : '>' ∉ inside := fun member => inner (List.mem_cons_of_mem d member)
  have entered (state : TagState) : next (next state '<') d = .inside ∨ next (next state '<') d = .closed := by
    cases state <;> simp [next, other]
  rw [after_append]
  change after (next (next (after .outside before) '<') d) (inside ++ '>' :: behind) = .closed
  rw [after_append]
  rcases entered (after .outside before) with state | state
  · rw [state, inside_after inside inner']
    exact closed_after behind
  · rw [state, closed_after, closed_after]

theorem untagged_open {cs ds : List Char} (untagged : Untagged cs ds) : after .outside ds ≠ .closed := by
  induction untagged with
  | nil => nofun
  | drop inside some_ inner rest ih => exact ih
  | @keep c cs ds plain rest ih =>
    by_cases own : c = '<'
    · subst own
      by_cases member : '>' ∈ cs
      · obtain ⟨inside, behind, rfl, inner⟩ := List.eq_append_cons_of_mem member
        obtain rfl : inside = [] := by
          by_contra some_
          exact plain rfl ⟨inside, behind, rfl, some_, inner⟩
        cases rest with
        | keep _ _ rest => exact ih
      · have none_ : '>' ∉ ds := fun inDs => member (untagged_member rest '>' inDs)
        cases ds with
        | nil => nofun
        | cons d ds =>
          have other : d ≠ '>' := fun own => none_ (own ▸ List.mem_cons_self)
          have state : after .outside ('<' :: d :: ds) = after .inside ds := by
            change after (next .opened d) ds = _
            rw [next, if_neg other]
          rw [state, inside_after ds fun inDs => none_ (List.mem_cons_of_mem d inDs)]
          nofun
    · have state : after .outside (c :: ds) = after .outside ds := by
        change after (next .outside c) ds = _
        rw [next, if_neg own]
      rw [state]
      exact ih

theorem break_marks_state (cs : List Char) : ∀ state, after state (breakMarks cs) = after state cs := by
  induction cs using breakMarks.induct with
  | case1 rest ih =>
    intro state
    have merged : next state ' ' = next (next state '\\') 'n' := by cases state <;> rfl
    rw [breakMarks]
    change after (next state ' ') (breakMarks rest) = after (next (next state '\\') 'n') rest
    rw [ih, merged]
  | case2 c rest other ih =>
    intro state
    rw [breakMarks]
    · exact ih (next state c)
    · exact other
  | case3 => exact fun _ => rfl

theorem blank_next (c : Char) (blank : isBlank c = true) (state : TagState) : next state c = next state ' ' := by
  have apart (d : Char) (no : isBlank d = false) : c ≠ d := by rintro rfl; rw [no] at blank; cases blank
  cases state <;> simp [next, apart '<' rfl, apart '>' rfl]

theorem collapse_state (cs : List Char) : ∀ state, after state (collapseBlanks cs) = after state cs := by
  induction cs with
  | nil => exact fun _ => rfl
  | cons c cs ih =>
    intro state
    rw [collapseBlanks]
    split
    · rename_i blank
      have first : after state (c :: cs) = after (next state ' ') (collapseBlanks cs) := by
        rw [ih, ← blank_next c blank]
        rfl
      dsimp only
      split
      · rename_i led
        obtain ⟨more, split⟩ : ∃ more, collapseBlanks cs = ' ' :: more := by
          cases tail : collapseBlanks cs with
          | nil => rw [tail] at led; cases led
          | cons d more => rw [tail] at led; cases led; exact ⟨more, rfl⟩
        have merged : next (next state ' ') ' ' = next state ' ' := by cases state <;> rfl
        rw [first, split]
        change after (next state ' ') more = after (next (next state ' ') ' ') more
        rw [merged]
      · rw [first]
        rfl
    · exact ih (next state c)

end TagState

theorem trim_parts (cs : List Char) : ∃ front back, cs = front ++ (trimList cs ++ back) ∧ ∀ c ∈ front, isBlank c = true := by
  obtain ⟨back, split⟩ := List.rdropWhile_prefix isBlank (l := cs.dropWhile isBlank)
  refine ⟨cs.takeWhile isBlank, back, ?_, fun c member => List.mem_takeWhile_imp member⟩
  rw [show trimList cs ++ back = cs.dropWhile isBlank from split, List.takeWhile_append_dropWhile]

theorem trim_untagged (cs : List Char) (open_ : TagState.after .outside cs ≠ .closed) :
    TagState.after .outside (trimList cs) ≠ .closed := by
  intro closed
  obtain ⟨front, back, split, blanks⟩ := trim_parts cs
  have outside : TagState.after .outside front = .outside := by
    clear split
    induction front with
    | nil => rfl
    | cons c front ih =>
      have first : TagState.next .outside c = .outside := TagState.blank_next c (blanks c List.mem_cons_self) .outside
      change TagState.after (TagState.next .outside c) front = .outside
      rw [first, ih fun d member => blanks d (List.mem_cons_of_mem c member)]
  apply open_
  rw [split, TagState.after_append, TagState.after_append, outside, closed, TagState.closed_after]

/-- What may stand side by side in normal text: not two blanks, and not a backslash and an n. -/
def MayAdjoin (a b : Char) : Prop := ¬(isBlank a = true ∧ isBlank b = true) ∧ ¬(a = '\\' ∧ b = 'n')

structure Settled (cs : List Char) : Prop where
  chain : cs.IsChain MayAdjoin
  spaces : ∀ c ∈ cs, isBlank c = true → c = ' '

theorem break_marks_head (cs : List Char) (head : (breakMarks cs).head? = some 'n') : cs.head? = some 'n' := by
  unfold breakMarks at head
  split at head
  · cases head
  · exact head
  · exact head

theorem break_marks_chain (cs : List Char) : (breakMarks cs).IsChain fun a b => ¬(a = '\\' ∧ b = 'n') := by
  induction cs using breakMarks.induct with
  | case1 rest ih =>
    rw [breakMarks]
    exact ih.cons fun b _ marks => absurd marks.1 (by decide)
  | case2 c rest other ih =>
    rw [breakMarks]
    · refine ih.cons ?_
      rintro b head ⟨rfl, rfl⟩
      have first := break_marks_head rest head
      cases rest with
      | nil => cases first
      | cons d rest =>
        cases first
        exact other rest rfl rfl
    · exact other
  | case3 => exact .nil

theorem collapse_head (cs : List Char) (c : Char) (head : (collapseBlanks cs).head? = some c) (other : c ≠ ' ') :
    cs.head? = some c := by
  cases cs with
  | nil => exact head
  | cons d cs =>
    rw [collapseBlanks] at head
    split at head
    · dsimp only at head
      split at head
      · rename_i led
        rw [led] at head
        exact absurd (Option.some.inj head).symm other
      · exact absurd (Option.some.inj head).symm other
    · exact head

theorem collapse_settled (cs : List Char) (chain : cs.IsChain fun a b => ¬(a = '\\' ∧ b = 'n')) : Settled (collapseBlanks cs) := by
  induction cs with
  | nil => exact ⟨.nil, List.forall_mem_nil _⟩
  | cons c cs ih =>
    obtain ⟨first, others⟩ := List.isChain_cons.mp chain
    have settled := ih others
    rw [collapseBlanks]
    split
    · dsimp only
      split
      · exact settled
      · rename_i unled
        refine ⟨settled.chain.cons ?_, List.forall_mem_cons.mpr ⟨fun _ => rfl, settled.spaces⟩⟩
        refine fun b head => ⟨fun blanks => unled ?_, fun marks => absurd marks.1 (by decide)⟩
        rw [← settled.spaces b (List.mem_of_mem_head? head) blanks.2]
        exact head
    · rename_i solid
      refine ⟨settled.chain.cons fun b head => ⟨fun blanks => solid blanks.1, ?_⟩,
        List.forall_mem_cons.mpr ⟨fun blank => absurd blank solid, settled.spaces⟩⟩
      rintro ⟨rfl, rfl⟩
      exact first 'n' (collapse_head cs 'n' head (by decide)) ⟨rfl, rfl⟩

theorem settled_kept (cs : List Char) (settled : Settled cs) : breakMarks cs = cs ∧ collapseBlanks cs = cs := by
  induction cs with
  | nil => exact ⟨rfl, rfl⟩
  | cons c cs ih =>
    obtain ⟨first, others⟩ := List.isChain_cons.mp settled.chain
    obtain ⟨unmarked, collapsed⟩ := ih ⟨others, fun d member => settled.spaces d (List.mem_cons_of_mem c member)⟩
    constructor
    · rw [breakMarks, unmarked]
      rintro rest rfl rfl
      exact (first 'n' rfl).2 ⟨rfl, rfl⟩
    · rw [collapseBlanks]
      split
      · rename_i blank
        have unled : (collapseBlanks cs).head? ≠ some ' ' := by
          rw [collapsed]
          exact fun head => (first ' ' head).1 ⟨blank, rfl⟩
        dsimp only
        rw [if_neg unled, collapsed, settled.spaces c List.mem_cons_self blank]
      · rw [collapsed]

theorem break_marks_length (cs : List Char) : (breakMarks cs).length ≤ cs.length := by
  induction cs using breakMarks.induct with
  | case1 rest ih =>
    rw [breakMarks]
    simp only [List.length_cons]
    omega
  | case2 c rest other ih =>
    rw [breakMarks]
    · exact Nat.succ_le_succ ih
    · exact other
  | case3 => exact Nat.le_refl 0

theorem collapse_length (cs : List Char) : (collapseBlanks cs).length ≤ cs.length := by
  induction cs with
  | nil => exact Nat.le_refl 0
  | cons c cs ih =>
    rw [collapseBlanks]
    split
    · dsimp only
      split
      · exact Nat.le_succ_of_le ih
      · exact Nat.succ_le_succ ih
    · exact Nat.succ_le_succ ih

theorem trim_length (cs : List Char) : (trimList cs).length ≤ cs.length := by
  obtain ⟨front, back, split, -⟩ := trim_parts cs
  have length := congrArg List.length split
  rw [List.length_append, List.length_append] at length
  omega

def settle (cs : List Char) : List Char := trimList (collapseBlanks (breakMarks cs))

theorem settle_settled (cs : List Char) : Settled (settle cs) ∧ trimList (settle cs) = settle cs := by
  have settled := collapse_settled _ (break_marks_chain cs)
  obtain ⟨front, back, split, -⟩ := trim_parts (collapseBlanks (breakMarks cs))
  have inside : settle cs <:+: collapseBlanks (breakMarks cs) := ⟨front, back, by rw [List.append_assoc]; exact split.symm⟩
  have chain := List.IsChain.infix settled.chain inside
  exact ⟨⟨chain, fun c member => settled.spaces c (inside.subset member)⟩, trim_while_trimmed isBlank _⟩

theorem settle_length (cs : List Char) : (settle cs).length ≤ cs.length :=
  Nat.le_trans (trim_length _) (Nat.le_trans (collapse_length _) (break_marks_length cs))

def normal (cs : List Char) : Except IntegerTooLong (List Char) := (Entity.unescape (dropTagsFrom 0 cs)).map settle

theorem normal_iff (cs : List Char) (settled : Settled cs) (trimmed : trimList cs = cs) :
    normal cs = .ok cs ↔ ¬HasTag cs ∧ Entity.unescape cs = .ok cs := by
  rw [← drop_tags_same_iff]
  constructor
  · intro same
    -- no step makes the text longer, so none makes it shorter
    obtain ⟨resolved, made, settles⟩ := map_ok _ _ _ same
    have length := congrArg List.length settles
    have unlonger := settle_length resolved
    have unescaped := (Entity.unescape_resolves _ _ made).short
    rcases untagged_short (drop_tags_untagged cs) with ⟨shorter, -⟩ | ⟨untagged, -⟩
    · have most : resolved.length ≤ (dropTagsFrom 0 cs).length :=
        unescaped.elim Nat.le_of_lt fun same => Nat.le_of_eq (by rw [same])
      omega
    · rw [untagged] at made unescaped
      rw [unescaped.resolve_left (by omega)] at made
      exact ⟨untagged, made⟩
  · rintro ⟨untagged, resolved⟩
    obtain ⟨unmarked, collapsed⟩ := settled_kept cs settled
    rw [normal, untagged, resolved, Except.map, settle, unmarked, collapsed, trimmed]

theorem break_marks_member (cs : List Char) (c : Char) (member : c ∈ breakMarks cs) : c = ' ' ∨ c ∈ cs := by
  induction cs using breakMarks.induct with
  | case1 rest ih =>
    rw [breakMarks] at member
    rcases List.mem_cons.mp member with blank | later
    · exact .inl blank
    · exact (ih later).imp_right fun inside => List.mem_cons_of_mem _ (List.mem_cons_of_mem _ inside)
  | case2 d rest other ih =>
    rw [breakMarks] at member
    · rcases List.mem_cons.mp member with rfl | later
      · exact .inr List.mem_cons_self
      · exact (ih later).imp_right (List.mem_cons_of_mem d)
    · exact other
  | case3 => exact .inr member

theorem collapse_member (cs : List Char) (c : Char) (member : c ∈ collapseBlanks cs) : c = ' ' ∨ c ∈ cs := by
  induction cs with
  | nil => exact .inr member
  | cons d cs ih =>
    rw [collapseBlanks] at member
    split at member
    · dsimp only at member
      split at member
      · exact (ih member).imp_right (List.mem_cons_of_mem d)
      · rcases List.mem_cons.mp member with blank | later
        · exact .inl blank
        · exact (ih later).imp_right (List.mem_cons_of_mem d)
    · rcases List.mem_cons.mp member with rfl | later
      · exact .inr List.mem_cons_self
      · exact (ih later).imp_right (List.mem_cons_of_mem d)

theorem settle_member (cs : List Char) (c : Char) (member : c ∈ settle cs) : c = ' ' ∨ c ∈ cs := by
  obtain ⟨front, back, split, -⟩ := trim_parts (collapseBlanks (breakMarks cs))
  have collapsed : c ∈ collapseBlanks (breakMarks cs) := by
    rw [split]
    exact List.mem_append_right front (List.mem_append_left back member)
  rcases collapse_member _ c collapsed with blank | broken
  · exact .inl blank
  · exact break_marks_member _ c broken

theorem settle_untagged (cs ds : List Char) (untagged : Untagged cs ds) : ¬HasTag (settle ds) := by
  intro tag
  refine trim_untagged _ ?_ (TagState.tag_closes _ tag)
  rw [TagState.collapse_state, TagState.break_marks_state]
  exact TagState.untagged_open untagged

theorem normalize_normal (s : String) : (normalizeMarkup s).map String.toList = normal s.toList := by
  rw [normalizeMarkup, normal]
  cases Entity.unescape (dropTagsFrom 0 s.toList) with
  | error e => rfl
  | ok cs => exact congrArg Except.ok String.toList_ofList

theorem normalized_iff (s t : String) : normalizeMarkup s = .ok t ↔ normal s.toList = .ok t.toList := by
  rw [← normalize_normal]
  cases normalizeMarkup s with
  | error e => exact ⟨nofun, nofun⟩
  | ok u =>
    constructor
    · intro same
      rw [Except.ok.inj same]
      rfl
    · intro same
      rw [String.toList_inj.mp (Except.ok.inj same)]

theorem normalize_total (s : String) (brief : Brief 0 s.toList) : ∃ t, normalizeMarkup s = .ok t :=
  map_total _ _ (unescape_total _ (brief.sublist (untagged_part (drop_tags_untagged s.toList))))

theorem break_marks_milder (cs : List Char) : Milder (breakMarks cs) cs := by
  refine ⟨?_, fun mark => (break_marks_member cs '&' mark).resolve_left (by decide)⟩
  induction cs using breakMarks.induct with
  | case1 rest ih =>
    rw [breakMarks, List.countP_cons_of_neg (by decide)]
    exact Nat.le_trans ih ((List.sublist_cons_self _ _).trans (List.sublist_cons_self _ _)).countP_le
  | case2 d rest other ih =>
    rw [breakMarks]
    · rw [List.countP_cons, List.countP_cons]
      exact Nat.add_le_add_right ih _
    · exact other
  | case3 => exact Nat.le_refl _

theorem collapse_milder (cs : List Char) : Milder (collapseBlanks cs) cs := by
  refine ⟨?_, fun mark => (collapse_member cs '&' mark).resolve_left (by decide)⟩
  induction cs with
  | nil => exact Nat.le_refl _
  | cons d cs ih =>
    have later := Nat.le_trans ih (List.sublist_cons_self d cs).countP_le
    rw [collapseBlanks]
    split
    · dsimp only
      split
      · exact later
      · rwa [List.countP_cons_of_neg (by decide)]
    · rw [List.countP_cons, List.countP_cons]
      exact Nat.add_le_add_right ih _

theorem trim_part (cs : List Char) : (trimList cs).Sublist cs := by
  obtain ⟨front, back, split, -⟩ := trim_parts cs
  have part : (trimList cs).Sublist (front ++ (trimList cs ++ back)) :=
    (List.sublist_append_left _ _).trans (List.sublist_append_right _ _)
  rwa [← split] at part

theorem normalize_milder (s t : String) (read : normalizeMarkup s = .ok t) : Milder t.toList s.toList := by
  obtain ⟨resolved, unescaped, settles⟩ := map_ok _ _ _ ((normalized_iff s t).mp read)
  rw [← settles]
  have settled : Milder (settle resolved) resolved :=
    (milder_part (trim_part _)).trans ((collapse_milder _).trans (break_marks_milder resolved))
  exact settled.trans ((Entity.unescape_resolves _ _ unescaped).milder.trans
    (milder_part (untagged_part (drop_tags_untagged s.toList))))

/-- Normal text is the same when it is normalized again exactly if it holds no tag and no reference to another text, which is
so wherever there is no ampersand to begin with. Only a text with an ampersand and more digits than a number may have cannot
be read. -/
theorem normalize_again_iff (s : String) :
    match normalizeMarkup s with
    | .ok t => (normalizeMarkup t = .ok t ↔ ¬HasTag t.toList ∧ Entity.unescape t.toList = .ok t.toList) ∧
      (normalizeMarkup t = .ok t → compact t = compact s) ∧ ('&' ∉ s.toList → normalizeMarkup t = .ok t)
    | .error _ => '&' ∈ s.toList ∧ Decimal.maxIntegerDigits < s.toList.countP isAsciiDigit := by
  cases made : normalizeMarkup s with
  | error e =>
    by_contra few
    obtain ⟨t, read⟩ := normalize_total s fun mark => Nat.le_of_not_lt fun more => few ⟨mark, more⟩
    rw [read] at made
    cases made
  | ok t =>
    obtain ⟨resolved, unescapes, settles⟩ := map_ok _ _ _ ((normalized_iff s t).mp made)
    obtain ⟨settled, trimmed⟩ := settle_settled resolved
    rw [settles] at settled trimmed
    have again := (normalized_iff t t).trans (normal_iff t.toList settled trimmed)
    refine ⟨again, fun same => ?_, fun none_ => ?_⟩
    · rw [compact, compact, same, made]
    · have untagged := drop_tags_untagged s.toList
      have plain : '&' ∉ dropTagsFrom 0 s.toList := fun member => none_ (untagged_member untagged '&' member)
      rw [Entity.unescape_plain _ plain] at unescapes
      cases unescapes
      rw [again, ← settles]
      refine ⟨settle_untagged _ _ untagged, Entity.unescape_plain _ fun member => ?_⟩
      exact plain ((settle_member _ '&' member).resolve_left (by decide))

/-- A reference to an ampersand can make a reference of what follows. -/
theorem escaped_reference_resolves :
    (normalizeMarkup "&amp;lt;" >>= normalizeMarkup) ≠ normalizeMarkup "&amp;lt;" ∧
    (normalizeMarkup "&amp;lt;" >>= compact) ≠ compact "&amp;lt;" := by
  have once : normalizeMarkup "&amp;lt;" = .ok "&lt;" := by decide +kernel
  have twice : normalizeMarkup "&lt;" = .ok "<" := by decide +kernel
  rw [compact, once]
  refine ⟨fun same => ?_, fun same => ?_⟩
  · rw [show (Except.ok "&lt;" >>= normalizeMarkup) = normalizeMarkup "&lt;" from rfl, twice] at same
    exact absurd (Except.ok.inj same) (by decide)
  · rw [show (Except.ok "&lt;" >>= compact) = (normalizeMarkup "&lt;").map withoutDecoration from rfl, twice] at same
    exact absurd (Except.ok.inj same) (by decide)

end DamagePlan.Text
