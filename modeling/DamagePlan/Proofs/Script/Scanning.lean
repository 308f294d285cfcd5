import DamagePlan.Proofs.Script.Phrase

/-!
Scanning a text piece by piece: what a piece emits does not depend on where it stands, as long as the text
after it does not run on into it.
-/
set_option autoImplicit false

namespace DamagePlan.Script

open Text
open DamagePlan.Script.Parser (Carries append_carries)

structure Place where
  closers : List Symbol
  lineOpen : Bool
  text : List Char

def Scans (start : Place) (ls : List Lexeme) (stop : Place) : Prop :=
  ∀ fuel pos, start.text.length ≤ fuel → ∃ tokens fuel' pos', Carries tokens ls ∧ stop.text.length ≤ fuel' ∧
    scan fuel start.text pos start.closers start.lineOpen =
      (scan fuel' stop.text pos' stop.closers stop.lineOpen).map (tokens ++ ·)

namespace Scans

variable {start middle stop : Place} {ls ms : List Lexeme} {closers closers' : List Symbol} {lineOpen : Bool}

theorem refl (place : Place) : Scans place [] place := by
  intro fuel pos enough
  refine ⟨[], fuel, pos, rfl, enough, ?_⟩
  cases scan fuel place.text pos place.closers place.lineOpen <;> rfl

theorem trans (first : Scans start ls middle) (second : Scans middle ms stop) : Scans start (ls ++ ms) stop := by
  intro fuel pos enough
  obtain ⟨front, fuel', pos', carried, enough', scanned⟩ := first fuel pos enough
  obtain ⟨back, fuel'', pos'', carried', enough'', scanned'⟩ := second fuel' pos' enough'
  refine ⟨front ++ back, fuel'', pos'', append_carries _ _ _ _ carried carried', enough'', ?_⟩
  rw [scanned, scanned']
  cases scan fuel'' stop.text pos'' stop.closers stop.lineOpen <;> simp [Except.map]

theorem silent (c : Char) (cs rest : List Char) (shorter : rest.length ≤ cs.length)
    (step : ∀ fuel pos, ∃ pos', scan (fuel + 1) (c :: cs) pos closers lineOpen = scan fuel rest pos' closers lineOpen) :
    Scans ⟨closers, lineOpen, c :: cs⟩ [] ⟨closers, lineOpen, rest⟩ := by
  intro fuel pos enough
  obtain ⟨fuel, rfl⟩ : ∃ i, fuel = i + 1 := ⟨fuel - 1, by simp at enough; omega⟩
  obtain ⟨pos', scanned⟩ := step fuel pos
  refine ⟨[], fuel, pos', rfl, by simp at enough ⊢; omega, ?_⟩
  simp only [scanned]
  cases scan fuel rest pos' closers lineOpen <;> rfl

theorem blank (c : Char) (cs : List Char) (isBlank : isLayoutBlank c = true) :
    Scans ⟨closers, lineOpen, c :: cs⟩ [] ⟨closers, lineOpen, cs⟩ := by
  refine silent c cs cs (Nat.le_refl _) fun fuel pos => ⟨pos + 1, ?_⟩
  have noSign : c ≠ '#' := by rintro rfl; exact absurd isBlank (by decide)
  have noNewline : c ≠ '\n' := by rintro rfl; exact absurd isBlank (by decide)
  simp [scan, noSign, noNewline, isBlank]

theorem inner_newline (cs : List Char) (inside : closers ≠ []) :
    Scans ⟨closers, lineOpen, '\n' :: cs⟩ [] ⟨closers, lineOpen, cs⟩ := by
  refine silent '\n' cs cs (Nat.le_refl _) fun fuel pos => ⟨pos + 1, ?_⟩
  simp [scan, inside]

theorem idle_newline (cs : List Char) : Scans ⟨closers, false, '\n' :: cs⟩ [] ⟨closers, false, cs⟩ := by
  refine silent '\n' cs cs (Nat.le_refl _) fun fuel pos => ⟨pos + 1, ?_⟩
  simp [scan]

theorem passed_newline (cs : List Char) (within : closers ≠ [] ∨ lineOpen = false) :
    Scans ⟨closers, lineOpen, '\n' :: cs⟩ [] ⟨closers, lineOpen, cs⟩ := by
  rcases within with inside | rfl
  · exact inner_newline cs inside
  · exact idle_newline cs

theorem newline (cs : List Char) : Scans ⟨[], true, '\n' :: cs⟩ [.newline] ⟨[], false, cs⟩ := by
  intro fuel pos enough
  obtain ⟨fuel, rfl⟩ : ∃ i, fuel = i + 1 := ⟨fuel - 1, by simp at enough; omega⟩
  exact ⟨[⟨.newline, pos⟩], fuel, pos + 1, rfl, by simpa using enough, by simp [scan]⟩

theorem comment (line rest : List Char) (oneLine : '\n' ∉ line) (ended : ∀ c ∈ rest.head?, c = '\n') :
    Scans ⟨closers, lineOpen, '#' :: (line ++ rest)⟩ [] ⟨closers, lineOpen, rest⟩ := by
  refine silent '#' (line ++ rest) rest (by simp) fun fuel pos => ⟨pos + 1 + line.length, ?_⟩
  have inside : ∀ c ∈ line, (c != '\n') = true := by
    intro c member
    simpa using fun same : c = '\n' => oneLine (same ▸ member)
  have stop : ∀ c ∈ rest.head?, ¬(c != '\n') = true := by
    intro c first
    simp [ended c first]
  have taken : (line ++ rest).takeWhile (· != '\n') = line := by
    rw [List.takeWhile_append_of_pos inside]
    cases rest with
    | nil => simp
    | cons c rest => simp [ended c rfl]
  have dropped : (line ++ rest).dropWhile (· != '\n') = rest := by
    rw [List.dropWhile_append_of_pos inside]
    cases rest with
    | nil => rfl
    | cons c rest => simp [ended c rfl]
  simp [scan, taken, dropped]

def opensLexeme (c : Char) : Bool := c != '#' && c != '\n' && !isLayoutBlank c

theorem lexeme (c : Char) (cs rest : List Char) (l : Lexeme) (opens : opensLexeme c = true)
    (shorter : rest.length ≤ cs.length)
    (read : ∀ pos, ∃ taken, readLexeme (c :: cs) pos = .ok (l, rest, taken))
    (owed : ∀ pos, owedAfter closers l pos = .ok closers') :
    Scans ⟨closers, lineOpen, c :: cs⟩ [l] ⟨closers', true, rest⟩ := by
  intro fuel pos enough
  obtain ⟨fuel, rfl⟩ : ∃ i, fuel = i + 1 := ⟨fuel - 1, by simp at enough; omega⟩
  obtain ⟨taken, read⟩ := read pos
  refine ⟨[⟨l, pos⟩], fuel, pos + taken, rfl, by simp at enough ⊢; omega, ?_⟩
  simp only [opensLexeme, Bool.and_eq_true, bne_iff_ne, ne_eq, Bool.not_eq_true'] at opens
  simp [scan, opens, read, owed pos]

theorem tokens_of_end (cs : List Char) (open_ : Bool) (scans : Scans ⟨[], false, cs⟩ ls ⟨[], open_, []⟩) :
    ∃ tokens, tokenizeList cs = .ok tokens ∧
      Carries tokens (ls ++ if open_ then [.newline, .eof] else [.eof]) := by
  obtain ⟨tokens, fuel, pos, carried, _, scanned⟩ := scans cs.length 0 (Nat.le_refl _)
  cases open_ with
  | true =>
    have ending : Carries [⟨.newline, pos⟩, ⟨.eof, pos⟩] [.newline, .eof] := rfl
    refine ⟨tokens ++ [⟨.newline, pos⟩, ⟨.eof, pos⟩], ?_, append_carries _ _ _ _ carried ending⟩
    simp only [tokenizeList, scanned]
    cases fuel <;> rfl
  | false =>
    have ending : Carries [⟨.eof, pos⟩] [.eof] := rfl
    refine ⟨tokens ++ [⟨.eof, pos⟩], ?_, append_carries _ _ _ _ carried ending⟩
    simp only [tokenizeList, scanned]
    cases fuel <;> rfl

end Scans

end DamagePlan.Script
