import DamagePlan.Proofs.Compile.Dialogue

/-!
Every compilation returns a script: with any client, any stored answers and any attempts, as long as the counts of
hits among the samples are in the range of numbers. One that is not brings the heuristic path down.
-/
set_option autoImplicit false

namespace DamagePlan

variable {σ : Type}

theorem Session.request_accepted {ε α : Type} (settings : RequestSettings) (client : Client σ) (isExpected : ε → Bool)
    (accept : String → Except ε α) (messages : List Message) (s : Session σ) (a : α)
    (done : (s.request settings client isExpected accept messages).1 = .ok a) : ∃ answer, accept answer = .ok a := by
  unfold Session.request at done
  split at done
  · rename_i decided recalled
    have same : decided = .ok a := map_error_ok _ _ _ done
    subst same
    unfold Session.recalled? at recalled
    split at recalled
    · cases recalled
    · rename_i stored
      obtain ⟨answer, -, judged⟩ := Option.map_eq_some_iff.mp stored
      cases recalled
      exact ⟨answer, judged⟩
    · split at recalled <;> cases recalled
  · unfold Session.send at done
    split at done
    · cases done
    · split at done
      · cases done
      · rename_i judged
        cases done
        exact ⟨_, judged⟩

namespace Compile

open Script
open Scaling (SamplesInRange)

variable (stack : Stack)

-- Induction on the attempts that are left; whatever the ones before left stored, an answer is judged again before it is used.
theorem attempts_accepted (settings? : Option RequestSettings) (client : Client σ) (kit : Kit) (tag : String) (left : Nat) :
    ∀ (a : Attempt) (s finish : Session σ) (script : String) (number : Nat),
      attempts stack settings? client kit tag left a s = (.ok (script, number), finish) →
        ∃ answer, scriptOfAnswer stack kit tag answer = .ok script := by
  induction left with
  | zero =>
    intro a s finish script number done
    cases done
  | succ left ih =>
    intro a s finish script number done
    unfold attempts at done
    split at done
    · rename_i script' s' first
      cases done
      unfold attempt at first
      split at first
      · cases first
      · cases first
      · rename_i messages settings _
        exact Session.request_accepted settings client AnswerError.isExpected (scriptOfAnswer stack kit tag) messages s script
          (map_error_ok _ _ _ (congrArg Prod.fst first))
    · exact ih _ _ finish script number done

/-- A compilation returns a script that the gate lets through, whatever the client replies and whatever is stored, if all
counts of hits are in range and no text of the kit has too many digits beside a reference. -/
theorem compilation_returns (kit : Kit) (brief : Scaling.BriefTexts kit) (inRange : SamplesInRange kit) (tag : String) :
    (∃ outcome, heuristic stack kit tag = .ok outcome ∧ Gate.validate stack outcome.script = .ok ()) ∧
      ∀ {σ : Type} (settings : ModelSettings) (options : CacheOptions) (client : Client σ) (s : Session σ),
        ∃ outcome, (withModel stack settings options client kit tag s).1 = .ok outcome ∧
          Gate.validate stack outcome.script = .ok () := by
  obtain ⟨plan, script, -, made, passes⟩ := heuristic_returns stack kit tag brief inRange
  refine ⟨⟨_, made, passes⟩, fun settings options client s => ?_⟩
  unfold withModel
  split
  · rename_i answered number finish done
    obtain ⟨answer, accepted⟩ := attempts_accepted stack _ client kit tag _ _ _ _ _ _ done
    exact ⟨_, rfl, (accepted_answer stack kit tag answer answered accepted).1⟩
  · rename_i lastError finish _
    refine ⟨afterFailure lastError settings.maxAttempts (unaided plan tag script none), ?_, passes⟩
    rw [made]
    rfl

def repeatingKit (hits : Int) : Kit where
  game := .gs
  name := "X"
  tables := [("e", ["Skill DMG"])]
  textSamples := [("e", [("Skill DMG", "80%×3")])]
  samples := [("e", [("Skill DMG", .arr [.int 1, .int hits])])]

theorem sample_returns : Scaling.BriefTexts (repeatingKit 3) ∧ SamplesInRange (repeatingKit 3) ∧
    ∃ outcome, (withModel (.levels 200) {} {} silentClient (repeatingKit 3) "calcplan:direct" ⟨0, []⟩).1 = .ok outcome ∧
      Gate.validate (.levels 200) outcome.script = .ok () := by
  have brief : Scaling.BriefTexts (repeatingKit 3) := by decide
  have inRange : SamplesInRange (repeatingKit 3) := by
    intro talent member sample among first n rest same
    simp only [repeatingKit, List.mem_cons, List.not_mem_nil, or_false] at member
    subst member
    simp only [List.mem_cons, List.not_mem_nil, or_false] at among
    subst among
    cases same
    exact ⟨_, rfl⟩
  exact ⟨brief, inRange,
    (compilation_returns (.levels 200) (repeatingKit 3) brief inRange "calcplan:direct").2 {} {} silentClient ⟨0, []⟩⟩

def isOverflow {α : Type} : Except CompileError α → Bool
  | .error (.integerTooLarge _) => true
  | _ => false

/-- A count of hits beyond the range of numbers leaves the kit without any script. -/
theorem oversized_sample_fails :
    ∃ x, heuristic (.levels 200) (repeatingKit (10 ^ 400)) "calcplan:direct" = .error (.integerTooLarge x) := by
  have failed : isOverflow (heuristic (.levels 200) (repeatingKit (10 ^ 400)) "calcplan:direct") = true := by decide +kernel
  unfold isOverflow at failed
  split at failed
  · rename_i x outcome
    exact ⟨x, outcome⟩
  · cases failed

end Compile

end DamagePlan
