import DamagePlan.Proofs.Compile.Dialogue
import DamagePlan.Proofs.Json.Fields

/-!
The cache of answers: where replies are a function of the messages, calls that share a cache have the outcomes of calls
without one.
-/
set_option autoImplicit false

namespace DamagePlan

def Client.ofFunction (model : String) (reply : List Message → Except TransportFailure String) : Client Unit where
  model := model
  send messages _ state := (reply messages, state)

namespace Compile

variable (stack : Script.Stack) (settings : ModelSettings) (options : CacheOptions) (model : String)
  (reply : List Message → Except TransportFailure String)

theorem request_settings_cases : (∃ own own', requestSettings? settings options = some own ∧
    requestSettings? settings {} = some own') ∨
      requestSettings? settings options = none ∧ requestSettings? settings {} = none := by
  unfold requestSettings?
  dsimp only
  split
  · exact .inl ⟨_, _, rfl, rfl⟩
  · exact .inr ⟨rfl, rfl⟩

def compileAll {σ : Type} (client : Client σ) : List (Kit × String) → Session σ →
    List (Except CompileError Outcome) × Session σ
  | [], s => ([], s)
  | (kit, tag) :: calls, s =>
    let (outcome, s) := withModel stack settings options client kit tag s
    let (outcomes, s) := compileAll client calls s
    (outcome :: outcomes, s)

def judged (kit : Kit) (tag : String) (a : Attempt) : Except AttemptFailure String :=
  match Prompt.messages kit a, requestSettings? settings {} with
  | .error e, _ => .error (.unsent e)
  | .ok _, none => .error (.unsent .unwritable)
  | .ok messages, some _ => (verdict stack kit tag (reply messages)).mapError .request

def requestsFrom (kit : Kit) (tag : String) : (left : Nat) → Attempt → List (List Message)
  | 0, _ => []
  | left + 1, a =>
    (Prompt.messages kit a).toOption.toList ++ match judged stack settings reply kit tag a with
      | .ok _ => []
      | .error e => requestsFrom kit tag left (a.next (failureText e))

def pursue (kit : Kit) (tag : String) : (left : Nat) → Attempt → Except String (String × Nat)
  | 0, a => .error (a.lastError.getD "")
  | left + 1, a =>
    match judged stack settings reply kit tag a with
    | .ok script => .ok (script, a.number)
    | .error e => pursue kit tag left (a.next (failureText e))

def requestsOf (call : Kit × String) : List (List Message) :=
  requestsFrom stack settings reply call.1 call.2 settings.maxAttempts { maxAttempts := settings.maxAttempts }

def fingerprintOf? (messages : List Message) : Option String :=
  (requestSettings? settings options).map (·.fingerprint model messages)

/-- No two of the requests of these calls have a fingerprint in common. -/
def NoCollision (calls : List (Kit × String)) : Prop :=
  ∀ call ∈ calls, ∀ call' ∈ calls, ∀ messages ∈ requestsOf stack settings reply call,
    ∀ messages' ∈ requestsOf stack settings reply call', ∀ key, fingerprintOf? settings options model messages = some key →
      fingerprintOf? settings options model messages' = some key → messages = messages'

/-- Every stored answer was accepted for a request with its fingerprint, and was the reply to that. -/
def Vouched (calls : List (Kit × String)) (cache : Cache) : Prop :=
  ∀ key answer, cache.find? key = some answer → ∃ call ∈ calls, ∃ messages ∈ requestsOf stack settings reply call,
    fingerprintOf? settings options model messages = some key ∧ reply messages = .ok answer ∧
      ∃ script, scriptOfAnswer stack call.1 call.2 answer = .ok script

variable {stack settings options model reply}

theorem vouched_more (calls more : List (Kit × String)) (cache : Cache) (within : ∀ call ∈ calls, call ∈ more)
    (vouched : Vouched stack settings options model reply calls cache) :
    Vouched stack settings options model reply more cache := by
  intro key answer stored
  obtain ⟨call, member, rest⟩ := vouched key answer stored
  exact ⟨call, within call member, rest⟩

section Requests

variable {own : RequestSettings} (found : requestSettings? settings options = some own) (calls : List (Kit × String))
  (call : Kit × String) (among : call ∈ calls) (messages : List Message)
  (asked : messages ∈ requestsOf stack settings reply call)

include found among asked

theorem send_transparent (s : Session Unit) (vouched : Vouched stack settings options model reply calls s.cache) :
    Vouched stack settings options model reply calls
        (s.send own (.ofFunction model reply) (scriptOfAnswer stack call.1 call.2) messages).2.cache ∧
      (s.send own (.ofFunction model reply) (scriptOfAnswer stack call.1 call.2) messages).1 =
        verdict stack call.1 call.2 (reply messages) := by
  simp only [Session.send, Client.ofFunction]
  cases replied : reply messages with
  | error e => exact ⟨vouched, rfl⟩
  | ok answer =>
    dsimp only [verdict]
    cases accepted : scriptOfAnswer stack call.1 call.2 answer with
    | error e => exact ⟨vouched, rfl⟩
    | ok script =>
      refine ⟨?_, rfl⟩
      intro key stored there
      -- what is stored under this fingerprint is the reply just now; under any other it is what was there
      dsimp only [RequestSettings.store] at there
      split at there
      · rw [Fields.find_insert] at there
        split at there
        · rename_i same
          cases there
          exact ⟨call, among, messages, asked, by rw [fingerprintOf?, found, same]; rfl, replied, script, accepted⟩
        · exact vouched key stored there
      · exact vouched key stored there

theorem stored_is_reply (distinct : NoCollision stack settings options model reply calls) (cache : Cache)
    (vouched : Vouched stack settings options model reply calls cache) (answer : String)
    (there : own.lookup? cache (own.fingerprint model messages) = some answer) : reply messages = .ok answer := by
  have mine : fingerprintOf? settings options model messages = some (own.fingerprint model messages) := by
    rw [fingerprintOf?, found]
    rfl
  unfold RequestSettings.lookup? at there
  split at there
  · obtain ⟨call', among', messages', asked', same, replied, -⟩ := vouched _ _ there
    rw [← distinct call' among' call among messages' asked' messages asked _ same mine]
    exact replied
  · cases there

theorem request_transparent (distinct : NoCollision stack settings options model reply calls) (s : Session Unit)
    (vouched : Vouched stack settings options model reply calls s.cache) :
    Vouched stack settings options model reply calls (s.request own (.ofFunction model reply) AnswerError.isExpected
        (scriptOfAnswer stack call.1 call.2) messages).2.cache ∧
      (s.request own (.ofFunction model reply) AnswerError.isExpected (scriptOfAnswer stack call.1 call.2) messages).1 =
        verdict stack call.1 call.2 (reply messages) := by
  have sent := send_transparent found calls call among messages asked s vouched
  unfold Session.request
  cases there : own.lookup? s.cache (own.fingerprint (Client.ofFunction model reply).model messages) with
  | none => exact sent
  | some answer =>
    have replied := stored_is_reply found calls call among messages asked distinct s.cache vouched answer there
    simp only [Session.recalled?, Option.map_some]
    cases accepted : scriptOfAnswer stack call.1 call.2 answer with
    | ok script =>
      refine ⟨vouched, ?_⟩
      simp [verdict, replied, accepted, Except.mapError]
    -- a stored answer that is refused is asked for again; only an unexpected failure ends the attempt at once
    | error e =>
      by_cases expected : e.isExpected = true
      · simp only [expected, if_true]
        exact sent
      · simp only [expected]
        refine ⟨vouched, ?_⟩
        simp [verdict, replied, accepted, Except.mapError]

end Requests

theorem attempt_transparent (calls : List (Kit × String)) (distinct : NoCollision stack settings options model reply calls)
    (call : Kit × String) (among : call ∈ calls) (a : Attempt)
    (asked : ∀ messages, Prompt.messages call.1 a = .ok messages → messages ∈ requestsOf stack settings reply call)
    (s : Session Unit) (vouched : Vouched stack settings options model reply calls s.cache) :
    Vouched stack settings options model reply calls
        (attempt stack (requestSettings? settings options) (.ofFunction model reply) call.1 call.2 a s).2.cache ∧
      (attempt stack (requestSettings? settings options) (.ofFunction model reply) call.1 call.2 a s).1 =
        judged stack settings reply call.1 call.2 a := by
  unfold attempt judged
  cases told : Prompt.messages call.1 a with
  | error e => exact ⟨vouched, rfl⟩
  | ok messages =>
    rcases request_settings_cases settings options with ⟨own, _, found, found'⟩ | ⟨found, found'⟩
    · rw [found, found']
      obtain ⟨vouched', same⟩ := request_transparent found calls call among messages (asked messages told) distinct s vouched
      exact ⟨vouched', congrArg (Except.mapError AttemptFailure.request) same⟩
    · rw [found, found']
      exact ⟨vouched, rfl⟩

theorem requests_mono (kit : Kit) (tag : String) (left more : Nat) (few : left ≤ more) (a : Attempt) :
    ∀ messages ∈ requestsFrom stack settings reply kit tag left a,
      messages ∈ requestsFrom stack settings reply kit tag more a := by
  induction left generalizing more a with
  | zero => nofun
  | succ left ih =>
    obtain ⟨more, rfl⟩ : ∃ i, more = i + 1 := ⟨more - 1, by omega⟩
    intro messages member
    rw [requestsFrom] at member ⊢
    rcases List.mem_append.mp member with same | later
    · exact List.mem_append_left _ same
    · apply List.mem_append_right
      generalize judged stack settings reply kit tag a = judged at later ⊢
      cases judged with
      | ok script => cases later
      | error e => exact ih more (by omega) _ messages later

-- The induction is on the attempts that are left; what is stored stays vouched for throughout.
theorem attempts_transparent (calls : List (Kit × String)) (distinct : NoCollision stack settings options model reply calls)
    (call : Kit × String) (among : call ∈ calls) (left : Nat) : ∀ (a : Attempt) (s : Session Unit),
      (∀ messages ∈ requestsFrom stack settings reply call.1 call.2 left a,
        messages ∈ requestsOf stack settings reply call) →
      Vouched stack settings options model reply calls s.cache →
      Vouched stack settings options model reply calls
          (attempts stack (requestSettings? settings options) (.ofFunction model reply) call.1 call.2 left a s).2.cache ∧
        (attempts stack (requestSettings? settings options) (.ofFunction model reply) call.1 call.2 left a s).1 =
          pursue stack settings reply call.1 call.2 left a := by
  induction left with
  | zero => exact fun a s _ vouched => ⟨vouched, rfl⟩
  | succ left ih =>
    intro a s within vouched
    have first (messages : List Message) (told : Prompt.messages call.1 a = .ok messages) :
        messages ∈ requestsFrom stack settings reply call.1 call.2 (left + 1) a := by
      rw [requestsFrom, told]
      exact List.mem_cons_self
    obtain ⟨vouched', same⟩ := attempt_transparent calls distinct call among a
      (fun messages told => within _ (first messages told)) s vouched
    rw [attempts, pursue]
    generalize attempt stack (requestSettings? settings options) (.ofFunction model reply) call.1 call.2 a s = result at vouched' same
    obtain ⟨outcome, s'⟩ := result
    dsimp only at same
    rw [← same]
    cases outcome with
    | ok script => exact ⟨vouched', rfl⟩
    | error e =>
      apply ih _ s' _ vouched'
      intro messages member
      apply within
      rw [requestsFrom, ← same]
      exact List.mem_append_right _ member

theorem call_transparent (calls : List (Kit × String)) (distinct : NoCollision stack settings options model reply calls)
    (call : Kit × String) (among : call ∈ calls) (s : Session Unit)
    (vouched : Vouched stack settings options model reply calls s.cache) (some_ : Nat) (few : some_ ≤ settings.maxAttempts) :
    Vouched stack settings options model reply calls (attempts stack (requestSettings? settings options)
        (.ofFunction model reply) call.1 call.2 some_ { maxAttempts := settings.maxAttempts } s).2.cache ∧
      (attempts stack (requestSettings? settings options) (.ofFunction model reply) call.1 call.2 some_
          { maxAttempts := settings.maxAttempts } s).1 =
        pursue stack settings reply call.1 call.2 some_ { maxAttempts := settings.maxAttempts } :=
  attempts_transparent calls distinct call among some_ _ s (requests_mono call.1 call.2 some_ _ few _) vouched

variable (stack settings reply) in
def outcomeOf (call : Kit × String) : Except CompileError Outcome :=
  match pursue stack settings reply call.1 call.2 settings.maxAttempts { maxAttempts := settings.maxAttempts } with
  | .ok (script, number) => .ok (accepted call.2 script number)
  | .error lastError => (heuristic stack call.1 call.2).map (afterFailure lastError settings.maxAttempts)

theorem with_model_transparent (calls : List (Kit × String)) (distinct : NoCollision stack settings options model reply calls)
    (call : Kit × String) (among : call ∈ calls) (s : Session Unit)
    (vouched : Vouched stack settings options model reply calls s.cache) :
    Vouched stack settings options model reply calls
        (withModel stack settings options (.ofFunction model reply) call.1 call.2 s).2.cache ∧
      (withModel stack settings options (.ofFunction model reply) call.1 call.2 s).1 = outcomeOf stack settings reply call := by
  obtain ⟨vouched', judged⟩ := call_transparent calls distinct call among s vouched settings.maxAttempts (Nat.le_refl _)
  unfold withModel outcomeOf
  rw [← judged]
  generalize attempts stack (requestSettings? settings options) (.ofFunction model reply) call.1 call.2 settings.maxAttempts
    { maxAttempts := settings.maxAttempts } s = result at vouched'
  obtain ⟨outcome, s'⟩ := result
  cases outcome <;> exact ⟨vouched', rfl⟩

theorem no_collision_less (calls more : List (Kit × String)) (within : ∀ call ∈ calls, call ∈ more)
    (distinct : NoCollision stack settings options model reply more) : NoCollision stack settings options model reply calls :=
  fun call among call' among' => distinct call (within call among) call' (within call' among')

theorem vouched_nil (calls : List (Kit × String)) : Vouched stack settings options model reply calls [] := by
  intro key answer found
  cases found

-- The induction is on the calls that are left, behind those that were made.
theorem compile_all_transparent (calls : List (Kit × String)) : ∀ (made : List (Kit × String)) (s : Session Unit),
    NoCollision stack settings options model reply (made ++ calls) → Vouched stack settings options model reply made s.cache →
    Vouched stack settings options model reply (made ++ calls)
        (compileAll stack settings options (.ofFunction model reply) calls s).2.cache ∧
      (compileAll stack settings options (.ofFunction model reply) calls s).1 = calls.map (outcomeOf stack settings reply) := by
  induction calls with
  | nil =>
    intro made s _ vouched
    exact ⟨by simpa [compileAll] using vouched, rfl⟩
  | cons call calls ih =>
    intro made s distinct vouched
    rw [List.append_cons] at distinct ⊢
    have known := vouched_more made (made ++ [call]) s.cache (fun _ => List.mem_append_left _) vouched
    have fewer := no_collision_less (made ++ [call]) _ (fun _ => List.mem_append_left calls) distinct
    obtain ⟨vouched', outcome⟩ := with_model_transparent (made ++ [call]) fewer call (by simp) s known
    obtain ⟨vouched'', outcomes⟩ := ih (made ++ [call]) _ distinct vouched'
    exact ⟨vouched'', by simp [compileAll, outcome, outcomes]⟩

theorem fingerprint_uncached (messages : List Message) :
    fingerprintOf? settings { options with enabled := false } model messages = fingerprintOf? settings options model messages := by
  unfold fingerprintOf? requestSettings?
  dsimp only
  split <;> rfl

theorem uncached_outcome (call : Kit × String) (distinct : NoCollision stack settings options model reply [call]) :
    (withModel stack settings { options with enabled := false } (.ofFunction model reply) call.1 call.2 ⟨(), []⟩).1 =
      outcomeOf stack settings reply call := by
  have same : NoCollision stack settings { options with enabled := false } model reply [call] := by
    intro call member call' member' messages asked messages' asked' key own own'
    rw [fingerprint_uncached] at own own'
    exact distinct call member call' member' messages asked messages' asked' key own own'
  exact (with_model_transparent [call] same call (by simp) ⟨(), []⟩ (vouched_nil _)).2

/-- Where replies are a function of the messages and no two requests share a fingerprint, calls that share a cache have
the outcomes of calls without one, and at every moment each stored answer was accepted for a request with its
fingerprint. -/
theorem shared_cache_transparent (stack : Script.Stack) (settings : ModelSettings) (options : CacheOptions) (model : String)
    (reply : List Message → Except TransportFailure String) (calls : List (Kit × String))
    (distinct : NoCollision stack settings options model reply calls) :
    (compileAll stack settings options (.ofFunction model reply) calls ⟨(), []⟩).1 =
        calls.map (fun call =>
          (withModel stack settings { options with enabled := false } (.ofFunction model reply) call.1 call.2 ⟨(), []⟩).1) ∧
      ∀ made call more, calls = made ++ call :: more → ∀ tried ≤ settings.maxAttempts,
        Vouched stack settings options model reply (made ++ [call])
          (attempts stack (requestSettings? settings options) (.ofFunction model reply) call.1 call.2 tried
            { maxAttempts := settings.maxAttempts }
            (compileAll stack settings options (.ofFunction model reply) made ⟨(), []⟩).2).2.cache := by
  constructor
  · obtain ⟨-, outcomes⟩ := compile_all_transparent calls [] ⟨(), []⟩ distinct (vouched_nil _)
    rw [outcomes, List.map_inj_left]
    intro call member
    exact (uncached_outcome call (no_collision_less [call] calls (by simp [member]) distinct)).symm
  · rintro made call more rfl tried few
    have fewer := no_collision_less (made ++ [call]) (made ++ call :: more) (by simp; tauto) distinct
    obtain ⟨vouched, -⟩ := compile_all_transparent made [] ⟨(), []⟩
      (no_collision_less ([] ++ made) (made ++ call :: more) (by simp +contextual) distinct) (vouched_nil _)
    have known := vouched_more made (made ++ [call]) _ (fun _ => List.mem_append_left _) vouched
    exact (call_transparent (made ++ [call]) fewer call (by simp) _ known tried few).1

def sampleSettings : ModelSettings := { maxAttempts := 1 }

def sampleReply : List Message → Except TransportFailure String := fun _ =>
  .ok "\x7b\"mainAttr\": \"atk\", \"details\": [\x7b\"title\": \"Hit\", \"talent\": \"e\", \"table\": \"Skill DMG\"\x7d]\x7d"

def sampleCalls : List (Kit × String) :=
  let kit : Kit := { game := .gs, name := "X", tables := [("e", ["Skill DMG"])] }
  [(kit, "calcplan:model-assisted"), (kit, "calcplan:upstream-derived")]

theorem sample_no_collision : NoCollision (.levels 200) sampleSettings {} "m" sampleReply sampleCalls := by
  have only : ∀ call ∈ sampleCalls, ∀ messages ∈ requestsOf (.levels 200) sampleSettings sampleReply call,
      Prompt.messages (sampleCalls.head (by simp [sampleCalls])).1 { maxAttempts := 1 } = .ok messages := by
    intro call member messages asked
    have one : Prompt.messages call.1 { maxAttempts := 1 } = .ok messages := by
      rw [requestsOf, sampleSettings, requestsFrom] at asked
      rcases List.mem_append.mp asked with own | later
      · cases told : Prompt.messages call.1 { maxAttempts := 1 } with
        | error e =>
          rw [told] at own
          cases own
        | ok request =>
          rw [told] at own
          rw [List.mem_singleton.mp own]
      · split at later <;> cases later
    simp only [sampleCalls, List.mem_cons, List.not_mem_nil, or_false] at member
    rcases member with rfl | rfl <;> exact one
  intro call member call' member' messages asked messages' asked' key own own'
  exact Except.ok.inj ((only call member messages asked).symm.trans (only call' member' messages' asked'))

theorem sample_cache_transparent : NoCollision (.levels 200) sampleSettings {} "m" sampleReply sampleCalls ∧
    (compileAll (.levels 200) sampleSettings {} (.ofFunction "m" sampleReply) sampleCalls ⟨(), []⟩).1 =
      sampleCalls.map (fun call =>
        (withModel (.levels 200) sampleSettings { enabled := false } (.ofFunction "m" sampleReply) call.1 call.2 ⟨(), []⟩).1) :=
  ⟨sample_no_collision, (shared_cache_transparent (.levels 200) sampleSettings {} "m" sampleReply sampleCalls sample_no_collision).1⟩

end Compile

end DamagePlan
