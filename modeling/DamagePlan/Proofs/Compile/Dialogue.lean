import DamagePlan.Compile.Basic
import DamagePlan.Proofs.Text.Replacing
import DamagePlan.Proofs.Compile.Heuristic
import DamagePlan.Proofs.Render.RoundTrip

/-!
The dialogue with a model: which messages are sent, in which order, and what becomes of the replies.
The text of a failure, which goes into the next request, is never empty.
-/
set_option autoImplicit false

namespace DamagePlan

section Failures

open Script
open Text (append_filled filled_append intercalate_filled)

theorem rejection_message_filled (r : Rejection) : r.message ≠ "" := by
  have reason : r.reason.message ≠ "" := by cases r.reason <;> decide
  unfold Rejection.message Rejection.compose
  dsimp only
  rw [List.append_assoc, List.singleton_append]
  exact intercalate_filled _ _ _ reason

theorem static_message_filled (fault : StaticFault) : fault.message ≠ "" := by
  cases fault with
  | exportNotText name described => exact append_filled _ _ (filled_append _ _ (by decide))
  | outOfBounds place reason => exact append_filled _ _ (filled_append _ _ (by decide))
  | detailsNotRecords | buffsNotRecords => decide
  | _ =>
    unfold StaticFault.message
    repeat apply append_filled
    decide

theorem gate_message_filled (e : GateError) (expected : e.surprise? = none) : e.message ≠ "" := by
  cases e with
  | static fault => exact static_message_filled fault
  | runtime place reason => exact append_filled _ _ (filled_append _ _ (by decide))
  | uncaught failure => cases expected
  | overrun report => cases expected

theorem answer_message_filled (e : AnswerError) (expected : e.surprise? = none) : e.message ≠ "" := by
  match e with
  | .reply .noObject =>
    change Reply.ReplyError.message .noObject ≠ ""
    decide
  | .reply (.malformed fault) =>
    exact append_filled _ _ (append_filled _ _ (append_filled _ _ (by decide)))
  | .plan (.rejected r) => exact rejection_message_filled r
  | .render (.nonFinite kit fault) | .render (.unreadable kit fault) =>
    exact append_filled _ _ (append_filled _ _ (append_filled _ _ (by decide)))
  | .gate fault => exact gate_message_filled fault expected
  | .reply (.integerTooLong _) | .plan (.integerTooLarge _) | .plan (.unreadable _) | .render (.integerTooLarge _) =>
    cases expected

theorem Compile.failure_text_filled (e : RequestFailure AnswerError) : Compile.failureText (.request e) ≠ "" := by
  cases e with
  | transport e =>
    exact append_filled _ _ (append_filled _ _ (append_filled _ _ (by decide)))
  | refused e =>
    unfold Compile.failureText
    dsimp only
    split
    · exact append_filled _ _ (append_filled _ _ (append_filled _ _ (by decide)))
    · rename_i expected
      exact answer_message_filled e expected

end Failures

variable {σ : Type}

namespace Client

def after (client : Client σ) (temperature : Json) (state : σ) (sent : List (List Message)) : σ :=
  sent.foldl (fun s messages => (client.send messages temperature s).2) state

def reply (client : Client σ) (temperature : Json) (state : σ) (sent : List (List Message)) (messages : List Message) :
    Except TransportFailure String :=
  (client.send messages temperature (client.after temperature state sent)).1

end Client

namespace Compile

open Render (Provenance)

section Attempts

variable (stack : Script.Stack) (settings : RequestSettings) (client : Client σ) (kit : Kit) (tag task : String)

def verdict : Except TransportFailure String → Except (RequestFailure AnswerError) String
  | .error e => .error (.transport e)
  | .ok answer => (scriptOfAnswer stack kit tag answer).mapError .refused

def opening (task : String) : List Message := [.system Prompt.system, .user task]

def requestOf (task : String) (a : Attempt) : List Message := opening task ++ Prompt.reminders a

def textOf (failure : RequestFailure AnswerError) : String := failureText (.request failure)

def reminder (most n : Nat) (failure : RequestFailure AnswerError) : List Message :=
  .user (Prompt.feedback (textOf failure)) :: if n = most then [.user Prompt.strictForm] else []

/-- The requests of a dialogue and the failures that came of them: request `i` is the one of attempt `i + 1`, and so is
failure `i`. -/
structure Dialogue (temperature : Json) (start : σ) (most : Nat) (requests : List (List Message))
    (failures : List (RequestFailure AnswerError)) : Prop where
  few : requests.length ≤ most
  opening : ∀ request, requests[0]? = some request → request = opening task
  retry : ∀ i request failure, requests[i + 1]? = some request → failures[i]? = some failure →
    request = Compile.opening task ++ reminder most (i + 2) failure
  failed : ∀ i request failure, requests[i]? = some request → failures[i]? = some failure →
    verdict stack kit tag (client.reply temperature start (requests.take i) request) = .error failure

omit settings client in
theorem request_first (a : Attempt) (first : a.number = 1) : requestOf task a = opening task := by
  simp [requestOf, Prompt.reminders, first]

omit settings client in
theorem request_later (a : Attempt) (failure : RequestFailure AnswerError) (later : 1 < a.number)
    (few : a.number ≤ a.maxAttempts) (told : a.lastError = some (textOf failure)) :
    requestOf task a = opening task ++ reminder a.maxAttempts a.number failure := by
  have filled : (textOf failure).isEmpty = false := by
    simpa [textOf, String.isEmpty_iff] using failure_text_filled failure
  have final : a.isFinal = decide (a.number = a.maxAttempts) := by
    simp only [Attempt.isFinal, decide_eq_decide]
    omega
  have notFirst : ¬a.number ≤ 1 := by omega
  simp [requestOf, Prompt.reminders, reminder, notFirst, told, filled, final]

variable {kit task} (posed : Prompt.task kit = .ok task)

include posed

theorem attempt_made (a : Attempt) (s : Session σ) : attempt stack (some settings) client kit tag a s =
    (((s.request settings client AnswerError.isExpected (scriptOfAnswer stack kit tag) (requestOf task a)).1).mapError .request,
      (s.request settings client AnswerError.isExpected (scriptOfAnswer stack kit tag) (requestOf task a)).2) := by
  have messages : Prompt.messages kit a = .ok (requestOf task a) := by
    rw [Prompt.messages, posed]
    rfl
  simp only [attempt, messages]

theorem attempt_fresh (a : Attempt) (s : Session σ) (fresh : s.cache = []) :
    (attempt stack (some settings) client kit tag a s).1 =
        (verdict stack kit tag (client.reply settings.temperature s.client [] (requestOf task a))).mapError .request ∧
      (attempt stack (some settings) client kit tag a s).2.client =
        client.after settings.temperature s.client [requestOf task a] ∧
      ∀ e, (attempt stack (some settings) client kit tag a s).1 = .error e →
        (attempt stack (some settings) client kit tag a s).2.cache = [] := by
  have none : settings.lookup? s.cache (settings.fingerprint client.model (requestOf task a)) = none := by
    rw [fresh]
    unfold RequestSettings.lookup?
    split <;> rfl
  simp only [attempt_made stack settings client tag posed, Session.request, none, Session.recalled?, Option.map_none,
    Session.send, Client.reply, Client.after, List.foldl_nil, List.foldl_cons]
  generalize client.send (requestOf task a) settings.temperature s.client = sent
  obtain ⟨reply, state⟩ := sent
  cases reply with
  | error e => exact ⟨rfl, rfl, fun _ _ => fresh⟩
  | ok answer =>
    dsimp only [verdict]
    generalize scriptOfAnswer stack kit tag answer = judged
    cases judged with
    | error e => exact ⟨rfl, rfl, fun _ _ => fresh⟩
    | ok script => exact ⟨rfl, rfl, fun e failed => by simp [Except.mapError] at failed⟩

end Attempts

section Loop

variable (stack : Script.Stack) (settings : RequestSettings) (client : Client σ) (kit : Kit) (tag task : String)

def told (a : Attempt) (failures : List (RequestFailure AnswerError)) : List (Option String) :=
  a.lastError :: failures.map fun failure => some (textOf failure)

def later (a : Attempt) (i : Nat) (last : Option String) : Attempt := { a with number := a.number + i, lastError := last }

theorem later_zero (a : Attempt) : later a 0 a.lastError = a := rfl

structure Course (a : Attempt) (start : σ) (requests : List (List Message)) (failures : List (RequestFailure AnswerError)) :
    Prop where
  asked : ∀ i request, requests[i]? = some request → ∃ last,
    (told a failures)[i]? = some last ∧ request = requestOf task (later a i last)
  failed : ∀ i request failure, requests[i]? = some request → failures[i]? = some failure →
    verdict stack kit tag (client.reply settings.temperature start (requests.take i) request) = .error failure

variable {stack settings client kit tag task}

theorem course_nil (a : Attempt) (start : σ) : Course stack settings client kit tag task a start [] [] where
  asked i request at_ := by cases at_
  failed i request failure at_ := by cases at_

theorem course_single (a : Attempt) (start : σ) :
    Course stack settings client kit tag task a start [requestOf task a] [] where
  asked i request at_ := by
    cases i with
    | zero =>
      cases at_
      exact ⟨a.lastError, rfl, by rw [later_zero]⟩
    | succ i => simp at at_
  failed i request failure _ faulty := by cases faulty

theorem course_cons (a : Attempt) (start : σ) (failure : RequestFailure AnswerError) (requests : List (List Message))
    (failures : List (RequestFailure AnswerError))
    (first : verdict stack kit tag (client.reply settings.temperature start [] (requestOf task a)) = .error failure)
    (course : Course stack settings client kit tag task (a.next (textOf failure))
      (client.after settings.temperature start [requestOf task a]) requests failures) :
    Course stack settings client kit tag task a start (requestOf task a :: requests) (failure :: failures) where
  asked i request at_ := by
    cases i with
    | zero =>
      cases at_
      exact ⟨a.lastError, rfl, by rw [later_zero]⟩
    | succ i =>
      obtain ⟨last, told, same⟩ := course.asked i request (by simpa using at_)
      refine ⟨last, by simpa [Compile.told, Attempt.next] using told, ?_⟩
      rw [same]
      simp only [later, Attempt.next, Nat.add_assoc, Nat.add_comm 1 i]
  failed i request fault at_ faulty := by
    cases i with
    | zero =>
      cases at_
      cases faulty
      exact first
    | succ i =>
      have later := course.failed i request fault (by simpa using at_) (by simpa using faulty)
      simpa [Client.reply, Client.after] using later

variable (stack settings client kit tag) in
def Ends (a : Attempt) (start : σ) (left : Nat) (requests : List (List Message))
    (failures : List (RequestFailure AnswerError)) (result : Except String (String × Nat)) : Prop :=
  (requests.length = failures.length + 1 ∧ failures.length < left ∧ ∃ request script,
    requests[failures.length]? = some request ∧
    verdict stack kit tag (client.reply settings.temperature start (requests.take failures.length) request) = .ok script ∧
    result = .ok (script, a.number + failures.length)) ∨
  (requests.length = left ∧ failures.length = left ∧
    result = .error ((failures.getLast?.map textOf).getD (a.lastError.getD "")))

variable (stack settings client tag) in
-- The induction is on the attempts that are left; the cache stays empty as long as nothing is accepted.
theorem attempts_course (posed : Prompt.task kit = .ok task) (left : Nat) : ∀ (a : Attempt) (s : Session σ), s.cache = [] →
    ∃ requests failures, Course stack settings client kit tag task a s.client requests failures ∧
      (attempts stack (some settings) client kit tag left a s).2.client =
        client.after settings.temperature s.client requests ∧
      Ends stack settings client kit tag a s.client left requests failures
        (attempts stack (some settings) client kit tag left a s).1 := by
  induction left with
  | zero => exact fun a s _ => ⟨[], [], course_nil a s.client, rfl, .inr ⟨rfl, rfl, rfl⟩⟩
  | succ left ih =>
    intro a s fresh
    obtain ⟨judged, moved, idle⟩ := attempt_fresh stack settings client tag posed a s fresh
    rw [attempts]
    generalize attempt stack (some settings) client kit tag a s = result at judged moved idle
    obtain ⟨outcome, s'⟩ := result
    cases verdict_ : verdict stack kit tag (client.reply settings.temperature s.client [] (requestOf task a)) with
    | ok script =>
      rw [verdict_] at judged
      cases judged
      refine ⟨[requestOf task a], [], course_single a s.client, moved, .inl ⟨rfl, Nat.succ_pos _, ?_⟩⟩
      exact ⟨_, script, rfl, verdict_, rfl⟩
    | error failure =>
      rw [verdict_] at judged
      cases judged
      obtain ⟨requests, failures, course, reached, ends⟩ := ih (a.next (textOf failure)) s' (idle _ rfl)
      dsimp only at moved
      rw [moved] at course reached ends
      refine ⟨_, _, course_cons a s.client failure requests failures verdict_ course, ?_, ?_⟩
      · refine reached.trans ?_
        simp [Client.after]
      · rcases ends with ⟨count, few, request, script, at_, accepted, whole⟩ | ⟨count, count', whole⟩
        · refine .inl ⟨by simp [count], by simpa using few, request, script, by simpa using at_, ?_, ?_⟩
          · simpa [Client.reply, Client.after] using accepted
          · refine whole.trans ?_
            rw [Attempt.next, List.length_cons, Nat.add_assoc, Nat.add_comm 1]
        · refine .inr ⟨by simp [count], by simp [count'], whole.trans ?_⟩
          rw [List.getLast?_cons]
          cases failures.getLast? <;> rfl

theorem course_dialogue (most : Nat) (start : σ) (requests : List (List Message))
    (failures : List (RequestFailure AnswerError)) (few : requests.length ≤ most)
    (course : Course stack settings client kit tag task { maxAttempts := most } start requests failures) :
    Dialogue stack client kit tag task settings.temperature start most requests failures where
  few := few
  opening request at_ := by
    obtain ⟨last, -, same⟩ := course.asked 0 request at_
    rw [same, request_first task _ rfl]
  retry i request failure at_ faulty := by
    obtain ⟨last, told, same⟩ := course.asked (i + 1) request at_
    have count : i + 1 < requests.length := List.getElem?_eq_some_iff.mp at_ |>.1
    -- what an attempt is told is the text of the failure one place before it in the list
    have because : last = some (textOf failure) := by simpa [Compile.told, faulty] using told.symm
    have number : (later { maxAttempts := most } (i + 1) last).number = i + 2 := Nat.add_comm 1 (i + 1)
    rw [same, request_later task _ failure (by omega) (by rw [number]; exact Nat.le_trans count few) because, number]
    rfl
  failed := course.failed

end Loop

theorem accepted_answer (stack : Script.Stack) (kit : Kit) (tag answer script : String)
    (accepted : scriptOfAnswer stack kit tag answer = .ok script) : Script.Gate.validate stack script = .ok () ∧
      ∃ loaded, Script.load stack script = .ok loaded ∧ loaded.createdBy = tag := by
  unfold scriptOfAnswer at accepted
  obtain ⟨raw, -, accepted⟩ := bind_ok _ _ _ accepted
  obtain ⟨plan, -, accepted⟩ := bind_ok _ _ _ accepted
  obtain ⟨text, rendered, accepted⟩ := bind_ok _ _ _ accepted
  obtain ⟨_, passed, same⟩ := bind_ok _ _ _ accepted
  cases same
  have rendered := map_error_ok _ _ _ rendered
  have passed := map_error_ok _ _ _ passed
  refine ⟨passed, ?_⟩
  obtain ⟨loaded, checked, -⟩ := bind_ok _ _ _ passed
  obtain ⟨loaded, opened, -⟩ := bind_ok _ _ _ checked
  exact ⟨loaded, opened, (Render.rendered_origin stack kit plan tag script rendered loaded opened).2⟩

theorem verdict_passes {stack : Script.Stack} {kit : Kit} {tag script : String} {reply : Except TransportFailure String}
    (accepted : verdict stack kit tag reply = .ok script) : Script.Gate.validate stack script = .ok () ∧
      ∃ loaded, Script.load stack script = .ok loaded ∧ loaded.createdBy = tag := by
  unfold verdict at accepted
  split at accepted
  · cases accepted
  · exact accepted_answer stack kit tag _ script (map_error_ok _ _ _ accepted)

theorem after_failure_error (lastError : String) (most : Nat) (fallback : Outcome) :
    ∃ more, (afterFailure lastError most fallback).error = some (exhaustedMessage lastError ++ more) := by
  unfold afterFailure
  dsimp only
  split
  · split
    · exact ⟨"", by simp⟩
    · rename_i message _ _
      exact ⟨"; heuristic: " ++ message, by simp [toString, String.append_assoc]⟩
  · exact ⟨"", by simp⟩

theorem after_failure_shape (lastError : String) (most : Nat) (fallback : Outcome) (unaided : fallback.usedModel = false) :
    ∃ more, afterFailure lastError most fallback =
      ⟨fallback.script, false, some (exhaustedMessage lastError ++ more), fallback.provenance, most⟩ := by
  obtain ⟨more, error⟩ := after_failure_error lastError most fallback
  refine ⟨more, ?_⟩
  rw [← error, ← unaided]
  rfl

theorem heuristic_unaided (stack : Script.Stack) (kit : Kit) (tag : String) (outcome : Outcome)
    (made : heuristic stack kit tag = .ok outcome) : outcome.usedModel = false := by
  obtain ⟨plan, refined, -, -, shows⟩ := heuristic_course stack kit tag outcome made
  cases shows <;> rfl

/-- Why no attempt has anything to send: the task cannot be put in words, or the limit of an answer not be written. -/
inductive Unsent (settings : ModelSettings) (options : CacheOptions) (kit : Kit) : Prompt.PromptError → Prop
  | task (e : Prompt.PromptError) (unposed : Prompt.task kit = .error e) : Unsent settings options kit e
  | limit (task : String) (posed : Prompt.task kit = .ok task) (unwritten : requestSettings? settings options = none) :
      Unsent settings options kit .unwritable

theorem attempt_unsent (stack : Script.Stack) (settings : ModelSettings) (options : CacheOptions) (client : Client σ) (kit : Kit)
    (tag : String) (e : Prompt.PromptError) (unsent : Unsent settings options kit e) (a : Attempt) (s : Session σ) :
    attempt stack (requestSettings? settings options) client kit tag a s = (.error (.unsent e), s) := by
  cases unsent with
  | task e unposed =>
    have messages : Prompt.messages kit a = .error e := by
      rw [Prompt.messages, unposed]
      rfl
    simp only [attempt, messages]
  | limit task posed unwritten =>
    have messages : Prompt.messages kit a = .ok (requestOf task a) := by
      rw [Prompt.messages, posed]
      rfl
    simp only [attempt, messages, unwritten]

theorem attempts_unsent (stack : Script.Stack) (settings : ModelSettings) (options : CacheOptions) (client : Client σ) (kit : Kit)
    (tag : String) (e : Prompt.PromptError) (unsent : Unsent settings options kit e) (left : Nat) (a : Attempt) (s : Session σ) :
    attempts stack (requestSettings? settings options) client kit tag (left + 1) a s =
      (.error (failureText (.unsent e)), s) := by
  induction left generalizing a with
  | zero =>
    rw [attempts, attempt_unsent stack settings options client kit tag e unsent]
    rfl
  | succ left ih =>
    rw [attempts, attempt_unsent stack settings options client kit tag e unsent]
    exact ih _

theorem request_settings_temperature (settings : ModelSettings) (options : CacheOptions) (own : RequestSettings)
    (found : requestSettings? settings options = some own) : own.temperature = .float settings.temperature := by
  unfold requestSettings? at found
  dsimp only at found
  split at found
  · cases found
    rfl
  · cases found

def silentClient : Client Nat where
  model := "m"
  send _ _ sent := (.ok "", sent + 1)

def asideKit (unit : String) : Kit where
  game := .gs
  name := "X"
  tables := [("e", ["Skill DMG"])]
  units := [("e", [("Other", unit)])]

end Compile

end DamagePlan
