import DamagePlan.Model.Prepared
import DamagePlan.Proofs.Json.Fields
import DamagePlan.Proofs.Model.Reply

/-!
Requests through a cache: a stored answer that is refused as expected decides nothing, and one that is refused otherwise
ends the request.
-/
set_option autoImplicit false

namespace DamagePlan.Session

section Requests

variable {σ ε α : Type} (settings : RequestSettings) (client : Client σ) (isExpected : ε → Bool)
  (accept : String → Except ε α) (messages : List Message) (s : Session σ)

/-- The outcomes of a request whose messages are sent, once: the client has no reply, or its reply is refused, and nothing
is stored; or the reply is accepted, and stored. -/
inductive Asks : Except (RequestFailure ε) α × Session σ → Prop
  | unanswered (e : TransportFailure) (state : σ)
      (sent : client.send messages settings.temperature s.client = (.error e, state)) :
      Asks (.error (.transport e), { s with client := state })
  | refused (answer : String) (e : ε) (state : σ)
      (sent : client.send messages settings.temperature s.client = (.ok answer, state)) (judged : accept answer = .error e) :
      Asks (.error (.refused e), { s with client := state })
  | accepted (answer : String) (a : α) (state : σ)
      (sent : client.send messages settings.temperature s.client = (.ok answer, state)) (judged : accept answer = .ok a) :
      Asks (.ok a, { client := state, cache := settings.store s.cache (settings.fingerprint client.model messages) answer })

theorem send_asks : Asks settings client accept messages s (s.send settings client accept messages) := by
  unfold send
  cases sent : client.send messages settings.temperature s.client with
  | mk reply state =>
  cases reply with
  | error e => exact .unanswered e state sent
  | ok answer =>
    dsimp only
    cases judged : accept answer with
    | error e => exact .refused answer e state sent judged
    | ok a => exact .accepted answer a state sent judged

def forget (s : Session σ) (key : String) : Session σ := { s with cache := s.cache.erase key }

theorem forgotten_undecided (key : String) :
    recalled? isExpected accept (settings.lookup? (s.forget key).cache key) = none := by
  rw [RequestSettings.lookup?, forget, Fields.find_erase, if_pos rfl, ite_self]
  rfl

theorem refused_undecided (key stored : String) (e : ε) (found : s.cache.find? key = some stored)
    (refused : accept stored = .error e)
    (ignored : isExpected e = true ∨ settings.options.force = true ∨ settings.options.enabled = false) :
    recalled? isExpected accept (settings.lookup? s.cache key) = none := by
  rw [RequestSettings.lookup?, found]
  rcases ignored with expected | forced | disabled
  · split
    · simp only [recalled?, Option.map_some, refused, expected, if_true]
    · rfl
  · rw [forced, Bool.not_true, Bool.and_false]
    rfl
  · rw [disabled, Bool.false_and]
    rfl

theorem undecided_asks (undecided : recalled? isExpected accept
    (settings.lookup? s.cache (settings.fingerprint client.model messages)) = none) :
    Asks settings client accept messages s (s.request settings client isExpected accept messages) := by
  rw [request, undecided]
  exact send_asks settings client accept messages s

theorem refused_ends (stored : String) (e : ε) (found : s.cache.find? (settings.fingerprint client.model messages) = some stored)
    (refused : accept stored = .error e) (unexpected : isExpected e = false) (unforced : settings.options.force = false)
    (enabled : settings.options.enabled = true) :
    s.request settings client isExpected accept messages = (.error (.refused e), s) := by
  have looked : settings.lookup? s.cache (settings.fingerprint client.model messages) = some stored := by
    rw [RequestSettings.lookup?, enabled, unforced]
    exact found
  rw [request, looked]
  simp only [recalled?, Option.map_some, refused, unexpected]
  rfl

theorem store_finds (cache bare : Cache) (key answer other : String)
    (alike : other ≠ key → cache.find? other = bare.find? other) (apart : other ≠ key ∨ settings.options.enabled = true) :
    (settings.store cache key answer).find? other = (settings.store bare key answer).find? other := by
  unfold RequestSettings.store
  split
  · rw [Fields.find_insert, Fields.find_insert]
    split
    · rfl
    · rename_i different
      exact alike different
  · rename_i disabled
    exact alike (apart.resolve_right disabled)

theorem asked_alike {own bare : Except (RequestFailure ε) α × Session σ} (asks : Asks settings client accept messages s own)
    (asksBare : Asks settings client accept messages (s.forget (settings.fingerprint client.model messages)) bare) :
    own.1 = bare.1 ∧ own.2.client = bare.2.client ∧
      ∀ other, (other ≠ settings.fingerprint client.model messages ∨ settings.options.enabled = true ∧ ∃ a, own.1 = .ok a) →
        own.2.cache.find? other = bare.2.cache.find? other := by
  have forgotten (key other : String) (different : other ≠ key) : s.cache.find? other = (s.forget key).cache.find? other := by
    rw [forget, Fields.find_erase, if_neg different]
  cases asks with
  | unanswered e state sent =>
    cases asksBare with
    | unanswered _ _ sentBare =>
      cases sent.symm.trans sentBare
      exact ⟨rfl, rfl, fun other apart => forgotten _ other (apart.resolve_right fun ⟨_, _, ok⟩ => by cases ok)⟩
    | refused _ _ _ sentBare | accepted _ _ _ sentBare => cases sent.symm.trans sentBare
  | refused answer e state sent judged =>
    cases asksBare with
    | unanswered _ _ sentBare => cases sent.symm.trans sentBare
    | refused _ _ _ sentBare judgedBare =>
      cases sent.symm.trans sentBare
      cases judged.symm.trans judgedBare
      exact ⟨rfl, rfl, fun other apart => forgotten _ other (apart.resolve_right fun ⟨_, _, ok⟩ => by cases ok)⟩
    | accepted _ _ _ sentBare judgedBare =>
      cases sent.symm.trans sentBare
      cases judged.symm.trans judgedBare
  | accepted answer a state sent judged =>
    cases asksBare with
    | unanswered _ _ sentBare => cases sent.symm.trans sentBare
    | refused _ _ _ sentBare judgedBare =>
      cases sent.symm.trans sentBare
      cases judged.symm.trans judgedBare
    | accepted _ _ _ sentBare judgedBare =>
      cases sent.symm.trans sentBare
      cases judged.symm.trans judgedBare
      exact ⟨rfl, rfl, fun other apart => store_finds settings _ _ _ answer other (forgotten _ other) (apart.imp_right And.left)⟩

/-- Where a stored answer is refused as expected, or is not looked up, the request goes as without it: the messages are
sent, and the entry is written anew exactly if the reply is accepted. A refusal of another kind ends the request at once. -/
theorem refused_entry_decides_nothing (stored : String) (e : ε)
    (found : s.cache.find? (settings.fingerprint client.model messages) = some stored) (refused : accept stored = .error e) :
    let key := settings.fingerprint client.model messages
    let own := s.request settings client isExpected accept messages
    let bare := (s.forget key).request settings client isExpected accept messages
    (isExpected e = true ∨ settings.options.force = true ∨ settings.options.enabled = false →
      Asks settings client accept messages s own ∧ Asks settings client accept messages (s.forget key) bare ∧
        own.1 = bare.1 ∧ own.2.client = bare.2.client ∧
        ∀ other, (other ≠ key ∨ settings.options.enabled = true ∧ ∃ a, own.1 = .ok a) →
          own.2.cache.find? other = bare.2.cache.find? other) ∧
    (isExpected e = false → settings.options.force = false → settings.options.enabled = true →
      own = (.error (.refused e), s)) := by
  intro key own bare
  constructor
  · intro ignored
    have asks : Asks settings client accept messages s own := undecided_asks settings client isExpected accept messages s
      (refused_undecided settings isExpected accept s key stored e found refused ignored)
    have asksBare : Asks settings client accept messages (s.forget key) bare :=
      undecided_asks settings client isExpected accept messages (s.forget key)
        (forgotten_undecided settings isExpected accept s key)
    exact ⟨asks, asksBare, asked_alike settings client accept messages s asks asksBare⟩
  · exact refused_ends settings client isExpected accept messages s stored e found refused

end Requests

open Reply (ReplyError objectOf)

def sampleMessages : List Message := [.user "plan please"]

def sampleKey : String := ({} : RequestSettings).fingerprint "fake-model" sampleMessages

def sampleSession (stored : String) : Session Prepared where
  client := { replies := [.ok "\x7b\x7d"] }
  cache := [(sampleKey, stored)]

def sampleResult (s : Session Prepared) : Except (RequestFailure ReplyError) (Fields Json) :=
  (s.request {} (.prepared "fake-model") ReplyError.isExpected objectOf sampleMessages).1

theorem sample_found (stored : String) : (sampleSession stored).cache.find? sampleKey = some stored := by
  simp [sampleSession, Fields.find?]

theorem empty_object : objectOf "\x7b\x7d" = .ok [] := by rfl

theorem stale_refused : objectOf "stale" = .error .noObject := by rfl

theorem stale_entry_ignored : (sampleSession "stale").cache.find? sampleKey = some "stale" ∧
    objectOf "stale" = .error .noObject ∧ ReplyError.isExpected .noObject = true ∧
    sampleResult (sampleSession "stale") = sampleResult ((sampleSession "stale").forget sampleKey) := by
  obtain ⟨ignored, -⟩ := refused_entry_decides_nothing {} (.prepared "fake-model") ReplyError.isExpected objectOf sampleMessages
    (sampleSession "stale") "stale" .noObject (sample_found "stale") stale_refused
  exact ⟨sample_found "stale", stale_refused, rfl, (ignored (.inl rfl)).2.2.1⟩

def digitsObject (count : Nat) : String := String.ofList
  ('\x7b' :: (['"', 'a', '"', ':'] ++ List.replicate count '1') ++ ['\x7d'])

theorem overlong_read (count : Nat) (long : Decimal.maxIntegerDigits < count) (depth pos : Nat) :
    Json.value (depth + 1) (List.replicate count '1' ++ ['\x7d']) pos = .error ⟨.integerTooLong ⟨count⟩, pos⟩ := by
  let f : Json.Figure := ⟨false, List.replicate count '1', [], none⟩
  have some_ : count ≠ 0 := by omega
  have formed : f.WellFormed := by
    refine ⟨fun c member => ?_, by simpa [f] using some_, .inr (by simp [f, List.head?_replicate, some_]), List.forall_mem_nil _, by rintro _ ⟨⟩⟩
    rw [List.eq_of_mem_replicate member]
    rfl
  have characters : f.characters = List.replicate count '1' := by
    simp [f, Json.Figure.characters, Json.Figure.unsigned, Json.Figure.powerText, Decimal.Written.point]
  have value : f.value = .error ⟨count⟩ := by
    simp [f, Json.Figure.value, Decimal.readDigits, long, Except.map]
  have read := Json.figure_outcome f formed depth ['\x7d'] pos (Json.mark_ends '\x7d' [] (by decide))
  rwa [characters, value] at read

theorem overlong_parsed (count : Nat) (long : Decimal.maxIntegerDigits < count) :
    Json.parseList (digitsObject count).toList = .error ⟨.integerTooLong ⟨count⟩, 5⟩ := by
  obtain ⟨more, split⟩ : ∃ more, List.replicate count '1' = '1' :: more :=
    ⟨List.replicate (count - 1) '1', by rw [← List.replicate_succ, Nat.sub_add_cancel (by omega)]⟩
  have noGap : Json.IsGap [] := List.forall_mem_nil _
  have key : Json.Contents none [] ['a'] ['a'] := .plain 'a' (by unfold Json.IsPlain; decide) (.nil none ['a'])
  have object (depth : Nat) : Json.value (depth + 3) (digitsObject count).toList 0 = .error ⟨.integerTooLong ⟨count⟩, 5⟩ := by
    have figure := overlong_read count long depth 5
    rw [split] at figure
    rw [digitsObject, String.toList_ofList, split]
    exact (Json.read_object (depth + 2) [] noGap 0 _ rfl).trans
      (Json.read_wrong_member key [] [] [] noGap noGap _ rfl figure)
  have size : 2 * (digitsObject count).toList.length + 2 = 2 * (digitsObject count).toList.length - 1 + 3 := by
    simp only [digitsObject, String.toList_ofList, List.length_append, List.length_cons]
    omega
  have start : Json.skipSpace (digitsObject count).toList 0 = ((digitsObject count).toList, 0) := by
    rw [digitsObject, String.toList_ofList]
    rfl
  unfold Json.parseList
  split
  · rename_i bom
    rw [digitsObject, String.toList_ofList] at bom
    cases bom
  · simp only [start, size, object]

theorem overlong_refused (count : Nat) (long : Decimal.maxIntegerDigits < count) :
    objectOf (digitsObject count) = .error (.integerTooLong ⟨count⟩) := by
  have free : '\x60' ∉ (digitsObject count).toList := by
    rw [digitsObject, String.toList_ofList]
    simp
  have whole : Reply.braced? (digitsObject count).toList = some (digitsObject count).toList := by
    have alone := Reply.braced_whole (['"', 'a', '"', ':'] ++ List.replicate count '1') [] List.not_mem_nil
    rw [List.append_nil] at alone
    rwa [digitsObject, String.toList_ofList]
  rw [Reply.object_of_body, Reply.body_unfenced _ free, Reply.objectIn, whole]
  simp only [overlong_parsed count long]
  rfl

/-- An object is sent back where there is no entry, but an entry with an overlong integer ends the request before. -/
theorem overlong_entry_ends_request : (sampleSession (digitsObject 4301)).cache.find? sampleKey = some (digitsObject 4301) ∧
    objectOf (digitsObject 4301) = .error (.integerTooLong ⟨4301⟩) ∧
    sampleResult (sampleSession (digitsObject 4301)) = .error (.refused (.integerTooLong ⟨4301⟩)) ∧
    sampleResult ((sampleSession (digitsObject 4301)).forget sampleKey) = .ok [] := by
  have found := sample_found (digitsObject 4301)
  have refused := overlong_refused 4301 (by decide)
  have undecided := forgotten_undecided {} ReplyError.isExpected objectOf (sampleSession (digitsObject 4301)) sampleKey
  refine ⟨found, refused, ?_, ?_⟩
  · rw [sampleResult, refused_ends {} (.prepared "fake-model") ReplyError.isExpected objectOf sampleMessages
      (sampleSession (digitsObject 4301)) (digitsObject 4301) (.integerTooLong ⟨4301⟩) found refused rfl rfl rfl]
  · rw [sampleResult, request, show RequestSettings.fingerprint {} (Client.prepared "fake-model").model sampleMessages = sampleKey from rfl,
      undecided]
    simp only [send, Client.prepared, forget, sampleSession, empty_object]

end DamagePlan.Session
