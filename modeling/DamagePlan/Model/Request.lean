import DamagePlan.Model.Fingerprint
import DamagePlan.Model.Message
import DamagePlan.Settings

/-!
Requests to a model through a cache of accepted answers. A stored answer is used only if it is still accepted, and
only accepted answers are stored.
-/
set_option autoImplicit false

namespace DamagePlan

structure TransportFailure where
  kind : String
  message : String

structure Client (σ : Type) where
  model : String
  send : List Message → (temperature : Json) → σ → Except TransportFailure String × σ

abbrev Cache := Fields String

structure Session (σ : Type) where
  client : σ
  cache : Cache := []

/-- What every request of a conversation has in common. Fingerprints are of its text, so it can be written. -/
structure RequestSettings where
  options : CacheOptions := {}
  temperature : Json := .float 0.2
  maxTokens : Json := .null
  writable : (Json.arr [temperature, maxTokens]).holdsTooLong = false := by exact (rfl : false = false)

namespace RequestSettings

def purpose : String := "calc-plan"

def parameters (settings : RequestSettings) (model : String) : Fields Json :=
  [("model", .str model), ("temperature", settings.temperature), ("max_tokens", settings.maxTokens)]

def fingerprint (settings : RequestSettings) (model : String) (messages : List Message) : String :=
  Fingerprint.ofRequest settings.options.version purpose (messages.map Message.toJson) (settings.parameters model)

def lookup? (settings : RequestSettings) (cache : Cache) (key : String) : Option String :=
  if settings.options.enabled && !settings.options.force then cache.find? key else none

def store (settings : RequestSettings) (cache : Cache) (key answer : String) : Cache :=
  if settings.options.enabled then cache.insert key answer else cache

end RequestSettings

inductive RequestFailure (ε : Type) where
  | transport (e : TransportFailure)
  | refused (e : ε)

namespace Session

variable {σ ε α : Type}

/-- What a stored answer decides. A refusal of a kind that is to be expected decides nothing. -/
def recalled? (isExpected : ε → Bool) (accept : String → Except ε α) (stored : Option String) : Option (Except ε α) :=
  match stored.map accept with
  | none => none
  | some (.ok a) => some (.ok a)
  | some (.error e) => if isExpected e then none else some (.error e)

def send (settings : RequestSettings) (client : Client σ) (accept : String → Except ε α) (messages : List Message)
    (s : Session σ) : Except (RequestFailure ε) α × Session σ :=
  match client.send messages settings.temperature s.client with
  | (.error e, state) => (.error (.transport e), { s with client := state })
  | (.ok answer, state) =>
    match accept answer with
    | .error e => (.error (.refused e), { s with client := state })
    | .ok a =>
      (.ok a, { client := state
                cache := settings.store s.cache (settings.fingerprint client.model messages) answer })

def request (settings : RequestSettings) (client : Client σ) (isExpected : ε → Bool)
    (accept : String → Except ε α) (messages : List Message) (s : Session σ) :
    Except (RequestFailure ε) α × Session σ :=
  match recalled? isExpected accept (settings.lookup? s.cache (settings.fingerprint client.model messages)) with
  | some decided => (decided.mapError .refused, s)
  | none => s.send settings client accept messages

end Session

end DamagePlan
