import DamagePlan.Form.Basic

/-!
Settings of the compiler: the model client, the cache of its answers, and the log.
-/
set_option autoImplicit false

namespace DamagePlan

structure ModelSettings where
  enabled : Bool := false
  model : String := "gpt-4o-mini"
  baseUrl : Option String := none
  keyVariable : String := "CALCPLAN_LLM_API_KEY"
  temperature : Float := 0.2
  maxTokens : Option Int := none
  timeoutSeconds : Float := 30.0
  maxAttempts : Nat := 3

structure CacheOptions where
  enabled : Bool := true
  rootDir : Option String := none
  force : Bool := false
  version : String := "calc-plan/v1"

structure Settings where
  model : ModelSettings := {}
  cache : CacheOptions := {}
  logLevel : String := "INFO"

open Form in
def ModelSettings.read (record : Fields Datum) : Checked ModelSettings :=
  let default : ModelSettings := {}
  ModelSettings.mk
    <$> defaulted record "enabled" default.enabled Reader.bool
    <*> defaulted record "model" default.model Reader.string
    <*> optional record "base_url" Reader.string
    <*> defaulted record "api_key_env" default.keyVariable Reader.string
    <*> defaulted record "temperature" default.temperature (Reader.floatIn 0 2)
    <*> optional record "max_tokens" Reader.positiveInteger
    <*> defaulted record "timeout_s" default.timeoutSeconds Reader.positiveFloat
    <*> defaulted record "max_attempts" default.maxAttempts (Reader.naturalIn 1 (some 10))

def ModelSettings.ofJson : Json → Form.Checked ModelSettings := Form.ofObject ModelSettings.read

def ModelSettings.toFields (s : ModelSettings) : Fields Json :=
  Fields.present [("enabled", some (.bool s.enabled)), ("model", some (.str s.model)), ("base_url", s.baseUrl.map .str),
    ("api_key_env", some (.str s.keyVariable)), ("temperature", some (.float s.temperature)),
    ("max_tokens", s.maxTokens.map .int), ("timeout_s", some (.float s.timeoutSeconds)),
    ("max_attempts", some (.ofNat s.maxAttempts))]

open Form in
def CacheOptions.read (record : Fields Datum) : Checked CacheOptions :=
  let default : CacheOptions := {}
  CacheOptions.mk
    <$> defaulted record "enabled" default.enabled Reader.bool
    <*> optional record "root_dir" Reader.string
    <*> defaulted record "force" default.force Reader.bool
    <*> defaulted record "version" default.version Reader.string

def CacheOptions.ofJson : Json → Form.Checked CacheOptions := Form.ofObject CacheOptions.read

def CacheOptions.toFields (o : CacheOptions) : Fields Json :=
  Fields.present [("enabled", some (.bool o.enabled)), ("root_dir", o.rootDir.map .str), ("force", some (.bool o.force)),
    ("version", some (.str o.version))]

open Form in
def Settings.read (record : Fields Datum) : Checked Settings :=
  Settings.mk
    <$> defaulted record "model" {} (ofMapping ModelSettings.read)
    <*> defaulted record "cache" {} (ofMapping CacheOptions.read)
    <*> defaulted record "log_level" "INFO" Reader.string

end DamagePlan
