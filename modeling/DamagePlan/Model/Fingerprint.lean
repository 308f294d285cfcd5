import DamagePlan.Digest.Sha256
import DamagePlan.Json.Printer

/-!
Fingerprints: a request is known by the digest of a text that lists its version, purpose, messages and parameters
with sorted keys.
-/
set_option autoImplicit false

namespace DamagePlan.Fingerprint

def style : Json.Style where
  sortKeys := true
  itemSeparator := ","
  keySeparator := ":"

def requestText (version purpose : String) (messages : List Json) (parameters : Fields Json) : String :=
  style.render (.obj [("version", .str version), ("purpose", .str purpose), ("messages", .arr messages),
    ("params", .obj parameters)])

def ofRequest (version purpose : String) (messages : List Json) (parameters : Fields Json) : String :=
  Sha256.hexText (requestText version purpose messages parameters).toUTF8.toList

end DamagePlan.Fingerprint
