import DamagePlan.Json.Basic

/-!
Messages to a model.
-/
set_option autoImplicit false

namespace DamagePlan

structure Message where
  role : String
  content : String
deriving DecidableEq

namespace Message

def system (content : String) : Message := ⟨"system", content⟩

def user (content : String) : Message := ⟨"user", content⟩

def toJson (m : Message) : Json := .obj [("role", .str m.role), ("content", .str m.content)]

end Message

end DamagePlan
