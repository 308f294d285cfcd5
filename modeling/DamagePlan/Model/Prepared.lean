import DamagePlan.Model.Request

/-!
A client without a model: it gives prepared replies in their order and keeps what it was sent.
-/
set_option autoImplicit false

namespace DamagePlan

abbrev PreparedReply := Except TransportFailure String

structure Prepared where
  replies : List PreparedReply := []
  requests : List (List Message × Json) := []

def noReplyLeft : TransportFailure := ⟨"RuntimeError", "no more canned responses"⟩

def Client.prepared (model : String) : Client Prepared where
  model := model
  send messages temperature state :=
    let requests := state.requests ++ [(messages, temperature)]
    match state.replies with
    | [] => (.error noReplyLeft, { state with requests })
    | reply :: replies => (reply, { replies, requests })

end DamagePlan
