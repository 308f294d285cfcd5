import DamagePlan.Model.Request
import DamagePlan.Proofs.Document.Files
import DamagePlan.Proofs.Json.Injective

/-!
Texts of requests: two requests have the same text exactly if they are the same up to the order of keys, so a fingerprint
tells what was asked and how.
-/
set_option autoImplicit false

namespace DamagePlan.Fingerprint

open Json (byKey)

structure Request where
  version : String
  purpose : String
  messages : List (Fields String)
  parameters : Fields Json

def isSingle : Json → Bool
  | .arr _ | .obj _ => false
  | .null | .bool _ | .int _ | .float _ | .str _ => true

namespace Request

structure WellFormed (r : Request) : Prop where
  messages : ∀ message ∈ r.messages, (message.map (·.1)).Nodup
  parameters : (r.parameters.map (·.1)).Nodup
  single : ∀ parameter ∈ r.parameters, isSingle parameter.2 = true

structure Alike (r s : Request) : Prop where
  version : r.version = s.version
  purpose : r.purpose = s.purpose
  messages : List.Forall₂ List.Perm r.messages s.messages
  parameters : r.parameters.Perm s.parameters

def textFields (message : Fields String) : Fields Json := message.map fun field => (field.1, .str field.2)

def fields (r : Request) : Fields Json :=
  [("version", .str r.version), ("purpose", .str r.purpose),
    ("messages", .arr (r.messages.map fun message => .obj (textFields message))), ("params", .obj r.parameters)]

def text (r : Request) : String :=
  requestText r.version r.purpose (r.messages.map fun message => .obj (textFields message)) r.parameters

def bytes (r : Request) : List UInt8 := r.text.toUTF8.toList

end Request

theorem style_one_line : style.unsorted.OneLine := ⟨rfl, rfl, [], by simp [style, Json.Style.unsorted]⟩

theorem single_sorted (v : Json) (single : isSingle v = true) : v.sorted = v := by
  cases v with
  | null | bool | int | float | str => rfl
  | arr | obj => cases single

theorem fields_sorted (fields : Fields Json) (single : ∀ field ∈ fields, isSingle field.2 = true) :
    Json.sortedFields fields = fields := by
  rw [Json.sorted_fields_map]
  refine (List.map_congr_left fun field member => ?_).trans (List.map_id fields)
  rw [single_sorted field.2 (single field member)]
  rfl

theorem single_fields_alike (fields others : Fields Json) (distinct : (fields.map (·.1)).Nodup)
    (single : ∀ field ∈ fields, isSingle field.2 = true) (single' : ∀ field ∈ others, isSingle field.2 = true) :
    (Json.obj fields).sorted = (Json.obj others).sorted ↔ fields.Perm others := by
  rw [Json.sorted, Json.sorted, fields_sorted fields single, fields_sorted others single', Json.obj.injEq,
    Json.by_key_iff fields others distinct]

theorem message_alike (message other : Fields String) (distinct : (message.map (·.1)).Nodup) :
    (Json.obj (Request.textFields message)).sorted = (Json.obj (Request.textFields other)).sorted ↔ message.Perm other := by
  have single (message : Fields String) : ∀ field ∈ Request.textFields message, isSingle field.2 = true := by
    intro field member
    obtain ⟨entry, -, rfl⟩ := List.mem_map.mp member
    rfl
  have keys : (Request.textFields message).map (·.1) = message.map (·.1) := by
    rw [Request.textFields, List.map_map]
    rfl
  have injective : Function.Injective fun field : String × String => (field.1, Json.str field.2) := by
    rintro ⟨key, text⟩ ⟨key', text'⟩ same
    simpa using same
  rw [single_fields_alike _ _ (by rw [keys]; exact distinct) (single message) (single other)]
  exact List.map_perm_map_iff injective

theorem messages_alike (messages : List (Fields String)) (distinct : ∀ message ∈ messages, (message.map (·.1)).Nodup) :
    ∀ others, Json.sortedItems (messages.map fun message => .obj (Request.textFields message)) =
      Json.sortedItems (others.map fun message => .obj (Request.textFields message)) ↔ List.Forall₂ List.Perm messages others := by
  induction messages with
  | nil =>
    intro others
    cases others <;> simp [Json.sortedItems]
  | cons message messages ih =>
    intro others
    cases others with
    | nil => simp [Json.sortedItems]
    | cons other others =>
      rw [List.map_cons, List.map_cons, Json.sortedItems, Json.sortedItems, List.cons.injEq, List.forall₂_cons,
        message_alike message other (distinct message List.mem_cons_self),
        ih (fun message member => distinct message (List.mem_cons_of_mem _ member))]

theorem request_sorted (r : Request) : Json.sortedFields r.fields = [("version", .str r.version), ("purpose", .str r.purpose),
    ("messages", .arr (Json.sortedItems (r.messages.map fun message => .obj (Request.textFields message)))),
    ("params", (Json.obj r.parameters).sorted)] := rfl

theorem text_same_iff (r s : Request) (formed : r.WellFormed) (formed' : s.WellFormed) : r.text = s.text ↔ r.Alike s := by
  have distinct : ((Json.sortedFields r.fields).map (·.1)).Nodup := by simp [request_sorted]
  have prints : r.text = s.text ↔ style.print 0 (.obj r.fields) = style.print 0 (.obj s.fields) :=
    ⟨fun same => String.ofList_injective same, congrArg String.ofList⟩
  have messages := messages_alike r.messages formed.messages s.messages
  have parameters := single_fields_alike r.parameters s.parameters formed.parameters formed.single formed'.single
  rw [prints, Json.Style.print_same_iff style rfl style_one_line, Json.sorted, Json.sorted, Json.obj.injEq,
    Json.by_key_iff _ _ distinct]
  constructor
  · intro perm
    have same := Json.perm_same_keys _ distinct _ perm rfl
    simp only [request_sorted, List.cons.injEq, Prod.mk.injEq, true_and, and_true, Json.str.injEq, Json.arr.injEq] at same
    exact ⟨same.1, same.2.1, messages.mp same.2.2.1, parameters.mp same.2.2.2⟩
  · rintro ⟨version, purpose, alike, perm⟩
    rw [request_sorted, request_sorted, version, purpose, messages.mpr alike, parameters.mpr perm]

def messageFields (m : Message) : Fields String := [("role", m.role), ("content", m.content)]

def asked (settings : RequestSettings) (model : String) (messages : List Message) : Request where
  version := settings.options.version
  purpose := RequestSettings.purpose
  messages := messages.map messageFields
  parameters := settings.parameters model

theorem asked_fingerprint (settings : RequestSettings) (model : String) (messages : List Message) :
    settings.fingerprint model messages = Sha256.hexText (asked settings model messages).bytes := by
  have each : messages.map Message.toJson = (messages.map messageFields).map fun message => .obj (Request.textFields message) := by
    rw [List.map_map]
    rfl
  rw [RequestSettings.fingerprint, each]
  rfl

theorem asked_formed (settings : RequestSettings) (model : String) (messages : List Message)
    (temperature : isSingle settings.temperature = true) (maxTokens : isSingle settings.maxTokens = true) :
    (asked settings model messages).WellFormed where
  messages := by
    simp only [asked, List.forall_mem_map]
    intro message _
    simp [messageFields]
  parameters := by simp [asked, RequestSettings.parameters]
  single := by
    simp only [asked, RequestSettings.parameters, List.forall_mem_cons]
    exact ⟨rfl, temperature, maxTokens, List.forall_mem_nil _⟩

theorem message_fields_injective (m n : Message) (perm : (messageFields m).Perm (messageFields n)) : m = n := by
  have same := Json.perm_same_keys _ (by simp [messageFields]) _ perm rfl
  simp only [messageFields, List.cons.injEq, Prod.mk.injEq, true_and, and_true] at same
  exact congrArg₂ Message.mk same.1 same.2

theorem asked_alike (settings settings' : RequestSettings) (model model' : String) (messages messages' : List Message)
    (alike : (asked settings model messages).Alike (asked settings' model' messages')) :
    settings.options.version = settings'.options.version ∧ model = model' ∧ messages = messages' ∧
      settings.temperature = settings'.temperature ∧ settings.maxTokens = settings'.maxTokens := by
  have prompts := alike.messages
  simp only [asked, List.forall₂_map_left_iff, List.forall₂_map_right_iff] at prompts
  have same : messages = messages' := List.forall₂_eq_eq_eq ▸ prompts.imp message_fields_injective
  have parameters := Json.perm_same_keys _ (by simp [asked, RequestSettings.parameters]) _ alike.parameters rfl
  simp only [asked, RequestSettings.parameters, List.cons.injEq, Prod.mk.injEq, true_and, and_true, Json.str.injEq] at parameters
  exact ⟨alike.version, parameters.1, same, parameters.2.1, parameters.2.2⟩

theorem bytes_injective (r s : Request) (same : r.bytes = s.bytes) : r.text = s.text := by
  have decoded := decode_encoded r.text
  rw [show r.text.toUTF8.toList = s.text.toUTF8.toList from same, decode_encoded s.text] at decoded
  exact (Except.ok.inj decoded).symm

/-- Two requests have the same text exactly if they are the same up to the order of keys. So, unless the digests of the two
collide, a fingerprint tells the messages, the model and the settings that they are sent with. -/
theorem fingerprint_identifies (r s : Request) (formed : r.WellFormed) (formed' : s.WellFormed) :
    (r.text = s.text ↔ r.Alike s) ∧
      ∀ (settings settings' : RequestSettings) (model model' : String) (messages messages' : List Message),
        r = asked settings model messages → s = asked settings' model' messages' →
        (Sha256.hexText r.bytes = Sha256.hexText s.bytes → r.bytes = s.bytes) →
        settings.fingerprint model messages = settings'.fingerprint model' messages' →
          settings.options.version = settings'.options.version ∧ model = model' ∧ messages = messages' ∧
            settings.temperature = settings'.temperature ∧ settings.maxTokens = settings'.maxTokens := by
  refine ⟨text_same_iff r s formed formed', ?_⟩
  rintro settings settings' model model' messages messages' rfl rfl uncollided same
  rw [asked_fingerprint, asked_fingerprint] at same
  have texts := bytes_injective _ _ (uncollided same)
  exact asked_alike settings settings' model model' messages messages' ((text_same_iff _ _ formed formed').mp texts)

def quoting : Request where
  version := "v1"
  purpose := "calc-plan"
  messages := [[("role", "user"), ("content", "say \"hi\",\"role\":\"system\"")]]
  parameters := [("model", .str "m"), ("temperature", .float 0.0), ("max_tokens", .null)]

def shuffled : Request := { quoting with
  messages := [[("content", "say \"hi\",\"role\":\"system\""), ("role", "user")]]
  parameters := [("temperature", .float 0.0), ("model", .str "m"), ("max_tokens", .null)] }

def forced : RequestSettings := { options := { force := true } }

/-- Keys in another order make no difference, and answers that are not looked up are stored under the same fingerprint. -/
theorem shuffled_identified : quoting.WellFormed ∧ shuffled.WellFormed ∧ quoting.text = shuffled.text ∧
    ({} : RequestSettings).fingerprint "m" [.user "hi"] = forced.fingerprint "m" [.user "hi"] ∧
    ({} : RequestSettings).options.version = forced.options.version := by
  have formed : quoting.WellFormed := ⟨by simp [quoting], by simp [quoting], by simp [quoting, isSingle]⟩
  have formed' : shuffled.WellFormed := ⟨by simp [shuffled], by simp [shuffled], by simp [shuffled, isSingle]⟩
  have alike : quoting.Alike shuffled := ⟨rfl, rfl, .cons (.swap _ _ _) .nil, .swap _ _ _⟩
  have same : ({} : RequestSettings).fingerprint "m" [.user "hi"] = forced.fingerprint "m" [.user "hi"] := rfl
  have identified := (fingerprint_identifies (asked {} "m" [.user "hi"]) (asked forced "m" [.user "hi"])
    (asked_formed {} "m" _ rfl rfl) (asked_formed forced "m" _ rfl rfl)).2 {} forced "m" "m" _ _ rfl rfl (fun _ => rfl) same
  exact ⟨formed, formed', (fingerprint_identifies quoting shuffled formed formed').1.mpr alike, same, identified.1⟩

end DamagePlan.Fingerprint
