import Council.DebateContent
import Council.EventText
import Council.ZaiProvider

/-!
The text of a provider request: what `json.Marshal` makes of `wireRequest` in
`provider/zai.go`. Whoever reads it as JSON has the conversation the
orchestrator built, message by message, whatever is in the texts.
-/

namespace Council.RequestText

open Council.Protocol
open Council.Provider
open Council.Orchestration
open Council.DebateShape
open Council.DebateContent
open Council.ZaiProvider
open Council.EventWire
open Council.EventAgreement
open Council.EventText
open Council.JsonText
open Council.JsonWriting

section Encode

def boolText (value : Bool) : Text := if value then units "true" else units "false"

def messageText (message : WireMessage) : Text :=
  structText 0x7B [(fieldName "role", appendString message.role),
    (fieldName "content", appendString message.content)]

/-- `json.Marshal(body)`. -/
def requestText (request : WireRequest) : Text :=
  structText 0x7B [(fieldName "model", appendString request.model),
    (fieldName "messages", arrayText (request.messages.map messageText)),
    (fieldName "stream", boolText request.stream),
    (fieldName "thinking", structText 0x7B [(fieldName "type", appendString request.thinking)])]

/-- The body of the request `Stream` posts. -/
def jsonBody (model : String) (request : Request) : Text :=
  requestText (wireRequest model request)

example : jsonBody "glm" ⟨"Be brief.", [⟨.user, "Why?"⟩], ""⟩ =
    units "\x7b\"model\":\"glm\",\"messages\":[\x7b\"role\":\"system\",\"content\":\"Be brief.\"\x7d," ++
      units "\x7b\"role\":\"user\",\"content\":\"Why?\"\x7d],\"stream\":true," ++
        units "\"thinking\":\x7b\"type\":\"disabled\"\x7d\x7d" := by
  decide +kernel

end Encode

section Values

def messageJson (message : WireMessage) : Json :=
  .object [(units "role", .string (units message.role)),
    (units "content", .string (units message.content))]

/-- The object of the struct's tags. -/
def requestJson (request : WireRequest) : Json :=
  .object [(units "model", .string (units request.model)),
    (units "messages", .array (request.messages.map messageJson)),
    (units "stream", .bool request.stream),
    (units "thinking", .object [(units "type", .string (units request.thinking))])]

variable {toNumber : Text → JsNumber}

theorem message_item (message : WireMessage) :
    Item toNumber (messageText message) (messageJson message) where
  writes := by
    rw [messageText, struct_text_brace]
    exact writes_object (.cons (written_string _ _) (.cons (written_string _ _) .nil))
  leads := ⟨0x7B, _, rfl, by decide, by decide⟩

theorem message_items (messages : List WireMessage) :
    List.Forall₂ (Item toNumber) (messages.map messageText) (messages.map messageJson) := by
  induction messages with
  | nil => exact .nil
  | cons message rest ih => exact .cons (message_item message) ih

theorem writes_request (request : WireRequest) (streams : request.stream = true) :
    Writes toNumber (requestText request) (requestJson request) := by
  rw [requestText, requestJson, streams, struct_text_brace, struct_text_brace]
  have named : ∀ key : String, ∀ {text : Text} {json : Json}, Writes toNumber text json →
      Written toNumber (fieldName key, text) (units key, json) :=
    fun key _ _ writes => ⟨written_name key, writes⟩
  apply writes_object
  refine .cons (written_string _ _) (.cons (named _ ?_) (.cons (named _ ?_) (.cons (named _ ?_) .nil)))
  · exact writes_array (message_items request.messages)
  · exact writes_true
  · exact writes_object (.cons (written_string _ _) .nil)

theorem parse_request (request : WireRequest) (streams : request.stream = true) :
    JsonText.parse toNumber (requestText request) = some (requestJson request) := by
  have parsed := parse_writes (@writes_request toNumber request streams) [] (by rintro _ ⟨⟩)
  rwa [List.append_nil] at parsed

end Values

section Distinct

theorem message_json_inj : Function.Injective messageJson := by
  rintro ⟨role, content⟩ ⟨other, text⟩ same
  simp only [messageJson, Json.object.injEq, List.cons.injEq, Prod.mk.injEq, Json.string.injEq,
    units_inj, and_true, true_and] at same
  simp only [WireMessage.mk.injEq]
  exact same

theorem request_json_inj : Function.Injective requestJson := by
  rintro ⟨model, messages, stream, thinking⟩ ⟨_, _, _, _⟩ same
  simp only [requestJson, Json.object.injEq, List.cons.injEq, Prod.mk.injEq, Json.string.injEq,
    Json.array.injEq, Json.bool.injEq, units_inj, and_true, true_and] at same
  rcases same with ⟨model, messages, stream, thinking⟩
  simp only [WireRequest.mk.injEq]
  exact ⟨model, List.map_injective_iff.mpr message_json_inj messages, stream, thinking⟩

theorem role_name_inj : Function.Injective roleName := by
  intro first second same
  cases first <;> cases second <;> first | rfl | exact absurd same (by decide)

theorem history_inj : Function.Injective fun turn : Message =>
    (⟨roleName turn.role, turn.message⟩ : WireMessage) := by
  rintro ⟨role, message⟩ ⟨other, text⟩ same
  simp only [WireMessage.mk.injEq] at same
  simp only [Message.mk.injEq]
  exact ⟨role_name_inj same.1, same.2⟩

theorem wire_request_inj {model : String} {first second : Request}
    (prompted : first.systemPrompt ≠ "") (also : second.systemPrompt ≠ "")
    (same : wireRequest model first = wireRequest model second) :
    first.systemPrompt = second.systemPrompt ∧ first.messageHistory = second.messageHistory := by
  have messages := congrArg WireRequest.messages same
  simp only [wireRequest, if_pos prompted, if_pos also, List.singleton_append, List.cons.injEq,
    WireMessage.mk.injEq, true_and] at messages
  exact ⟨messages.1, List.map_injective_iff.mpr history_inj messages.2⟩

end Distinct

section Debates

variable {count : Nat} {debate : Debate count} {state : State count}

/-- Every request of an uncancelled debate leaves as JSON for exactly the
provider's model, the speaker's system prompt and the conversation of the
debate run one call after another; and no two conversations have one body. -/
theorem requests_read_as_built (toNumber : Text → JsNumber) (model : String)
    (reachable : Reachable debate state) (uncancelled : state.cancelled = false)
    (call : Call count) (request : Request) (asked : (state.calls call).request = some request) :
    JsonText.parse toNumber (jsonBody model request) =
      some (requestJson (wireRequest model (sequentialRequest debate call))) ∧
    ∀ other : Request, request.systemPrompt ≠ "" → other.systemPrompt ≠ "" →
      jsonBody model other = jsonBody model request →
        other.systemPrompt = request.systemPrompt ∧
          other.messageHistory = request.messageHistory := by
  constructor
  · rw [← asked_sequential reachable uncancelled call request asked]
    exact parse_request _ rfl
  · intro other prompted also same
    have read := congrArg (JsonText.parse toNumber) same
    rw [jsonBody, jsonBody, parse_request _ rfl, parse_request _ rfl] at read
    exact wire_request_inj also prompted (request_json_inj (Option.some.inj read))

/-- The first panelist's first request. -/
theorem requests_read_as_built_duet :
    ∃ state request, Reachable duet state ∧
      (state.calls ⟨1, some duet_first⟩).request = some request ∧
      JsonText.parse decimal (jsonBody "glm" request) =
        some (requestJson (wireRequest "glm" (sequentialRequest duet ⟨1, some duet_first⟩))) := by
  have played : ((Machines.perform (step duet) Machines.always (State.initial duet false)
      [.spawn, .stream ⟨1, some duet_first⟩ .start]).map fun state =>
        (state.cancelled, (state.calls ⟨1, some duet_first⟩).request.isSome)) =
      some (false, true) := by
    decide +kernel
  rcases Option.map_eq_some_iff.mp played with ⟨state, run, known⟩
  rcases Prod.mk.inj known with ⟨uncancelled, asked⟩
  rcases Option.isSome_iff_exists.mp asked with ⟨request, asked⟩
  have reached : Reachable duet state := ⟨false, Machines.perform_reaches _ _ _ run⟩
  exact ⟨state, request, reached, asked,
    (requests_read_as_built decimal "glm" reached uncancelled _ request asked).1⟩

end Debates

end Council.RequestText
