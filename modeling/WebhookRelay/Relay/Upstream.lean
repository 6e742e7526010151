import WebhookRelay.Relay.Pipeline

/-!
# The upstream call

`_forward_to_upstream` posts the request and reads `choices[0].message.content` from the JSON
answer, falling back to the raw body text on `JSONDecodeError`, `IndexError` and `KeyError`.
Each step of the path is a `.get` or `[0]` on whatever the JSON held, so a value of another
type raises `AttributeError` or `TypeError`, which nothing catches; and `content` is returned
whatever its type.
-/

namespace WebhookRelay.Relay

open Python

/-- The `POST` the code sends. -/
structure PostRequest where
  url : String
  body : ChatRequest
  headers : List (String × String)

/-- What `client.post` gives back: a response, with what `resp.json()` parses its body to
(`none` when it raises `JSONDecodeError`), or one of the two transport errors the code
catches. -/
inductive PostResult where
  | response (statusCode : Int) (text : String) (json : Option PyValue)
  | connectError
  | timeoutException

/-- The inner `try` body:
`resp.json().get("choices", [{}])[0].get("message", {}).get("content", resp.text)`. -/
def extractText (json : Option PyValue) (text : String) : Except PyException PyValue := do
  let respJson ← match json with
    | some v => .ok v
    | none => .error .jsonDecodeError
  let choices ← respJson.get "choices" (.list [.dict []])
  let first ← choices.getItemZero
  let message ← first.get "message" (.dict [])
  message.get "content" (.str text)

/-- `except (json.JSONDecodeError, IndexError, KeyError): text = resp.text`. -/
def catchLookup (r : Except PyException PyValue) (text : String) : Except PyException PyValue :=
  match r with
  | .error .jsonDecodeError | .error .indexError | .error .keyError => .ok (.str text)
  | r => r

/-- `_forward_to_upstream`: the text (any Python value) and status of the `WebhookResponse` it
returns, or the exception it raises. -/
def forwardToUpstream (p : WebhookRelayPipeline) (post : PostRequest → PostResult)
    (requestBody : ChatRequest) : Except PyException (PyValue × Int) :=
  let url := rstrip p.upstreamUrl '/' ++ "/v1/chat/completions"
  let headers := [("Authorization", "Bearer " ++ p.upstreamToken),
    ("Content-Type", "application/json")]
  match post ⟨url, requestBody, headers⟩ with
  | .response statusCode text json =>
    (catchLookup (extractText json text) text).map fun t => (t, statusCode)
  | .connectError | .timeoutException => .ok (.str "Upstream unavailable", 502)

/-! ## What the extraction returns -/

variable {text : String}

/-- A JSON body that is not an object raises `AttributeError` at `.get("choices", ...)`. -/
theorem catchLookup_extractText_not_dict {v : PyValue} (hv : ∀ items, v ≠ .dict items) :
    catchLookup (extractText (some v) text) text = .error .attributeError := by
  cases v <;> first | exact absurd rfl (hv _) | rfl

/-- For every status and body text: a JSON body that is not an object makes
`_forward_to_upstream` raise `AttributeError`, and a `content` of any type is returned as the
response text, `None` included. -/
theorem upstream_unexpected_json (p : WebhookRelayPipeline) (body : ChatRequest)
    (statusCode : Int) (text : String) :
    (∀ v : PyValue, (∀ items, v ≠ .dict items) →
      forwardToUpstream p (fun _ => .response statusCode text (some v)) body =
        .error .attributeError) ∧
    ∀ content : PyValue, forwardToUpstream p (fun _ => .response statusCode text
      (some (.dict [("choices", .list [.dict [("message", .dict [("content", content)])]])]))) body =
        .ok (content, statusCode) := by
  refine ⟨fun v hv => ?_, fun content => ?_⟩
  · simp [forwardToUpstream, catchLookup_extractText_not_dict hv, Except.map]
  · rfl

end WebhookRelay.Relay
