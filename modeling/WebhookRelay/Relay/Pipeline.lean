import WebhookRelay.Relay.Content

/-!
# The relay pipeline

`WebhookRelayPipeline.relay` of `src/webhook/relay.py`. The collaborators are the pipeline's
fields, each as the function it is called as; an absent optional collaborator is `none`. Every
call the pipeline makes on a collaborator or on the history store is recorded, in order, as a
`Call`, so that what a run does is its outcome, its history store and its calls.

`relay` awaits only the upstream, so it is two atomic halves: `relayBegin` (the gates, the
history append and the request) and `relayFinish` (the assistant append, the response scan and
the audit event). Interleavings of concurrent relays are built from these two halves.
-/

namespace WebhookRelay.Relay

open Python History

/-- The upstream request body `{"model", "messages", "metadata"}`. -/
structure ChatRequest where
  model : String
  messages : List Message
  metadata : Dict PyValue

/-- `PromptInjectionError`, with the patterns it matched. -/
structure PromptInjectionError where
  patterns : List String

/-- `GovernanceDecision`. -/
inductive GovernanceDecision where
  | allow
  | block
  | requireApproval
  deriving DecidableEq, Repr

/-- What `evaluate` returns. -/
structure EvaluationResult where
  decision : GovernanceDecision
  approvalId : Option String

/-- The governance collaborator. `decisionValue` is the `GovernanceDecision` enum's string
values, whose module is not among these sources. -/
structure GovernanceMiddleware where
  evaluate : ChatRequest → String → EvaluationResult
  decisionValue : GovernanceDecision → String

/-- The audit event types the webhook code logs. -/
inductive AuditEventType where
  | webhookRelay
  | indirectInjection
  | webhookFileDownload
  deriving DecidableEq, Repr

/-- The risk levels the relay logs. -/
inductive RiskLevel where
  | info
  | high
  deriving DecidableEq, Repr

/-- `AuditEvent`. -/
structure AuditEvent where
  eventType : AuditEventType
  action : String
  result : String
  riskLevel : RiskLevel
  details : Dict PyValue

/-- One call the pipeline makes on a collaborator or on the history store. -/
inductive Call where
  | sanitize (text : String)
  | evaluate (body : ChatRequest) (identity : String)
  | log (event : AuditEvent)
  | isQuarantined (skillName : PyValue)
  | appendUser (sessionId content : String)
  | get (sessionId : String)
  | forward (body : ChatRequest)
  | appendAssistant (sessionId content : String)
  | scan (text : String)

/-- The pipeline: its collaborators and the state of its history store. -/
structure WebhookRelayPipeline where
  sanitizer : String → Except PromptInjectionError String
  upstreamUrl : String
  upstreamToken : String
  quarantineManager : Option (PyValue → Bool)
  governance : Option GovernanceMiddleware
  responseScanner : Option (String → List String)
  auditLogger : Bool
  conversationHistory : Option ConversationHistory

/-- The clock readings of one relay: the sweep and stamp of `append_user`, and the stamp of
`append_assistant`. -/
structure Clocks where
  sweep : Int
  user : Int
  assistant : Int

/-- `_MAX_BODY_SIZE`. -/
def maxBodySize : Nat := 10 * 1024 * 1024

/-- The `{k: v, ...}` display: its items inserted in order. -/
def dictOf {α : Type} (items : List (String × α)) : Dict α :=
  items.foldl (fun d kv => d.set kv.1 kv.2) Dict.empty

/-! ## Stages 1 to 3 -/

/-- Stage 1: the text's UTF-8 length plus every attachment's byte count. -/
def bodySize (m : WebhookMessage) : Nat :=
  m.text.utf8ByteSize + m.attachments.foldl (fun acc a => acc + a.data.length) 0

/-- One entry of `attachment_meta`. -/
def attachmentMeta (a : Attachment) : PyValue :=
  .dict [("type", .str a.type.value), ("mime_type", .str a.mimeType),
    ("file_name", .str a.fileName), ("file_size", .int a.fileSize)]

/-- `gov_body`. -/
def governanceBody (m : WebhookMessage) (cleanText : String) : ChatRequest :=
  ⟨"default", [⟨.user, .text cleanText⟩],
    (dictOf [("source", .str m.source), ("attachments", .list (m.attachments.map attachmentMeta))]).update
      m.metadata⟩

/-- The `governance_eval` audit event. -/
def governanceEvent (g : GovernanceMiddleware) (m : WebhookMessage) (r : EvaluationResult) :
    AuditEvent :=
  ⟨.webhookRelay, "governance_eval", g.decisionValue r.decision, .info,
    dictOf [("source", .str m.source), ("sender_id", .str m.senderId),
      ("decision", .str (g.decisionValue r.decision))]⟩

/-- The calls of stage 2.5: the evaluation and, with an audit logger, its event. -/
def governanceCalls (p : WebhookRelayPipeline) (g : GovernanceMiddleware) (m : WebhookMessage)
    (cleanText : String) : List Call :=
  let r := g.evaluate (governanceBody m cleanText) m.senderId
  .evaluate (governanceBody m cleanText) m.senderId ::
    if p.auditLogger then [.log (governanceEvent g m r)] else []

/-- Stage 2.5: the early response, if any, and the calls made. -/
def governanceCheck (p : WebhookRelayPipeline) (m : WebhookMessage) (cleanText : String) :
    Option WebhookResponse × List Call :=
  match p.governance with
  | none => (none, [])
  | some g =>
    let r := g.evaluate (governanceBody m cleanText) m.senderId
    match r.decision with
    | .block => (some ⟨"Blocked by governance policy", 403⟩, governanceCalls p g m cleanText)
    | .requireApproval =>
      (some ⟨"Approval required (ID: " ++ r.approvalId.getD "None" ++ ")", 202⟩,
        governanceCalls p g m cleanText)
    | .allow => (none, governanceCalls p g m cleanText)

/-- `message.metadata.get("skill_name")`. -/
def skillName (m : WebhookMessage) : PyValue := (m.metadata.get? "skill_name").getD .none

/-- Stage 3: the early response, if any, and the calls made. -/
def quarantineCheck (p : WebhookRelayPipeline) (m : WebhookMessage) :
    Option WebhookResponse × List Call :=
  match p.quarantineManager with
  | none => (none, [])
  | some isQuarantined =>
    if (skillName m).truthy then
      if isQuarantined (skillName m) then
        (some ⟨"Skill '" ++ (skillName m).toStr ++ "' is quarantined", 403⟩,
          [.isQuarantined (skillName m)])
      else (none, [.isQuarantined (skillName m)])
    else (none, [])

/-- Stages 1 to 3: an early response with the calls made, or the clean text and the calls. -/
def gates (p : WebhookRelayPipeline) (m : WebhookMessage) :
    Except (WebhookResponse × List Call) (String × List Call) :=
  if bodySize m > maxBodySize then .error (⟨"Request body too large", 413⟩, []) else
  match p.sanitizer m.text with
  | .error _ => .error (⟨"Request rejected due to policy violation", 400⟩, [.sanitize m.text])
  | .ok cleanText =>
    match governanceCheck p m cleanText with
    | (some r, gc) => .error (r, .sanitize m.text :: gc)
    | (none, gc) =>
      match quarantineCheck p m with
      | (some r, qc) => .error (r, .sanitize m.text :: gc ++ qc)
      | (none, qc) => .ok (cleanText, .sanitize m.text :: gc ++ qc)

/-! ## Stage 4 and the two halves of `relay` -/

/-- `session_id`. -/
def sessionKey (m : WebhookMessage) : String := m.source ++ ":" ++ m.senderId

/-- A relay suspended at the upstream call: its session key and request. -/
structure Pending where
  sessionId : String
  requestBody : ChatRequest

/-- The history messages of stage 4, the store after it, and the store calls. -/
def historyMessages (p : WebhookRelayPipeline) (m : WebhookMessage) (cleanText : String)
    (clk : Clocks) : List Message × Option ConversationHistory × List Call :=
  let text := historyText cleanText m.attachments
  match p.conversationHistory with
  | some h =>
    let h' := h.appendUser (sessionKey m) text clk.sweep clk.user
    ((h'.get (sessionKey m)).map ChatTurn.toMessage, some h',
      [.appendUser (sessionKey m) text, .get (sessionKey m)])
  | none => ([⟨.user, .text text⟩], none, [])

/-- `request_body`: the history with its last entry replaced by the current turn. -/
def requestBody (m : WebhookMessage) (cleanText : String) (history : List Message) :
    ChatRequest :=
  ⟨"default", history.dropLast ++ [⟨.user, buildContentParts cleanText m.attachments⟩],
    (dictOf [("source", .str m.source)]).update m.metadata⟩

/-- What `relayBegin` leaves: the early response or the pending call, the store, the calls. -/
structure Begun where
  outcome : Except WebhookResponse Pending
  history : Option ConversationHistory
  calls : List Call

/-- `relay` up to its `await` of the upstream. -/
def relayBegin (p : WebhookRelayPipeline) (m : WebhookMessage) (clk : Clocks) : Begun :=
  match gates p m with
  | .error (r, calls) => ⟨.error r, p.conversationHistory, calls⟩
  | .ok (cleanText, calls) =>
    let (history, store, storeCalls) := historyMessages p m cleanText clk
    ⟨.ok ⟨sessionKey m, requestBody m cleanText history⟩, store, calls ++ storeCalls⟩

/-- The `indirect_injection` audit event. -/
def injectionEvent (m : WebhookMessage) (findings : List String) : AuditEvent :=
  ⟨.indirectInjection, "webhook_response_scan", "detected", .high,
    dictOf [("source", .str m.source), ("patterns", .list (findings.map .str))]⟩

/-- The final `relay` audit event. -/
def relayEvent (m : WebhookMessage) (resp : WebhookResponse) : AuditEvent :=
  ⟨.webhookRelay, "relay", if resp.statusCode = 200 then "success" else "error", .info,
    dictOf [("source", .str m.source), ("sender_id", .str m.senderId),
      ("upstream_status", .int resp.statusCode),
      ("attachment_count", .int m.attachments.length)]⟩

/-- The response-scan calls of stage 5. -/
def scanCalls (p : WebhookRelayPipeline) (m : WebhookMessage) (resp : WebhookResponse) :
    List Call :=
  match p.responseScanner with
  | some scan =>
    if resp.statusCode = 200 then
      .scan resp.text ::
        if (scan resp.text).isEmpty = false ∧ p.auditLogger then [.log (injectionEvent m (scan resp.text))]
        else []
    else []
  | none => []

/-- `relay` after the upstream answered `resp`: the store and the calls. -/
def relayFinish (p : WebhookRelayPipeline) (m : WebhookMessage) (sessionId : String)
    (resp : WebhookResponse) (stamp : Int) : Option ConversationHistory × List Call :=
  let (store, storeCalls) : Option ConversationHistory × List Call :=
    match p.conversationHistory with
      | some h =>
        if resp.statusCode = 200 then
          (some (h.appendAssistant sessionId resp.text stamp), [.appendAssistant sessionId resp.text])
        else (some h, [])
      | none => (none, [])
  (store, storeCalls ++ scanCalls p m resp ++ if p.auditLogger then [.log (relayEvent m resp)] else [])

/-- What a whole `relay` leaves: the response, the store and the calls. -/
structure Outcome where
  response : WebhookResponse
  history : Option ConversationHistory
  calls : List Call

/-- `relay`, with `forward` the upstream's answer to a request. -/
def relay (p : WebhookRelayPipeline) (forward : ChatRequest → WebhookResponse)
    (m : WebhookMessage) (clk : Clocks) : Outcome :=
  let b := relayBegin p m clk
  match b.outcome with
  | .error r => ⟨r, b.history, b.calls⟩
  | .ok pend =>
    let resp := forward pend.requestBody
    let (store, calls) :=
      relayFinish { p with conversationHistory := b.history } m pend.sessionId resp clk.assistant
    ⟨resp, store, b.calls ++ .forward pend.requestBody :: calls⟩

end WebhookRelay.Relay
