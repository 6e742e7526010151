import WebhookRelay.Relay.Pipeline

/-!
# Verifying a webhook call and translating its message

`TelegramRelay.verify_webhook` of `src/webhook/telegram.py` reads the header
`x-telegram-bot-api-secret-token` and compares it with `self._secret_hash`, the SHA-256 hex
digest of the bot token, through `hmac.compare_digest`; a missing or empty header is refused
without a comparison. On two `str`s, `compare_digest` compares them in full when both are ASCII
and raises `TypeError` otherwise. The hash is a parameter: SHA-256 is not modelled, only that a
hex digest is ASCII.

`to_openclaw_request` is the translation of a Telegram text message into the upstream's
request format.

## Main results

* `verifyWebhook_accepts`: with an ASCII secret hash, a call is accepted exactly when its header
  is the hash; `verify_webhook` raises, instead of refusing, exactly when the header is present,
  not empty, and holds a character outside ASCII.
* `relay_request_eq_toOpenclawRequest`: with no history store, `relay` forwards a Telegram text
  message whose metadata is `{"chat_id": chat_id}` as `to_openclaw_request(clean_text, chat_id)`.
-/

namespace WebhookRelay.Telegram

open Python Relay

/-- The header `verify_webhook` reads. -/
def secretTokenHeader : String := "x-telegram-bot-api-secret-token"

/-- Whether a `str` is ASCII, as `compare_digest` requires of both its arguments. -/
def isAscii (s : String) : Bool := s.toList.all (·.toNat < 128)

/-- `hmac.compare_digest(a, b)` on two `str`s. -/
def compareDigest (a b : String) : Except PyException Bool :=
  if isAscii a && isAscii b then .ok (a == b) else .error .typeError

/-- `verify_webhook(headers)`, with `self._secret_hash` as `secretHash`. -/
def verifyWebhook (secretHash : String) (headers : Dict String) : Except PyException Bool :=
  let secret := (headers.get? secretTokenHeader).getD ""
  if secret = "" then .ok false else compareDigest secret secretHash

/-- `to_openclaw_request(text, chat_id)`. -/
def toOpenclawRequest (text : String) (chatId : PyValue) : ChatRequest :=
  ⟨"default", [⟨.user, .text text⟩], dictOf [("source", .str "telegram"), ("chat_id", chatId)]⟩

/-- For every ASCII secret hash, as a hex digest is, and all headers: a call is accepted exactly
when its secret-token header is the hash, never without the header; and `verify_webhook` raises
`TypeError`, rather than refusing, exactly when the header is there, not empty, and holds a
character outside ASCII. -/
theorem verifyWebhook_accepts {secretHash : String} (hascii : isAscii secretHash)
    (headers : Dict String) :
    (verifyWebhook secretHash headers = .ok true ↔
        secretHash ≠ "" ∧ headers.get? secretTokenHeader = some secretHash) ∧
      ∀ e, verifyWebhook secretHash headers = .error e ↔
        e = .typeError ∧ ∃ secret, headers.get? secretTokenHeader = some secret ∧
          secret ≠ "" ∧ isAscii secret = false := by
  cases hh : headers.get? secretTokenHeader with
  | none => simp [verifyWebhook, hh]
  | some secret =>
    by_cases hs : secret = ""
    · subst hs
      simpa [verifyWebhook, hh] using fun h h' => h h'.symm
    · cases ha : isAscii secret with
      | false =>
        have hne : secret ≠ secretHash := fun heq => by rw [heq, hascii] at ha; cases ha
        simpa [verifyWebhook, compareDigest, hh, hs, ha, hne] using fun _ => eq_comm
      | true =>
        simpa [verifyWebhook, compareDigest, hh, hs, ha, hascii] using fun heq => heq ▸ hs

theorem verifyWebhook_accepts_hex_digest :
    let secretHash := "9f86d081884c7d65"
    let headers := dictOf [(secretTokenHeader, "9f86d081884c7d65")]
    isAscii secretHash ∧
      (verifyWebhook secretHash headers = .ok true ↔
          secretHash ≠ "" ∧ headers.get? secretTokenHeader = some secretHash) ∧
        ∀ e, verifyWebhook secretHash headers = .error e ↔
          e = .typeError ∧ ∃ secret, headers.get? secretTokenHeader = some secret ∧
            secret ≠ "" ∧ isAscii secret = false :=
  ⟨by decide, verifyWebhook_accepts (by decide) _⟩

/-- With no history store, whatever the collaborators: a Telegram message of text alone whose
metadata is `{"chat_id": chat_id}`, once through the gates with clean text `clean_text`, is
forwarded as `to_openclaw_request(clean_text, chat_id)`, under the session of its sender. -/
theorem relay_request_eq_toOpenclawRequest (p : WebhookRelayPipeline)
    (hp : p.conversationHistory = none) (text senderId : String) (chatId : PyValue)
    (clk : Clocks) {cleanText : String} {calls : List Call}
    (hg : gates p ⟨"telegram", text, senderId, dictOf [("chat_id", chatId)], []⟩ =
      .ok (cleanText, calls)) :
    (relayBegin p ⟨"telegram", text, senderId, dictOf [("chat_id", chatId)], []⟩ clk).outcome =
      .ok ⟨"telegram:" ++ senderId, toOpenclawRequest cleanText chatId⟩ := by
  simp only [relayBegin, hg, historyMessages, hp]
  rfl

theorem relay_request_eq_toOpenclawRequest_hi :
    let p : WebhookRelayPipeline := ⟨fun s => .ok s, "", "", none, none, none, false, none⟩
    p.conversationHistory = none ∧
      gates p ⟨"telegram", "hi", "42", dictOf [("chat_id", .int 7)], []⟩ =
        .ok ("hi", [.sanitize "hi"]) ∧
      (relayBegin p ⟨"telegram", "hi", "42", dictOf [("chat_id", .int 7)], []⟩ ⟨0, 0, 0⟩).outcome =
        .ok ⟨"telegram:" ++ "42", toOpenclawRequest "hi" (.int 7)⟩ :=
  ⟨rfl, rfl, relay_request_eq_toOpenclawRequest _ rfl _ _ _ _ rfl⟩

end WebhookRelay.Telegram
