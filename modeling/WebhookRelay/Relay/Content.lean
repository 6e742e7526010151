import WebhookRelay.History.Store

/-!
# Message content for the upstream request

The module-level helpers of `src/webhook/relay.py`: `_attachment_summary`, the text kept in
history for a turn, and `_build_content_parts`, the multimodal content of the current turn.
Content blocks are the four dict shapes the code builds; `base64.b64encode` is written out
over octets.
-/

namespace WebhookRelay.Relay

open Python History

/-- One block of a multimodal content list. -/
inductive ContentPart where
  /-- `{"type": "text", "text": ...}` -/
  | text (text : String)
  /-- `{"type": "image_url", "image_url": {"url": ...}}` -/
  | imageUrl (url : String)
  /-- `{"type": "input_audio", "input_audio": {"data": ..., "format": ...}}` -/
  | inputAudio (data format : String)
  /-- `{"type": "file", "file": {"filename": ..., "content_type": ..., "data": ...}}` -/
  | file (filename contentType data : String)
  deriving DecidableEq, Repr

/-- A message's `content`: a plain string, or a list of blocks. -/
inductive Content where
  | text (s : String)
  | parts (ps : List ContentPart)
  deriving DecidableEq, Repr

/-- One entry of an OpenAI-style `messages` list. -/
structure Message where
  role : Role
  content : Content
  deriving DecidableEq, Repr

/-- A stored turn, as the `messages` entry it already is. -/
def ChatTurn.toMessage (t : ChatTurn) : Message := ⟨t.role, .text t.content⟩

/-! ## Base64 -/

/-- The standard base64 alphabet. -/
def b64Alphabet : List Char :=
  "ABCDEFGHIJKLMNOPQRSTUVWXYZabcdefghijklmnopqrstuvwxyz0123456789+/".toList

/-- The alphabet's `n`-th character, `n < 64`. -/
def b64Digit (n : Nat) : Char := b64Alphabet.getD n '='

/-- Base64 of an octet list: four characters per three octets, `=`-padded. -/
def b64Chars : List UInt8 → List Char
  | a :: b :: c :: rest =>
    let n := a.toNat * 65536 + b.toNat * 256 + c.toNat
    b64Digit (n / 262144) :: b64Digit (n / 4096 % 64) :: b64Digit (n / 64 % 64) ::
      b64Digit (n % 64) :: b64Chars rest
  | [a, b] =>
    let n := a.toNat * 65536 + b.toNat * 256
    [b64Digit (n / 262144), b64Digit (n / 4096 % 64), b64Digit (n / 64 % 64), '=']
  | [a] =>
    let n := a.toNat * 65536
    [b64Digit (n / 262144), b64Digit (n / 4096 % 64), '=', '=']
  | [] => []

/-- `base64.b64encode(data).decode()`. -/
def b64encode (data : List UInt8) : String := ⟨b64Chars data⟩

example : b64encode [77, 97, 110, 77, 97] = "TWFuTWE=" := by decide

/-! ## History text and content parts -/

/-- `_attachment_summary`. -/
def attachmentSummary (a : Attachment) : String := "[" ++ a.type.value ++ ": " ++ a.fileName ++ "]"

/-- `history_text`: the clean text, then the attachments' summaries, stripped. -/
def historyText (cleanText : String) (attachments : List Attachment) : String :=
  if attachments = [] then cleanText
  else strip (cleanText ++ " " ++ " ".intercalate (attachments.map attachmentSummary))

/-- `mime_type.split("/")[-1].split(";")[0]`. -/
def audioFormat (mimeType : String) : String :=
  (split ((split mimeType '/').getLastD "") ';').headD ""

/-- The text after the last `/` decides the format: its part before the first `;`. -/
theorem audioFormat_append_slash (x y : String) (hy : '/' ∉ y.toList) :
    audioFormat (x ++ "/" ++ y) = (split y ';').headD "" := by
  have hl : (x ++ "/" ++ y).toList = x.toList ++ '/' :: y.toList := by
    simp [String.toList, String.data_append]
  unfold audioFormat split
  rw [hl, splitChars_append_sep, splitChars_of_not_mem hy]
  simp [String.toList]

/-- On `type/subtype` followed by parameters with no `/` in them, the format is the subtype. -/
theorem audioFormat_of_subtype (type subtype params : String) (hs : ';' ∉ subtype.toList)
    (hs' : '/' ∉ subtype.toList) (hp : '/' ∉ params.toList)
    (hparams : params = "" ∨ params.toList.head? = some ';') :
    audioFormat (type ++ "/" ++ subtype ++ params) = subtype := by
  have hy : '/' ∉ (subtype ++ params).toList := by
    simpa [String.toList, String.data_append] using ⟨hs', hp⟩
  rw [String.append_assoc, audioFormat_append_slash _ _ hy]
  unfold split
  rcases hparams with rfl | hh
  · rw [String.append_empty, splitChars_of_not_mem hs]
    rfl
  · obtain ⟨r, hr⟩ : ∃ r, params.toList = ';' :: r := by
      cases h : params.toList with
      | nil => rw [h] at hh; cases hh
      | cons c r => rw [h] at hh; cases hh; exact ⟨r, rfl⟩
    have hl : (subtype ++ params).toList = subtype.toList ++ ';' :: r := by
      show (subtype ++ params).data = _
      rw [String.data_append]
      exact congrArg (subtype.data ++ ·) hr
    rw [hl, splitChars_append_sep, splitChars_of_not_mem hs]
    rfl

theorem audioFormat_of_subtype_ogg_opus :
    ';' ∉ "ogg".toList ∧ '/' ∉ "ogg".toList ∧ '/' ∉ ";codecs=opus".toList ∧
      (";codecs=opus" = "" ∨ ";codecs=opus".toList.head? = some ';') ∧
      audioFormat ("audio" ++ "/" ++ "ogg" ++ ";codecs=opus") = "ogg" :=
  ⟨by decide, by decide, by decide, .inr rfl,
    audioFormat_of_subtype "audio" "ogg" ";codecs=opus" (by decide) (by decide) (by decide)
      (.inr rfl)⟩

/-- The block `_build_content_parts` appends for one attachment. -/
def attachmentPart (a : Attachment) : ContentPart :=
  let encoded := b64encode a.data
  match a.type with
  | .image | .sticker => .imageUrl ("data:" ++ a.mimeType ++ ";base64," ++ encoded)
  | .audio | .voice => .inputAudio encoded (audioFormat a.mimeType)
  | .document | .video => .file a.fileName a.mimeType encoded

/-- `_build_content_parts`. -/
def buildContentParts (text : String) (attachments : List Attachment) : Content :=
  if attachments = [] then .text text
  else .parts (attachments.foldl (fun parts a => parts ++ [attachmentPart a])
    (if text ≠ "" then [.text text] else []))

theorem foldl_attachmentPart (attachments : List Attachment) (init : List ContentPart) :
    attachments.foldl (fun parts a => parts ++ [attachmentPart a]) init =
      init ++ attachments.map attachmentPart := by
  induction attachments generalizing init <;> simp [*]

/-- The loop of `_build_content_parts` appends one block per attachment, in order. -/
theorem buildContentParts_eq (text : String) {attachments : List Attachment}
    (h : attachments ≠ []) :
    buildContentParts text attachments =
      .parts ((if text ≠ "" then [.text text] else []) ++ attachments.map attachmentPart) := by
  simp [buildContentParts, h, foldl_attachmentPart]

/-- A voice attachment whose MIME parameter value holds a `/` gets the text after it as its
`input_audio` format, not the subtype `ogg`. -/
theorem audio_format_after_param_slash :
    buildContentParts "" [⟨.voice, "f", "audio/ogg;codecs=a/b", "voice.ogg", 0, []⟩] =
      .parts [.inputAudio "" "b"] := by
  decide

end WebhookRelay.Relay
