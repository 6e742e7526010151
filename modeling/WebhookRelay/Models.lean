import WebhookRelay.Python.Value

/-!
# Data models of the webhook relay

The records of `src/webhook/models.py`. Bytes are lists of octets and sizes are Python
`int`s. A `WebhookMessage` is built once per inbound update and never changed after.
-/

namespace WebhookRelay

open Python

/-- `AttachmentType`: the attachment kinds Telegram delivers. -/
inductive AttachmentType where
  | image
  | document
  | audio
  | voice
  | video
  | sticker
  deriving DecidableEq, Repr

/-- The enum member's string value. -/
def AttachmentType.value : AttachmentType → String
  | .image => "image"
  | .document => "document"
  | .audio => "audio"
  | .voice => "voice"
  | .video => "video"
  | .sticker => "sticker"

/-- A downloaded file attachment. -/
structure Attachment where
  type : AttachmentType
  fileId : String
  mimeType : String
  fileName : String
  fileSize : Int
  data : List UInt8
  deriving DecidableEq, Repr

/-- A normalized inbound message. -/
structure WebhookMessage where
  source : String
  text : String
  senderId : String
  metadata : Dict PyValue := Dict.empty
  attachments : List Attachment := []

/-- The pipeline's answer to the originating platform. -/
structure WebhookResponse where
  text : String
  statusCode : Int
  deriving DecidableEq, Repr

end WebhookRelay
