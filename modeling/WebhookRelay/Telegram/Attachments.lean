import WebhookRelay.Relay.Pipeline

/-!
# Downloading a message's attachments

`TelegramRelay.build_attachments` of `src/webhook/telegram.py` downloads the files of one
message in order. A download that raises is skipped, and the loop goes on with the next file,
so the result holds one attachment for each download that succeeded, in the order of the
infos (`buildAttachments_fst`).

Each call of `download_file` is given by its outcome: `download i fileId` is what the `i`-th
call, on `fileId`, returns or raises, so every pattern of successes and failures is one
`download`. The audit logger, when present, gets one `file_download` event per success.
-/

namespace WebhookRelay.Telegram

open Python Relay

/-- `TelegramFileInfo`; `file_size` is what the update's JSON holds there. -/
structure TelegramFileInfo where
  fileId : String
  fileType : AttachmentType
  mimeType : String
  fileName : String
  fileSize : PyValue

/-- The `file_download` audit event of one downloaded file. -/
def fileDownloadEvent (info : TelegramFileInfo) (data : List UInt8) (senderId : String) :
    AuditEvent :=
  ⟨.webhookFileDownload, "file_download", "success", .info,
    dictOf [("file_type", .str info.fileType.value), ("mime_type", .str info.mimeType),
      ("file_name", .str info.fileName), ("file_size", .int data.length),
      ("sender_id", .str senderId)]⟩

/-- The attachment built from `info` and its downloaded bytes. -/
def TelegramFileInfo.toAttachment (info : TelegramFileInfo) (data : List UInt8) : Attachment :=
  ⟨info.fileType, info.fileId, info.mimeType, info.fileName, data.length, data⟩

section

variable {ε : Type} (download : Nat → String → Except ε (List UInt8)) (auditLogger : Bool)
  (senderId : String)

/-- The loop of `build_attachments` from the `i`-th info on, with the attachments and audit
events built so far. -/
def buildAttachmentsFrom :
    Nat → List Attachment × List AuditEvent → List TelegramFileInfo →
      List Attachment × List AuditEvent
  | _, acc, [] => acc
  | i, (attachments, events), info :: rest =>
    let acc := match download i info.fileId with
      | .ok data =>
        (attachments ++ [info.toAttachment data],
          if auditLogger then events ++ [fileDownloadEvent info data senderId] else events)
      | .error _ => (attachments, events)
    buildAttachmentsFrom (i + 1) acc rest

/-- `build_attachments(file_infos, audit_logger, sender_id)`: the attachments it returns and
the audit events it logs. -/
def buildAttachments (fileInfos : List TelegramFileInfo) : List Attachment × List AuditEvent :=
  buildAttachmentsFrom download auditLogger senderId 0 ([], []) fileInfos

/-- The attachment of the `i`-th info, when its download succeeded. -/
def downloaded (p : Nat × TelegramFileInfo) : Option (List UInt8) :=
  match download p.1 p.2.fileId with
  | .ok data => some data
  | .error _ => none

@[simp] theorem downloaded_eq_some {p : Nat × TelegramFileInfo} {data : List UInt8} :
    downloaded download p = some data ↔ download p.1 p.2.fileId = .ok data := by
  unfold downloaded
  split <;> simp_all

theorem buildAttachmentsFrom_eq (i : Nat) (acc : List Attachment × List AuditEvent)
    (infos : List TelegramFileInfo) :
    buildAttachmentsFrom download auditLogger senderId i acc infos =
      (acc.1 ++ (infos.enumFrom i).filterMap fun p =>
          (downloaded download p).map p.2.toAttachment,
        acc.2 ++ if auditLogger then (infos.enumFrom i).filterMap fun p =>
          (downloaded download p).map fun data => fileDownloadEvent p.2 data senderId else []) := by
  induction infos generalizing i acc with
  | nil => cases auditLogger <;> simp [buildAttachmentsFrom]
  | cons info rest ih =>
    obtain ⟨attachments, events⟩ := acc
    rw [buildAttachmentsFrom, ih]
    cases h : download i info.fileId <;> cases auditLogger <;> simp [downloaded, h]

end

/-- For every list of infos and every outcome of each download, `build_attachments` returns
one attachment for each info whose download succeeded, in the order of the infos, carrying
the info's kind, file id, MIME type and file name, the downloaded bytes and their length as
`file_size`; an info whose download raised is left out and the loop goes on. -/
theorem buildAttachments_fst {ε : Type} (download : Nat → String → Except ε (List UInt8))
    (auditLogger : Bool) (senderId : String) (fileInfos : List TelegramFileInfo) :
    (buildAttachments download auditLogger senderId fileInfos).1 =
      fileInfos.enum.filterMap fun (i, info) =>
        match download i info.fileId with
        | .ok data => some ⟨info.fileType, info.fileId, info.mimeType, info.fileName,
            data.length, data⟩
        | .error _ => none := by
  rw [buildAttachments, buildAttachmentsFrom_eq, List.enum]
  dsimp only
  rw [List.nil_append]
  congr 1
  funext ⟨i, info⟩
  simp only [downloaded, TelegramFileInfo.toAttachment]
  split <;> rfl

end WebhookRelay.Telegram
