import WebhookRelay.Telegram.Download
import Mathlib.Data.List.Forall2

/-!
# Reading a Telegram update

`TelegramRelay.extract_message` of `src/webhook/telegram.py` reads an update's `update_id`,
its message (`message`, else `edited_message`, else `{}`, by truthiness), the chat id, the text
(`text`, else `caption`, else `""`) and, through `_extract_file_infos`, the file infos of the
message. The update is JSON and none of the annotations (`update_id: int`, `text: str`) is
checked, so the fields are kept as the `PyValue`s the update holds, and every subscript and
`.get` raises what CPython raises on a value of the wrong type.

`_extract_file_infos` is six blocks of one shape (`FileKind`), run in the order photo,
document, audio, voice, video, sticker (`fileKinds`): a block reads one field of the message
and, when its value is truthy, appends the info of its file. The photo block alone reads the
file out of the value, as `photos[-1]`, the largest size.

## Main results

* `extractFileInfos_eq_ok`: `_extract_file_infos` returns exactly one info per kind present
  in the message, in the blocks' order, each read from that kind's field.
* `extractMessage_accepts`: the updates `extract_message` reads without raising.
* `extractMessage_raises`: what it raises otherwise is `KeyError`, `TypeError` or
  `AttributeError`; the truthiness test before `photos[-1]` keeps it from `IndexError`.
* `extractMessage_file_kinds`: the infos of every update it reads are of the kinds present in
  its message, in that order, each kind at most once; `extractMessage_photo_last`: the photo
  info is read from the last size of `photo`.
* `extracted_attachments_kinds`: so are the attachments `build_attachments` makes from them,
  whichever downloads fail.
-/

namespace WebhookRelay.Telegram

open Python Relay

/-- `TelegramFileInfo` as `_extract_file_infos` builds it: each field holds the value the
update has there, whatever its JSON type. -/
structure ExtractedFileInfo where
  fileId : PyValue
  fileType : AttachmentType
  mimeType : PyValue
  fileName : PyValue
  fileSize : PyValue

/-- `TelegramExtraction`. -/
structure TelegramExtraction where
  updateId : PyValue
  text : PyValue
  chatId : PyValue
  fileInfos : List ExtractedFileInfo

/-- How a block fills `mime_type` or `file_name`: a constant, or `obj.get(key, default)`. -/
inductive FieldSource where
  | const (s : String)
  | get (key default : String)

/-- The field's value for the file object `obj`. -/
def FieldSource.read (obj : PyValue) : FieldSource → Except PyException PyValue
  | const s => .ok (.str s)
  | get key default => obj.get key (.str default)

/-- One block of `_extract_file_infos`. -/
structure FileKind where
  /-- the message field the block reads -/
  key : String
  fileType : AttachmentType
  /-- the file object, out of the field's value -/
  select : PyValue → Except PyException PyValue
  mimeType : FieldSource
  fileName : FieldSource

/-- `TelegramFileInfo(file_id=obj["file_id"], ..., file_size=obj.get("file_size", 0))`, its
arguments evaluated left to right. -/
def FileKind.fileInfo (k : FileKind) (obj : PyValue) : Except PyException ExtractedFileInfo := do
  let fileId ← obj.getItem "file_id"
  let mimeType ← k.mimeType.read obj
  let fileName ← k.fileName.read obj
  let fileSize ← obj.get "file_size" (.int 0)
  pure ⟨fileId, k.fileType, mimeType, fileName, fileSize⟩

/-- One block: `value = message.get(key)`, and when it is truthy, the info of its file
appended to `infos`. -/
def FileKind.extractInto (k : FileKind) (message : PyValue) (infos : List ExtractedFileInfo) :
    Except PyException (List ExtractedFileInfo) := do
  let value ← message.get k.key .none
  if value.truthy then
    let obj ← k.select value
    let info ← k.fileInfo obj
    pure (infos ++ [info])
  else pure infos

/-- The photo block: `photos[-1]`, as `image/jpeg` named `photo.jpg`. -/
def photoKind : FileKind :=
  ⟨"photo", .image, PyValue.getItemLast, .const "image/jpeg", .const "photo.jpg"⟩

/-- The document block. -/
def documentKind : FileKind :=
  ⟨"document", .document, pure, .get "mime_type" "application/octet-stream",
    .get "file_name" "document"⟩

/-- The audio block. -/
def audioKind : FileKind :=
  ⟨"audio", .audio, pure, .get "mime_type" "audio/mpeg", .get "file_name" "audio.mp3"⟩

/-- The voice block, named `voice.ogg`. -/
def voiceKind : FileKind :=
  ⟨"voice", .voice, pure, .get "mime_type" "audio/ogg", .const "voice.ogg"⟩

/-- The video block. -/
def videoKind : FileKind :=
  ⟨"video", .video, pure, .get "mime_type" "video/mp4", .get "file_name" "video.mp4"⟩

/-- The sticker block, as `image/webp` named `sticker.webp`. -/
def stickerKind : FileKind :=
  ⟨"sticker", .sticker, pure, .const "image/webp", .const "sticker.webp"⟩

/-- The blocks of `_extract_file_infos`, in the source's order. -/
def fileKinds : List FileKind :=
  [photoKind, documentKind, audioKind, voiceKind, videoKind, stickerKind]

/-- `_extract_file_infos(message)`. -/
def extractFileInfos (message : PyValue) : Except PyException (List ExtractedFileInfo) :=
  fileKinds.foldlM (fun infos k => k.extractInto message infos) []

/-- `update.get("message") or update.get("edited_message") or {}`. -/
def selectMessage (update : PyValue) : Except PyException PyValue := do
  let message ← update.get "message" .none
  if message.truthy then pure message
  else
    let edited ← update.get "edited_message" .none
    pure (if edited.truthy then edited else .dict [])

/-- `message.get("text") or message.get("caption") or ""`. -/
def selectText (message : PyValue) : Except PyException PyValue := do
  let text ← message.get "text" .none
  if text.truthy then pure text
  else
    let caption ← message.get "caption" .none
    pure (if caption.truthy then caption else .str "")

/-- `extract_message(update)`. -/
def extractMessage (update : PyValue) : Except PyException TelegramExtraction := do
  let updateId ← update.getItem "update_id"
  let message ← selectMessage update
  let chat ← message.get "chat" (.dict [])
  let chatId ← chat.get "id" (.int 0)
  let text ← selectText message
  let fileInfos ← extractFileInfos message
  pure ⟨updateId, text, chatId, fileInfos⟩

/-! ## One block -/

/-- The value of a block's field in a dict message, `None` when the field is missing. -/
def FileKind.value (k : FileKind) (items : List (String × PyValue)) : PyValue :=
  (lookup items k.key).getD .none

/-- Whether a block appends an info: its field holds a truthy value. -/
def FileKind.present (k : FileKind) (items : List (String × PyValue)) : Bool :=
  (k.value items).truthy

/-- The info a block reads from its field's value. -/
def FileKind.fileOf (k : FileKind) (value : PyValue) : Except PyException ExtractedFileInfo :=
  k.select value >>= k.fileInfo

theorem FileKind.extractInto_dict (k : FileKind) (items : List (String × PyValue))
    (infos : List ExtractedFileInfo) :
    k.extractInto (.dict items) infos =
      if k.present items then (infos ++ [·]) <$> k.fileOf (k.value items) else .ok infos := by
  unfold extractInto fileOf present value
  split_ifs with h
  · simp only [PyValue.get, bind, Except.bind, h, if_true, Functor.map, Except.map]
    cases k.select ((lookup items k.key).getD .none) with
    | error e => rfl
    | ok obj => cases k.fileInfo obj <;> rfl
  · simp [PyValue.get, bind, Except.bind, h, pure, Except.pure]

/-- On a dict a field's read never raises. -/
theorem FieldSource.read_dict (s : FieldSource) (items : List (String × PyValue)) :
    ∃ v, s.read (.dict items) = .ok v := by
  cases s <;> simp [read, PyValue.get]

/-- A block reads a file exactly when it is a dict with a `file_id`, which the info keeps. -/
theorem FileKind.fileInfo_eq_ok {k : FileKind} {obj : PyValue} {info : ExtractedFileInfo} :
    k.fileInfo obj = .ok info ↔
      ∃ items, obj = .dict items ∧ lookup items "file_id" = some info.fileId ∧
        info.fileType = k.fileType ∧ k.mimeType.read obj = .ok info.mimeType ∧
        k.fileName.read obj = .ok info.fileName ∧
        info.fileSize = (lookup items "file_size").getD (.int 0) := by
  simp only [fileInfo, except_bind_eq_ok, PyValue.getItem_eq_ok, pure, Except.pure,
    Except.ok.injEq]
  constructor
  · rintro ⟨_, ⟨items, rfl, hid⟩, _, hm, _, hn, _, hz, rfl⟩
    simp only [PyValue.get, Except.ok.injEq] at hz
    exact ⟨items, rfl, hid, rfl, hm, hn, hz.symm⟩
  · obtain ⟨fileId, fileType, mimeType, fileName, fileSize⟩ := info
    rintro ⟨items, rfl, hid, rfl, hm, hn, rfl⟩
    exact ⟨_, ⟨items, rfl, hid⟩, _, hm, _, hn, _, rfl, rfl⟩

theorem FileKind.fileInfo_dict (k : FileKind) {file : List (String × PyValue)} {fileId : PyValue}
    (h : lookup file "file_id" = some fileId) : ∃ info, k.fileInfo (.dict file) = .ok info := by
  obtain ⟨m, hm⟩ := k.mimeType.read_dict file
  obtain ⟨n, hn⟩ := k.fileName.read_dict file
  exact ⟨⟨fileId, k.fileType, m, n, (lookup file "file_size").getD (.int 0)⟩,
    FileKind.fileInfo_eq_ok.mpr ⟨file, rfl, h, rfl, hm, hn, rfl⟩⟩

theorem FileKind.fileInfo_eq_error {k : FileKind} {obj : PyValue} {e : PyException}
    (h : k.fileInfo obj = .error e) : e = .keyError ∨ e = .typeError := by
  cases obj with
  | dict items =>
    obtain ⟨_, hm⟩ := k.mimeType.read_dict items
    obtain ⟨_, hn⟩ := k.fileName.read_dict items
    cases hid : lookup items "file_id" <;>
      simp_all [fileInfo, PyValue.getItem, PyValue.get, bind, Except.bind, pure, Except.pure]
  | _ => simp_all [fileInfo, PyValue.getItem, bind, Except.bind]

/-- A block reads its field's value exactly when the file it selects there is a dict holding
`file_id`. -/
theorem FileKind.fileOf_isOk {k : FileKind} {v : PyValue} :
    (∃ info, k.fileOf v = .ok info) ↔
      ∃ file, k.select v = .ok (.dict file) ∧ (lookup file "file_id").isSome := by
  constructor
  · rintro ⟨_, h⟩
    obtain ⟨_, hs, hi⟩ := except_bind_eq_ok.mp h
    obtain ⟨file, rfl, hid, -⟩ := FileKind.fileInfo_eq_ok.mp hi
    exact ⟨file, hs, by simp [hid]⟩
  · rintro ⟨file, hs, hid⟩
    obtain ⟨_, hid⟩ := Option.isSome_iff_exists.mp hid
    obtain ⟨info, hi⟩ := k.fileInfo_dict hid
    exact ⟨info, except_bind_eq_ok.mpr ⟨_, hs, hi⟩⟩

theorem FileKind.fileOf_fileType {k : FileKind} {v : PyValue} {info : ExtractedFileInfo}
    (h : k.fileOf v = .ok info) : info.fileType = k.fileType := by
  obtain ⟨_, -, hi⟩ := except_bind_eq_ok.mp h
  obtain ⟨_, -, -, ht, -⟩ := FileKind.fileInfo_eq_ok.mp hi
  exact ht

/-! ## The loop

The loop is stated as a `List.Forall₂` between the blocks that find a file and the infos, with
these three facts about `Forall₂`. -/

theorem map_eq_of_forall₂ {α β γ : Type} {R : α → β → Prop} {f : α → γ} {g : β → γ}
    {l : List α} {u : List β} (h : List.Forall₂ R l u) (hfg : ∀ a b, R a b → f a = g b) :
    l.map f = u.map g := by
  induction h with
  | nil => rfl
  | cons hab _ ih => simp [hfg _ _ hab, ih]

theorem forall₂_exists_of_mem_right {α β : Type} {R : α → β → Prop} {l : List α} {u : List β}
    (h : List.Forall₂ R l u) {b : β} (hb : b ∈ u) : ∃ a ∈ l, R a b := by
  induction h with
  | nil => cases hb
  | cons hab _ ih =>
    rcases List.mem_cons.mp hb with rfl | hb
    · exact ⟨_, List.mem_cons_self _ _, hab⟩
    · obtain ⟨a, ha, h⟩ := ih hb
      exact ⟨a, List.mem_cons_of_mem _ ha, h⟩

theorem forall₂_exists_of_mem_left {α β : Type} {R : α → β → Prop} {l : List α} {u : List β}
    (h : List.Forall₂ R l u) {a : α} (ha : a ∈ l) : ∃ b ∈ u, R a b :=
  forall₂_exists_of_mem_right (List.Forall₂.flip (R := flip R) h) ha

theorem exists_forall₂_of_forall {α β : Type} {R : α → β → Prop} :
    ∀ {l : List α}, (∀ a ∈ l, ∃ b, R a b) → ∃ u, List.Forall₂ R l u
  | [], _ => ⟨[], .nil⟩
  | a :: l, h => by
    obtain ⟨b, hb⟩ := h a (List.mem_cons_self a l)
    obtain ⟨u, hu⟩ := exists_forall₂_of_forall fun a' ha' => h a' (List.mem_cons_of_mem a ha')
    exact ⟨b :: u, .cons hb hu⟩

/-- The blocks of `table` run on a dict message from `acc`: they append one info per block
whose field is truthy, in the table's order, each read from that field. -/
theorem foldlM_extractInto_eq_ok (items : List (String × PyValue)) (table : List FileKind)
    (acc infos' : List ExtractedFileInfo) :
    table.foldlM (fun infos k => k.extractInto (.dict items) infos) acc = .ok infos' ↔
      ∃ infos, infos' = acc ++ infos ∧
        List.Forall₂ (fun k info => k.fileOf (k.value items) = .ok info)
          (table.filter (·.present items)) infos := by
  induction table generalizing acc with
  | nil => simp [pure, Except.pure, eq_comm]
  | cons k table ih =>
    rw [List.foldlM_cons, FileKind.extractInto_dict]
    by_cases hk : k.present items
    · simp only [hk, if_true, List.filter_cons]
      cases hf : k.fileOf (k.value items) with
      | error e => simp [Functor.map, Except.map, bind, Except.bind, List.forall₂_cons_left_iff, hf]
      | ok info =>
        simp only [Functor.map, Except.map, bind, Except.bind, ih, List.forall₂_cons_left_iff,
          hf, Except.ok.injEq]
        constructor
        · rintro ⟨infos, rfl, hr⟩
          exact ⟨info :: infos, by simp, info, infos, rfl, hr, rfl⟩
        · rintro ⟨_, rfl, _, infos, rfl, hr, rfl⟩
          exact ⟨infos, by simp, hr⟩
    · simp only [hk, if_false, List.filter_cons]
      exact ih acc

theorem foldlM_extractInto_eq_error (items : List (String × PyValue)) (table : List FileKind)
    (acc : List ExtractedFileInfo) {e : PyException}
    (h : table.foldlM (fun infos k => k.extractInto (.dict items) infos) acc = .error e) :
    ∃ k ∈ table, k.present items ∧ k.fileOf (k.value items) = .error e := by
  induction table generalizing acc with
  | nil => cases h
  | cons k table ih =>
    rw [List.foldlM_cons, except_bind_eq_error, FileKind.extractInto_dict] at h
    rcases h with h | ⟨acc', -, h⟩
    · by_cases hk : k.present items
      · rw [if_pos hk] at h
        cases hf : k.fileOf (k.value items) <;> simp_all [Functor.map, Except.map]
      · simp [hk] at h
    · obtain ⟨k', hk', h'⟩ := ih acc' h
      exact ⟨k', List.mem_cons_of_mem _ hk', h'⟩

/-- For every message, `_extract_file_infos` returns exactly: for each block whose field is
truthy, in the order photo, document, audio, voice, video, sticker, the info that block reads
from that field; and only on a dict message. -/
theorem extractFileInfos_eq_ok {message : PyValue} {infos : List ExtractedFileInfo} :
    extractFileInfos message = .ok infos ↔
      ∃ items, message = .dict items ∧
        List.Forall₂ (fun k info => k.fileOf (k.value items) = .ok info)
          (fileKinds.filter (·.present items)) infos := by
  cases message with
  | dict items => simp [extractFileInfos, foldlM_extractInto_eq_ok]
  | _ =>
    simp [extractFileInfos, fileKinds, List.foldlM_cons, FileKind.extractInto, PyValue.get,
      bind, Except.bind]

/-- The file objects a block reads: on a truthy field its select never hits `IndexError`. -/
theorem FileKind.select_eq_error {k : FileKind} (hk : k ∈ fileKinds) {v : PyValue} {e : PyException}
    (hv : v.truthy) (h : k.select v = .error e) : e = .keyError ∨ e = .typeError := by
  simp only [fileKinds, List.mem_cons, List.mem_singleton, List.not_mem_nil, or_false] at hk
  rcases hk with rfl | rfl | rfl | rfl | rfl | rfl
  · exact PyValue.getItemLast_eq_error hv h
  all_goals cases h

theorem extractFileInfos_eq_error {message : PyValue} {e : PyException}
    (h : extractFileInfos message = .error e) :
    e = .keyError ∨ e = .typeError ∨ e = .attributeError := by
  cases message with
  | dict items =>
    obtain ⟨k, hk, hp, hf⟩ := foldlM_extractInto_eq_error items fileKinds [] h
    rcases except_bind_eq_error.mp hf with hs | ⟨obj, -, hi⟩
    · exact (k.select_eq_error hk hp hs).imp_right .inl
    · exact (k.fileInfo_eq_error hi).imp_right .inl
  | _ =>
    simp [extractFileInfos, fileKinds, List.foldlM_cons, FileKind.extractInto, PyValue.get,
      bind, Except.bind] at h
    simp [h]

/-! ## The whole update -/

theorem selectMessage_eq_error {update : PyValue} {e : PyException}
    (h : selectMessage update = .error e) : e = .attributeError := by
  cases update <;> simp_all [selectMessage, PyValue.get, bind, Except.bind]
  split_ifs at h <;> cases h

theorem selectText_eq_error {message : PyValue} {e : PyException}
    (h : selectText message = .error e) : e = .attributeError := by
  cases message <;> simp_all [selectText, PyValue.get, bind, Except.bind]
  split_ifs at h <;> cases h

theorem selectText_dict (items : List (String × PyValue)) :
    ∃ text, selectText (.dict items) = .ok text := by
  simp only [selectText, PyValue.get, bind, Except.bind]
  split_ifs <;> exact ⟨_, rfl⟩

theorem extractMessage_eq_ok {update : PyValue} {r : TelegramExtraction} :
    extractMessage update = .ok r ↔
      update.getItem "update_id" = .ok r.updateId ∧
      ∃ message, selectMessage update = .ok message ∧
        (∃ chat, message.get "chat" (.dict []) = .ok chat ∧ chat.get "id" (.int 0) = .ok r.chatId) ∧
        selectText message = .ok r.text ∧ extractFileInfos message = .ok r.fileInfos := by
  simp only [extractMessage, except_bind_eq_ok, pure, Except.pure, Except.ok.injEq]
  constructor
  · rintro ⟨_, hu, m, hm, c, hc, _, hi, _, ht, _, hf, rfl⟩
    exact ⟨hu, m, hm, ⟨c, hc, hi⟩, ht, hf⟩
  · obtain ⟨_, _, _, _⟩ := r
    rintro ⟨hu, m, hm, ⟨c, hc, hi⟩, ht, hf⟩
    exact ⟨_, hu, m, hm, c, hc, _, hi, _, ht, _, hf, rfl⟩

/-- The kinds of the infos `_extract_file_infos` returns: those of the blocks whose field is
truthy, in the blocks' order. -/
theorem extractFileInfos_kinds {items : List (String × PyValue)} {infos : List ExtractedFileInfo}
    (h : extractFileInfos (.dict items) = .ok infos) :
    infos.map (·.fileType) = (fileKinds.filter (·.present items)).map (·.fileType) := by
  obtain ⟨_, he, hr⟩ := extractFileInfos_eq_ok.mp h
  cases he
  exact (map_eq_of_forall₂ hr fun _ _ h => (FileKind.fileOf_fileType h).symm).symm

/-- For every update `extract_message` reads, its message is a dict and the file infos are
of the kinds present in it, one per kind, in the order photo, document, audio, voice, video,
sticker. -/
theorem extractMessage_file_kinds {update : PyValue} {r : TelegramExtraction}
    (h : extractMessage update = .ok r) :
    ∃ message, selectMessage update = .ok (.dict message) ∧
      r.fileInfos.map (·.fileType) = (fileKinds.filter (·.present message)).map (·.fileType) := by
  obtain ⟨-, m, hm, ⟨_, hc, -⟩, -, hf⟩ := extractMessage_eq_ok.mp h
  obtain ⟨items, rfl, -⟩ := PyValue.get_eq_ok.mp hc
  exact ⟨items, hm, extractFileInfos_kinds hf⟩

/-- A document sent before the photo sizes still comes second. -/
theorem extractMessage_file_kinds_photo_first :
    let update : PyValue := .dict [("update_id", .int 1),
      ("message", .dict [("chat", .dict [("id", .int 7)]), ("document", .dict [("file_id", .str "d")]),
        ("photo", .list [.dict [("file_id", .str "s")], .dict [("file_id", .str "l")]])])]
    let r : TelegramExtraction := ⟨.int 1, .str "", .int 7,
      [⟨.str "l", .image, .str "image/jpeg", .str "photo.jpg", .int 0⟩,
        ⟨.str "d", .document, .str "application/octet-stream", .str "document", .int 0⟩]⟩
    extractMessage update = .ok r ∧
      ∃ message, selectMessage update = .ok (.dict message) ∧
        r.fileInfos.map (·.fileType) = (fileKinds.filter (·.present message)).map (·.fileType) :=
  ⟨rfl, extractMessage_file_kinds rfl⟩

/-- The image info of every update `extract_message` reads comes from the last entry of the
message's `photo` list, the largest size: its `file_id` is that entry's. -/
theorem extractMessage_photo_last {update : PyValue} {r : TelegramExtraction}
    {info : ExtractedFileInfo} (h : extractMessage update = .ok r) (hi : info ∈ r.fileInfos)
    (himage : info.fileType = .image) :
    ∃ message sizes largest, selectMessage update = .ok (.dict message) ∧
      lookup message "photo" = some (.list sizes) ∧ sizes.getLast? = some (.dict largest) ∧
      lookup largest "file_id" = some info.fileId := by
  obtain ⟨-, m, hm, -, -, hf⟩ := extractMessage_eq_ok.mp h
  obtain ⟨items, rfl, hr⟩ := extractFileInfos_eq_ok.mp hf
  obtain ⟨k, hk, hki⟩ := forall₂_exists_of_mem_right hr hi
  have hphoto : k = photoKind := by
    have ht := (FileKind.fileOf_fileType hki).symm.trans himage
    have hk := (List.mem_filter.mp hk).1
    simp only [fileKinds, List.mem_cons, List.mem_singleton, List.not_mem_nil, or_false] at hk
    rcases hk with rfl | rfl | rfl | rfl | rfl | rfl <;> first | rfl | cases ht
  subst hphoto
  obtain ⟨obj, hs, hinfo⟩ := except_bind_eq_ok.mp hki
  obtain ⟨file, rfl, hid, -⟩ := FileKind.fileInfo_eq_ok.mp hinfo
  obtain ⟨sizes, hv, hlast⟩ := PyValue.getItemLast_eq_ok_dict.mp hs
  refine ⟨items, sizes, file, hm, ?_, hlast, hid⟩
  unfold FileKind.value at hv
  cases hl : lookup items photoKind.key <;> simp_all [photoKind]

theorem extractMessage_photo_last_of_two_sizes :
    let update : PyValue := .dict [("update_id", .int 1),
      ("message", .dict [("chat", .dict [("id", .int 7)]), ("document", .dict [("file_id", .str "d")]),
        ("photo", .list [.dict [("file_id", .str "s")], .dict [("file_id", .str "l")]])])]
    let r : TelegramExtraction := ⟨.int 1, .str "", .int 7,
      [⟨.str "l", .image, .str "image/jpeg", .str "photo.jpg", .int 0⟩,
        ⟨.str "d", .document, .str "application/octet-stream", .str "document", .int 0⟩]⟩
    let info : ExtractedFileInfo := ⟨.str "l", .image, .str "image/jpeg", .str "photo.jpg", .int 0⟩
    extractMessage update = .ok r ∧ info ∈ r.fileInfos ∧ info.fileType = .image ∧
      ∃ message sizes largest, selectMessage update = .ok (.dict message) ∧
        lookup message "photo" = some (.list sizes) ∧ sizes.getLast? = some (.dict largest) ∧
        lookup largest "file_id" = some info.fileId :=
  ⟨rfl, List.mem_cons_self _ _, rfl,
    extractMessage_photo_last rfl (List.mem_cons_self _ _) rfl⟩

/-- For every update, `extract_message` raises only `KeyError`, `TypeError` or
`AttributeError`: the truthiness test before `photos[-1]` keeps it from `IndexError`. -/
theorem extractMessage_raises {update : PyValue} {e : PyException}
    (h : extractMessage update = .error e) :
    e = .keyError ∨ e = .typeError ∨ e = .attributeError := by
  simp only [extractMessage, except_bind_eq_error, pure, Except.pure, reduceCtorEq, and_false,
    exists_false, or_false] at h
  rcases h with h | ⟨_, -, h | ⟨_, -, h | ⟨_, -, h | ⟨_, -, h | ⟨_, -, h⟩⟩⟩⟩⟩
  · exact (PyValue.getItem_eq_error h).imp_right .inl
  · exact .inr (.inr (selectMessage_eq_error h))
  · exact .inr (.inr (PyValue.get_eq_error h))
  · exact .inr (.inr (PyValue.get_eq_error h))
  · exact .inr (.inr (selectText_eq_error h))
  · exact extractFileInfos_eq_error h

/-- A `photo` that is one object instead of a list of sizes: `photos[-1]` raises `KeyError`. -/
theorem extractMessage_raises_on_photo_object :
    let update : PyValue :=
      .dict [("update_id", .int 1), ("message", .dict [("photo", .dict [("file_id", .str "p")])])]
    extractMessage update = .error .keyError ∧
      (PyException.keyError = .keyError ∨ PyException.keyError = .typeError ∨
        PyException.keyError = .attributeError) := by
  intro update
  exact ⟨rfl, @extractMessage_raises update _ rfl⟩

/-- The updates `extract_message` reads without raising: a dict with an `update_id`, whose
message (`message`, else `edited_message`, else `{}`) is a dict whose `chat` is missing or a
dict, and in which every truthy file field leads to a dict with a `file_id`, for `photo` the
last entry of a list. -/
theorem extractMessage_accepts {update : PyValue} :
    (∃ r, extractMessage update = .ok r) ↔
      ∃ items message chat, update = .dict items ∧ (lookup items "update_id").isSome ∧
        selectMessage update = .ok (.dict message) ∧
        (lookup message "chat").getD (.dict []) = .dict chat ∧
        ∀ k ∈ fileKinds, k.present message →
          ∃ file, k.select (k.value message) = .ok (.dict file) ∧
            (lookup file "file_id").isSome := by
  constructor
  · rintro ⟨r, h⟩
    obtain ⟨hu, m, hm, ⟨c, hc, hi⟩, -, hf⟩ := extractMessage_eq_ok.mp h
    obtain ⟨items, rfl, hid⟩ := PyValue.getItem_eq_ok.mp hu
    obtain ⟨message, rfl, hr⟩ := extractFileInfos_eq_ok.mp hf
    obtain ⟨chat, rfl, -⟩ := PyValue.get_eq_ok.mp hi
    refine ⟨items, message, chat, rfl, by simp [hid], hm, by simpa [PyValue.get] using hc,
      fun k hk hp => ?_⟩
    obtain ⟨info, -, hki⟩ := forall₂_exists_of_mem_left hr (List.mem_filter.mpr ⟨hk, hp⟩)
    exact FileKind.fileOf_isOk.mp ⟨info, hki⟩
  · rintro ⟨items, message, chat, rfl, hu, hm, hc, hk⟩
    obtain ⟨infos, hr⟩ := exists_forall₂_of_forall
      (R := fun (k : FileKind) info => k.fileOf (k.value message) = .ok info) fun k hk' =>
        FileKind.fileOf_isOk.mpr (hk k (List.mem_filter.mp hk').1 (List.mem_filter.mp hk').2)
    obtain ⟨updateId, hid⟩ := Option.isSome_iff_exists.mp hu
    obtain ⟨text, ht⟩ := selectText_dict message
    exact ⟨⟨updateId, text, (lookup chat "id").getD (.int 0), infos⟩,
      extractMessage_eq_ok.mpr ⟨by simp [PyValue.getItem, hid], _, hm,
        ⟨.dict chat, by simp [PyValue.get, hc], rfl⟩, ht,
        extractFileInfos_eq_ok.mpr ⟨message, rfl, hr⟩⟩⟩

/-! ## From an update to its attachments -/

/-- The `TelegramFileInfo` of an extracted info whose `file_id`, `mime_type` and `file_name`
are strings, as the Bot API sends them. -/
def ExtractedFileInfo.toFileInfo? (info : ExtractedFileInfo) : Option TelegramFileInfo :=
  match info.fileId, info.mimeType, info.fileName with
  | .str fileId, .str mimeType, .str fileName =>
    some ⟨fileId, info.fileType, mimeType, fileName, info.fileSize⟩
  | _, _, _ => none

theorem ExtractedFileInfo.toFileInfo?_fileType {info : ExtractedFileInfo} {fi : TelegramFileInfo}
    (h : info.toFileInfo? = some fi) : fi.fileType = info.fileType := by
  unfold toFileInfo? at h
  split at h <;> cases h
  rfl

section

variable {ε : Type} (download : Nat → String → Except ε (List UInt8)) (auditLogger : Bool)
  (senderId : String)

/-- The loop of `build_attachments` keeps the kinds of the infos whose download succeeded. -/
theorem buildAttachmentsFrom_types_sublist (i : Nat) (acc : List Attachment × List AuditEvent)
    (infos : List TelegramFileInfo) :
    ((buildAttachmentsFrom download auditLogger senderId i acc infos).1.map (·.type)).Sublist
      (acc.1.map (·.type) ++ infos.map (·.fileType)) := by
  induction infos generalizing i acc with
  | nil => simp [buildAttachmentsFrom]
  | cons info rest ih =>
    rw [buildAttachmentsFrom]
    refine (ih _ _).trans ?_
    cases download i info.fileId <;> simp [TelegramFileInfo.toAttachment]

/-- For every update `extract_message` reads whose file infos carry string ids, MIME types and
names, and every outcome of each download: the attachments `build_attachments` makes from those
infos are of kinds present in the message, in the order photo, document, audio, voice, video,
sticker, at most one of each. -/
theorem extracted_attachments_kinds {update : PyValue} {r : TelegramExtraction}
    {fileInfos : List TelegramFileInfo} (h : extractMessage update = .ok r)
    (hs : List.Forall₂ (fun info fi => info.toFileInfo? = some fi) r.fileInfos fileInfos) :
    ∃ message, selectMessage update = .ok (.dict message) ∧
      ((buildAttachments download auditLogger senderId fileInfos).1.map (·.type)).Sublist
        ((fileKinds.filter (·.present message)).map (·.fileType)) := by
  obtain ⟨-, m, hm, ⟨_, hc, -⟩, -, hf⟩ := extractMessage_eq_ok.mp h
  obtain ⟨items, rfl, -⟩ := PyValue.get_eq_ok.mp hc
  refine ⟨items, hm, ?_⟩
  rw [← extractFileInfos_kinds hf,
    map_eq_of_forall₂ hs fun _ _ h => (ExtractedFileInfo.toFileInfo?_fileType h).symm]
  simpa using buildAttachmentsFrom_types_sublist download auditLogger senderId 0 ([], []) fileInfos

theorem extracted_attachments_kinds_photo_document :
    let update : PyValue := .dict [("update_id", .int 1),
      ("message", .dict [("chat", .dict [("id", .int 7)]), ("document", .dict [("file_id", .str "d")]),
        ("photo", .list [.dict [("file_id", .str "s")], .dict [("file_id", .str "l")]])])]
    let r : TelegramExtraction := ⟨.int 1, .str "", .int 7,
      [⟨.str "l", .image, .str "image/jpeg", .str "photo.jpg", .int 0⟩,
        ⟨.str "d", .document, .str "application/octet-stream", .str "document", .int 0⟩]⟩
    let fileInfos : List TelegramFileInfo := [⟨"l", .image, "image/jpeg", "photo.jpg", .int 0⟩,
      ⟨"d", .document, "application/octet-stream", "document", .int 0⟩]
    let download : Nat → String → Except Unit (List UInt8) := fun _ _ => .ok []
    extractMessage update = .ok r ∧
      List.Forall₂ (fun info fi => info.toFileInfo? = some fi) r.fileInfos fileInfos ∧
      ∃ message, selectMessage update = .ok (.dict message) ∧
        ((buildAttachments download false "" fileInfos).1.map (·.type)).Sublist
          ((fileKinds.filter (·.present message)).map (·.fileType)) :=
  ⟨rfl, .cons rfl (.cons rfl .nil),
    extracted_attachments_kinds _ false "" rfl (.cons rfl (.cons rfl .nil))⟩

end

end WebhookRelay.Telegram
