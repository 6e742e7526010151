import WebhookRelay.Telegram.Attachments

/-!
# Downloading one file

`TelegramRelay.download_file` of `src/webhook/telegram.py` GETs `getFile` for the file's path
and reported size, then GETs the file. It raises at the first failure: `raise_for_status` on a
status outside 2xx, `ValueError` on a not-ok answer and on a reported or downloaded size over
`_MAX_FILE_SIZE`, and the JSON lookups with what CPython raises there.

The platform is a function `get` from URL to what `client.get` returns, `none` when it raises.
The two URLs of one call never coincide, so this loses no behaviour of the platform.

Proved: the `getFile` answers that give a path are exactly the 2xx JSON objects with a truthy
`ok`, an object `result` holding a `file_path`, and a `file_size` not over the cap
(`lookupFilePath_eq_ok`); a download returns exactly the content of the second GET, at that
path, when it succeeds and is not over the cap either (`downloadFile_eq_ok`), so at most
20 MiB; its outcome depends on the platform only at URLs under `https://api.telegram.org/`,
whatever the file id and the answers, so no other host is ever asked (`downloadFile_congr`);
and every attachment `build_attachments` makes from these downloads holds at most 20 MiB
(`buildAttachments_size_le`).
-/

namespace WebhookRelay.Telegram

open Python

/-- `_MAX_FILE_SIZE`. -/
def maxFileSize : Nat := 20 * 1024 * 1024

/-- What `client.get` returns: the status, what `resp.json()` returns or raises, and
`resp.content`. -/
structure GetResponse where
  statusCode : Int
  json : Except PyException PyValue
  content : List UInt8

/-- What `download_file` raises. -/
inductive DownloadError where
  /-- an `httpx.HTTPError` raised by `client.get` -/
  | httpError
  /-- `httpx.HTTPStatusError`, raised by `raise_for_status` -/
  | httpStatusError
  /-- `ValueError(msg)` -/
  | valueError (msg : String)
  /-- raised by `resp.json()` or by a lookup in what it returned -/
  | raised (e : PyException)
  deriving DecidableEq, Repr

/-- `client.get(url)`. -/
def clientGet (get : String → Option GetResponse) (url : String) :
    Except DownloadError GetResponse :=
  match get url with
  | some resp => .ok resp
  | none => .error .httpError

/-- `resp.raise_for_status()`: httpx raises on every status outside 2xx. -/
def raiseForStatus (resp : GetResponse) : Except DownloadError Unit :=
  if 200 ≤ resp.statusCode ∧ resp.statusCode < 300 then .ok () else .error .httpStatusError

/-- `get_file_url`. -/
def getFileUrl (botToken fileId : String) : String :=
  "https://api.telegram.org/bot" ++ botToken ++ "/getFile" ++ "?file_id=" ++ fileId

/-- `download_url`, around `str(file_path)`. -/
def downloadUrl (botToken : String) (filePath : PyValue) : String :=
  "https://api.telegram.org/file/bot" ++ botToken ++ "/" ++ filePath.toStr

/-- The `getFile` answer, from `raise_for_status` to the reported size's check: the
`file_path` to fetch. The source reads `data["result"]` twice, to the same value. -/
def lookupFilePath (resp : GetResponse) : Except DownloadError PyValue := do
  raiseForStatus resp
  let data ← resp.json.mapError .raised
  let ok ← (data.get "ok" .none).mapError .raised
  if !ok.truthy then
    throw (.valueError ("Telegram getFile returned not-ok: " ++ data.toStr))
  let result ← (data.getItem "result").mapError .raised
  let filePath ← (result.getItem "file_path").mapError .raised
  let fileSize ← (result.get "file_size" (.int 0)).mapError .raised
  if ← (fileSize.gtInt maxFileSize).mapError .raised then
    throw (.valueError ("File too large: " ++ fileSize.toStr ++ " bytes (max " ++
      toString maxFileSize ++ ")"))
  pure filePath

/-- The file's GET answer: `raise_for_status`, then the downloaded size's check. -/
def checkContent (fileResp : GetResponse) : Except DownloadError (List UInt8) := do
  raiseForStatus fileResp
  let content := fileResp.content
  if content.length > maxFileSize then
    throw (.valueError ("Downloaded file too large: " ++ toString content.length ++
      " bytes (max " ++ toString maxFileSize ++ ")"))
  pure content

/-- `download_file(file_id)`. -/
def downloadFile (get : String → Option GetResponse) (botToken fileId : String) :
    Except DownloadError (List UInt8) := do
  let resp ← clientGet get (getFileUrl botToken fileId)
  let filePath ← lookupFilePath resp
  let fileResp ← clientGet get (downloadUrl botToken filePath)
  checkContent fileResp

/-! ## What a download returns -/

theorem except_bind_eq_ok {ε α β : Type} {x : Except ε α} {f : α → Except ε β} {b : β} :
    x >>= f = .ok b ↔ ∃ a, x = .ok a ∧ f a = .ok b := by
  cases x <;> simp [bind, Except.bind]

theorem except_bind_eq_error {ε α β : Type} {x : Except ε α} {f : α → Except ε β} {e : ε} :
    x >>= f = .error e ↔ x = .error e ∨ ∃ a, x = .ok a ∧ f a = .error e := by
  cases x <;> simp [bind, Except.bind]

@[simp] theorem clientGet_eq_ok {get : String → Option GetResponse} {url : String}
    {resp : GetResponse} : clientGet get url = .ok resp ↔ get url = some resp := by
  unfold clientGet
  split <;> simp_all

theorem mapError_eq_ok {ε ε' α : Type} {f : ε → ε'} {x : Except ε α} {a : α} :
    x.mapError f = .ok a ↔ x = .ok a := by
  cases x <;> simp [Except.mapError]

theorem raiseForStatus_eq_ok {resp : GetResponse} {u : Unit} :
    raiseForStatus resp = .ok u ↔ 200 ≤ resp.statusCode ∧ resp.statusCode < 300 := by
  unfold raiseForStatus
  split <;> simp_all

/-- The `getFile` answers that give a path: a 2xx status, a JSON object whose `ok` is truthy
and whose `result` is an object with a `file_path`, and a `file_size` that is missing or
compares as at most 20 MiB. -/
theorem lookupFilePath_eq_ok {resp : GetResponse} {filePath : PyValue} :
    lookupFilePath resp = .ok filePath ↔
      (200 ≤ resp.statusCode ∧ resp.statusCode < 300) ∧
      ∃ items result, resp.json = .ok (.dict items) ∧ ((lookup items "ok").getD .none).truthy ∧
        lookup items "result" = some (.dict result) ∧ lookup result "file_path" = some filePath ∧
        ((lookup result "file_size").getD (.int 0)).gtInt maxFileSize = .ok false := by
  simp only [lookupFilePath, except_bind_eq_ok, mapError_eq_ok, PyValue.get_eq_ok,
    PyValue.getItem_eq_ok, ite_eq_iff, raiseForStatus_eq_ok, pure, Except.pure, Except.ok.injEq,
    exists_const, reduceCtorEq, false_and, and_false, false_or, true_and]
  constructor
  · rintro ⟨hs, _, hj, _, ⟨items, rfl, rfl⟩, hok, _, ⟨_, he, hr⟩, _, ⟨result, rfl, hp⟩, _,
      ⟨_, he', rfl⟩, b, hsize, hb, rfl⟩
    cases he; cases he'
    cases b
    · exact ⟨hs, items, result, hj, by simpa using hok, hr, hp, hsize⟩
    · exact absurd rfl hb
  · rintro ⟨hs, items, result, hj, hok, hr, hp, hsize⟩
    exact ⟨hs, _, hj, _, ⟨items, rfl, rfl⟩, by simpa using hok, _, ⟨items, rfl, hr⟩, _,
      ⟨result, rfl, hp⟩, _, ⟨result, rfl, rfl⟩, false, hsize, Bool.false_ne_true, rfl⟩

/-- The file's GET is accepted when its status is 2xx and its content at most 20 MiB. -/
theorem checkContent_eq_ok {fileResp : GetResponse} {data : List UInt8} :
    checkContent fileResp = .ok data ↔
      (200 ≤ fileResp.statusCode ∧ fileResp.statusCode < 300) ∧
        fileResp.content.length ≤ maxFileSize ∧ data = fileResp.content := by
  unfold checkContent raiseForStatus
  split_ifs with hs <;>
    simp [hs, bind, Except.bind, throw, throwThe, MonadExceptOf.throw, pure, Except.pure]
  split_ifs <;> simp [eq_comm] <;> omega

/-- A download returns the content of the file's GET, at the path the `getFile` answer named,
when both GETs succeed and neither the reported nor the downloaded size is over the cap. -/
theorem downloadFile_eq_ok {get : String → Option GetResponse} {botToken fileId : String}
    {data : List UInt8} :
    downloadFile get botToken fileId = .ok data ↔
      ∃ resp filePath fileResp, get (getFileUrl botToken fileId) = some resp ∧
        lookupFilePath resp = .ok filePath ∧
        get (downloadUrl botToken filePath) = some fileResp ∧
        (200 ≤ fileResp.statusCode ∧ fileResp.statusCode < 300) ∧
        fileResp.content.length ≤ maxFileSize ∧ data = fileResp.content := by
  simp only [downloadFile, except_bind_eq_ok, clientGet_eq_ok, checkContent_eq_ok, exists_and_left]

theorem downloadFile_length_le {get : String → Option GetResponse} {botToken fileId : String}
    {data : List UInt8} (h : downloadFile get botToken fileId = .ok data) :
    data.length ≤ maxFileSize := by
  obtain ⟨-, -, fileResp, -, -, -, -, hlen, rfl⟩ := downloadFile_eq_ok.mp h
  exact hlen

/-! ## The host every request goes to -/

/-- The origin `download_file` builds its URLs on. -/
def apiOrigin : String := "https://api.telegram.org/"

theorem apiOrigin_prefix_append {s : String} (h : apiOrigin.toList <+: s.toList) (t : String) :
    apiOrigin.toList <+: (s ++ t).toList := by
  simpa [String.toList, String.data_append] using h.trans (List.prefix_append _ _)

theorem getFileUrl_under_apiOrigin (botToken fileId : String) :
    apiOrigin.toList <+: (getFileUrl botToken fileId).toList := by
  unfold getFileUrl
  repeat apply apiOrigin_prefix_append
  exact ⟨"bot".toList, rfl⟩

theorem downloadUrl_under_apiOrigin (botToken : String) (filePath : PyValue) :
    apiOrigin.toList <+: (downloadUrl botToken filePath).toList := by
  unfold downloadUrl
  repeat apply apiOrigin_prefix_append
  exact ⟨"file/bot".toList, rfl⟩

/-- Whatever the file id and whatever the platform answers, a download's outcome depends on
`client.get` only at URLs under `https://api.telegram.org/`: the file path of the answer
never takes a request to another host. -/
theorem downloadFile_congr {get get' : String → Option GetResponse}
    (h : ∀ url, apiOrigin.toList <+: url.toList → get url = get' url) (botToken fileId : String) :
    downloadFile get botToken fileId = downloadFile get' botToken fileId := by
  have hp : ∀ filePath, get (downloadUrl botToken filePath) = get' (downloadUrl botToken filePath) :=
    fun filePath => h _ (downloadUrl_under_apiOrigin botToken filePath)
  simp only [downloadFile, clientGet, h _ (getFileUrl_under_apiOrigin botToken fileId), hp]

theorem downloadFile_congr_other_host :
    let get : String → Option GetResponse := fun _ => none
    let get' : String → Option GetResponse := fun url =>
      if url = "other-host" then some ⟨200, .ok .none, []⟩ else none
    (∀ url, apiOrigin.toList <+: url.toList → get url = get' url) ∧
      downloadFile get "t" "f" = downloadFile get' "t" "f" := by
  intro get get'
  have h : ∀ url, apiOrigin.toList <+: url.toList → get url = get' url := by
    intro url hp
    by_cases he : url = "other-host"
    · subst he
      exact absurd hp (by decide)
    · simp [get, get', he]
  exact ⟨h, downloadFile_congr h "t" "f"⟩

/-! ## The attachments of a message -/

/-- When each download of `build_attachments` is `download_file` against the platform as it
is at that call, every attachment it returns holds at most 20 MiB, and its `file_size` is the
length of its bytes. -/
theorem buildAttachments_size_le (gets : Nat → String → Option GetResponse) (botToken : String)
    (auditLogger : Bool) (senderId : String) (fileInfos : List TelegramFileInfo) :
    ∀ a ∈ (buildAttachments (fun i fileId => downloadFile (gets i) botToken fileId) auditLogger
      senderId fileInfos).1, a.fileSize = a.data.length ∧ a.data.length ≤ maxFileSize := by
  intro a ha
  rw [buildAttachments, buildAttachmentsFrom_eq] at ha
  simp only [List.nil_append, List.mem_filterMap, Option.map_eq_some', downloaded_eq_some] at ha
  obtain ⟨p, -, data, hd, rfl⟩ := ha
  exact ⟨rfl, downloadFile_length_le hd⟩

theorem buildAttachments_size_le_one_file :
    let gets : Nat → String → Option GetResponse := fun _ url =>
      if url = getFileUrl "t" "f" then
        some ⟨200, .ok (.dict [("ok", .bool true), ("result", .dict [("file_path", .str "p")])]), []⟩
      else some ⟨200, .ok .none, [1, 2, 3]⟩
    let a : Attachment := ⟨.document, "f", "application/pdf", "a.pdf", 3, [1, 2, 3]⟩
    a ∈ (buildAttachments (fun i fileId => downloadFile (gets i) "t" fileId) false ""
        [⟨"f", .document, "application/pdf", "a.pdf", .int 0⟩]).1 ∧
      a.fileSize = a.data.length ∧ a.data.length ≤ maxFileSize := by
  intro gets a
  have ha : a ∈ (buildAttachments (fun i fileId => downloadFile (gets i) "t" fileId) false ""
      [⟨"f", .document, "application/pdf", "a.pdf", .int 0⟩]).1 := by decide
  exact ⟨ha, buildAttachments_size_le gets "t" false "" _ a ha⟩

end WebhookRelay.Telegram
