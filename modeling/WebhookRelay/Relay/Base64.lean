import WebhookRelay.Relay.Content

/-!
# The attachments' bytes reach the upstream whole

`_build_content_parts` writes each attachment's bytes into its block as
`base64.b64encode(data).decode()` (`b64encode`): behind `data:<mime>;base64,` in an `image_url`
block, and as the `data` field of an `input_audio` or `file` block. `b64decode` is RFC 4648 §4
decoding, written here to say what the encoding is for: the source has no decoder.

Proved: decoding the encoding gives the bytes back (`b64decode_b64encode`); and the blocks
`_build_content_parts` makes, read back in order, from a data URI after its last comma and
from the `data` field of the others, give exactly the attachments' bytes, whatever their MIME
types and file names (`content_parts_carry_bytes`).
-/

namespace WebhookRelay.Relay

open Python

/-- RFC 4648 §4: the value of a base64 character, `none` off the alphabet. -/
def b64Value (c : Char) : Option Nat :=
  if 'A' ≤ c ∧ c ≤ 'Z' then some (c.toNat - 'A'.toNat)
  else if 'a' ≤ c ∧ c ≤ 'z' then some (c.toNat - 'a'.toNat + 26)
  else if '0' ≤ c ∧ c ≤ '9' then some (c.toNat - '0'.toNat + 52)
  else if c = '+' then some 62
  else if c = '/' then some 63
  else none

/-- One group of four characters: its 24 bits as three octets, or the first two or one when
the group ends in one or two `=`. -/
def b64Group (c0 c1 c2 c3 : Char) : Option (List UInt8) := do
  let v0 ← b64Value c0
  let v1 ← b64Value c1
  let v2 ← if c2 = '=' then some 0 else b64Value c2
  let v3 ← if c3 = '=' then some 0 else b64Value c3
  let n := v0 * 262144 + v1 * 4096 + v2 * 64 + v3
  let octets := [UInt8.ofNat (n / 65536), UInt8.ofNat (n / 256 % 256), UInt8.ofNat (n % 256)]
  if c2 = '=' then if c3 = '=' then some (octets.take 1) else none
  else if c3 = '=' then some (octets.take 2) else some octets

/-- RFC 4648 decoding of a character list: groups of four, padding only in the last. -/
def b64decodeChars : List Char → Option (List UInt8)
  | c0 :: c1 :: c2 :: c3 :: rest => do
    let octets ← b64Group c0 c1 c2 c3
    if octets.length < 3 ∧ rest ≠ [] then none
    else (octets ++ ·) <$> b64decodeChars rest
  | [] => some []
  | _ => none

/-- Base64 text to the octets it encodes. -/
def b64decode (s : String) : Option (List UInt8) := b64decodeChars s.toList

/-! ## Digits and groups -/

theorem b64Digit_spec : ∀ k < 64, b64Value (b64Digit k) = some k ∧ b64Digit k ≠ '=' := by
  decide

theorem b64Value_b64Digit {k : Nat} (hk : k < 64) : b64Value (b64Digit k) = some k :=
  (b64Digit_spec k hk).1

theorem b64Digit_ne_pad {k : Nat} (hk : k < 64) : b64Digit k ≠ '=' := (b64Digit_spec k hk).2

/-- No character the encoder writes is a comma. -/
theorem b64Digit_ne_comma (k : Nat) : b64Digit k ≠ ',' := by
  have hmem : ∀ c ∈ b64Alphabet, c ≠ ',' := by decide
  unfold b64Digit
  rw [List.getD_eq_getElem?_getD]
  cases h : b64Alphabet[k]? with
  | none => decide
  | some c => exact hmem c (List.getElem?_mem h)

theorem uint8_ofNat_toNat (a : UInt8) : UInt8.ofNat a.toNat = a := by
  apply UInt8.eq_of_val_eq
  simp [UInt8.ofNat, UInt8.toNat]

section

variable {n : Nat} (hn : n < 16777216)
include hn

/-- Four digits of 24 bits read back as those bits. -/
theorem b64Group_digits :
    b64Group (b64Digit (n / 262144)) (b64Digit (n / 4096 % 64)) (b64Digit (n / 64 % 64))
      (b64Digit (n % 64)) =
      some [UInt8.ofNat (n / 65536), UInt8.ofNat (n / 256 % 256), UInt8.ofNat (n % 256)] := by
  have hn' : n / 262144 * 262144 + n / 4096 % 64 * 4096 + n / 64 % 64 * 64 + n % 64 = n := by
    omega
  simp (disch := omega) [b64Group, b64Value_b64Digit, b64Digit_ne_pad, hn']

/-- Three digits and one `=`: the first two octets. -/
theorem b64Group_pad (h64 : n % 64 = 0) :
    b64Group (b64Digit (n / 262144)) (b64Digit (n / 4096 % 64)) (b64Digit (n / 64 % 64)) '=' =
      some [UInt8.ofNat (n / 65536), UInt8.ofNat (n / 256 % 256)] := by
  have hn' : n / 262144 * 262144 + n / 4096 % 64 * 4096 + n / 64 % 64 * 64 = n := by omega
  simp (disch := omega) [b64Group, b64Value_b64Digit, b64Digit_ne_pad, hn']

/-- Two digits and `==`: the first octet. -/
theorem b64Group_pad_pad (h4096 : n % 4096 = 0) :
    b64Group (b64Digit (n / 262144)) (b64Digit (n / 4096 % 64)) '=' '=' =
      some [UInt8.ofNat (n / 65536)] := by
  have hn' : n / 262144 * 262144 + n / 4096 % 64 * 4096 = n := by omega
  simp (disch := omega) [b64Group, b64Value_b64Digit, hn']

end

/-! ## The round trip -/

theorem b64decodeChars_b64Chars (data : List UInt8) :
    b64decodeChars (b64Chars data) = some data := by
  induction data using b64Chars.induct with
  | case1 a b c rest ih =>
    have ha := a.toNat_lt_size; have hb := b.toNat_lt_size; have hc := c.toNat_lt_size
    simp only [UInt8.size] at ha hb hc
    rw [b64Chars, b64decodeChars, b64Group_digits (by omega)]
    have e0 : (a.toNat * 65536 + b.toNat * 256 + c.toNat) / 65536 = a.toNat := by omega
    have e1 : (a.toNat * 65536 + b.toNat * 256 + c.toNat) / 256 % 256 = b.toNat := by omega
    have e2 : (a.toNat * 65536 + b.toNat * 256 + c.toNat) % 256 = c.toNat := by omega
    simp [e0, e1, e2, uint8_ofNat_toNat, ih]
  | case2 a b =>
    have ha := a.toNat_lt_size; have hb := b.toNat_lt_size
    simp only [UInt8.size] at ha hb
    rw [b64Chars, b64decodeChars, b64Group_pad (by omega) (by omega)]
    have e0 : (a.toNat * 65536 + b.toNat * 256) / 65536 = a.toNat := by omega
    have e1 : (a.toNat * 65536 + b.toNat * 256) / 256 % 256 = b.toNat := by omega
    simp [e0, e1, uint8_ofNat_toNat, b64decodeChars]
  | case3 a =>
    have ha := a.toNat_lt_size
    simp only [UInt8.size] at ha
    rw [b64Chars, b64decodeChars, b64Group_pad_pad (by omega) (by omega)]
    simp [uint8_ofNat_toNat, b64decodeChars]
  | case4 => rfl

/-- `base64.b64encode` loses nothing: decoding it gives the octets back. -/
theorem b64decode_b64encode (data : List UInt8) : b64decode (b64encode data) = some data :=
  b64decodeChars_b64Chars data

theorem comma_not_mem_b64encode (data : List UInt8) : ',' ∉ (b64encode data).toList := by
  show ',' ∉ b64Chars data
  induction data using b64Chars.induct <;>
    simp_all [b64Chars, Ne.symm (b64Digit_ne_comma _)]

/-! ## The blocks of `_build_content_parts` -/

/-- What the upstream reads back as a block's base64 text: the text after the last comma of an
`image_url` data URI, and the `data` field of the other two; a text block has none. -/
def blockData : ContentPart → Option String
  | .text _ => none
  | .imageUrl url => some ((split url ',').getLastD "")
  | .inputAudio data _ => some data
  | .file _ _ data => some data

/-- Every attachment's block carries the base64 of its bytes, whatever its MIME type. -/
theorem blockData_attachmentPart (a : Attachment) :
    blockData (attachmentPart a) = some (b64encode a.data) := by
  have hl : ("data:" ++ a.mimeType ++ ";base64," ++ b64encode a.data).toList =
      ("data:" ++ a.mimeType ++ ";base64").toList ++ ',' :: (b64encode a.data).toList := by
    simp [String.toList, String.data_append]
  have himage : blockData (.imageUrl ("data:" ++ a.mimeType ++ ";base64," ++ b64encode a.data)) =
      some (b64encode a.data) := by
    simp only [blockData, split, hl, splitChars_append_sep,
      splitChars_of_not_mem (comma_not_mem_b64encode a.data), List.map_append]
    simp
  unfold attachmentPart
  split <;> first | exact himage | rfl

/-- For every text and list of attachments: a list of blocks whose blocks that carry bytes,
read back in order, give exactly the attachments' bytes; or, with no attachment, the text
alone. -/
theorem content_parts_carry_bytes (text : String) (attachments : List Attachment) :
    match buildContentParts text attachments with
    | .parts ps => (ps.filterMap blockData).map b64decode = attachments.map fun a => some a.data
    | .text _ => attachments = [] := by
  by_cases h : attachments = []
  · simp [buildContentParts, h]
  · rw [buildContentParts_eq text h]
    have hblocks : (attachments.map attachmentPart).filterMap blockData =
        attachments.map fun a => b64encode a.data := by
      rw [List.filterMap_map, ← List.filterMap_eq_map]
      exact congrArg (List.filterMap · attachments) (funext blockData_attachmentPart)
    dsimp only
    rw [List.filterMap_append, hblocks]
    split_ifs <;> simp [blockData, b64decode_b64encode]

end WebhookRelay.Relay
