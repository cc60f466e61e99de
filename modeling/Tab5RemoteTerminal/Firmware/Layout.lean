/-
**The size of an ESP-IDF image** (`parse_image_header` and the transfer of
`wifi_cp_ota_update_if_needed`).

An application image is a header, its segments, zeros up to a checksum that is the last byte of a
block of 16, and a SHA-256 if one is appended (`FirmwareImage`). `parse_image_header` pads first and
adds the checksum behind: the sum of both is right only if the segments end a block and a hash makes
it pad once more (`firmwareSize_iff`).
-/

import Tab5RemoteTerminal.Firmware.Transfer

namespace Tab5

variable {format : ImageFormat}

/-! ### Images -/

structure FirmwareSegment (format : ImageFormat) where
  header : List UInt8
  data : List UInt8
  headerLength : header.length = 8
  dataLength : (format.dataLen header).toNat = data.length

structure FirmwareImage (format : ImageFormat) where
  header : List UInt8
  segments : List (FirmwareSegment format)
  checksum : UInt8
  hash : List UInt8
  headerLength : header.length = 24
  magic : (format.header header).magic = format.magic
  segmentCount : (format.header header).segmentCount.toNat = segments.length
  hashLength : hash.length = if (format.header header).hashAppended = 1 then 32 else 0

/-- The bytes of some segments. -/
def segmentBytes (segments : List (FirmwareSegment format)) : List UInt8 :=
  (segments.map fun segment => segment.header ++ segment.data).flatten

namespace FirmwareImage

variable (image : FirmwareImage format)

/-- The header and the segments. -/
def body : List UInt8 := image.header ++ segmentBytes image.segments

/-- The zeros that make the checksum the last byte of a block of 16. -/
def zeros : List UInt8 := List.replicate (15 - image.body.length % 16) 0

def bytes : List UInt8 := image.body ++ (image.zeros ++ [image.checksum] ++ image.hash)

theorem bytes_length : image.bytes.length =
    image.body.length + 16 - image.body.length % 16 +
      if (format.header image.header).hashAppended = 1 then 32 else 0 := by
  rw [bytes, List.length_append, List.length_append, List.length_append, zeros,
    List.length_replicate, List.length_singleton, image.hashLength]
  omega

end FirmwareImage

/-! ### Its size, as it is computed -/

/-- The segments end where their bytes do. -/
theorem segmentsEnd_bytes {p : Partition} (segments : List (FirmwareSegment format)) {offset : Nat}
    (stored : segmentBytes segments <+: p.content.drop offset) :
    segmentsEnd format p segments.length offset = offset + (segmentBytes segments).length := by
  induction segments generalizing offset with
  | nil => rfl
  | cons segment segments ih =>
      obtain ⟨rest, whole⟩ := stored
      have shape : p.content.drop offset =
          segment.header ++ (segment.data ++ (segmentBytes segments ++ rest)) := by
        rw [← whole, segmentBytes, List.map_cons, List.flatten_cons]
        simp [segmentBytes]
      have header : (p.content.drop offset).take 8 = segment.header := by
        rw [shape, List.take_left' segment.headerLength]
      have step : dataLenAt format p offset = segment.data.length := by
        rw [dataLenAt, header, segment.dataLength]
      have behind : p.content.drop (offset + (8 + segment.data.length)) =
          segmentBytes segments ++ rest := by
        rw [← List.drop_drop, shape, ← List.append_assoc]
        exact List.drop_left' (by rw [List.length_append, segment.headerLength])
      rw [List.length_cons, segmentsEnd, step, ih ⟨rest, behind.symm⟩, segmentBytes, segmentBytes,
        List.map_cons, List.flatten_cons, List.length_append, List.length_append,
        segment.headerLength]
      omega

section

variable {image : FirmwareImage format} {p : Partition} (flashed : image.bytes <+: p.content)

include flashed

theorem flashed_header : imageHeader format p = format.header image.header := by
  obtain ⟨rest, whole⟩ := flashed
  rw [imageHeader, ← whole, FirmwareImage.bytes, FirmwareImage.body]
  simp only [List.append_assoc]
  rw [List.take_left' image.headerLength]

theorem flashed_end : imageSegmentsEnd format p = image.body.length := by
  have stored : segmentBytes image.segments <+: p.content.drop 24 := by
    obtain ⟨rest, whole⟩ := flashed
    refine ⟨image.zeros ++ [image.checksum] ++ image.hash ++ rest, ?_⟩
    rw [← whole, FirmwareImage.bytes, FirmwareImage.body]
    simp only [List.append_assoc]
    rw [List.drop_left' image.headerLength]
  rw [imageSegmentsEnd, flashed_header flashed, image.segmentCount,
    segmentsEnd_bytes image.segments stored, FirmwareImage.body, List.length_append,
    image.headerLength]

/-- **What is computed of an image**: its body padded, and the checksum and the hash behind. -/
theorem flashed_parsed :
    ∃ size, parseImageHeader format p reads = .ok size ∧
      size.toNat = unboundedSize (format.header image.header).hashAppended image.body.length %
        4294967296 := by
  have long := flashed.length_le
  have length := image.bytes_length
  have fits := p.fits
  have header := flashed_header flashed
  have ends := flashed_end flashed
  have headerIn : 24 ≤ image.body.length := by
    rw [FirmwareImage.body, List.length_append, image.headerLength]
    omega
  have inside : image.body.length ≤ p.content.length := by omega
  obtain ⟨total, segments⟩ := @readSegments_inside format p
    (imageHeader format p).segmentCount.toNat 0 24 fun range member =>
      (range_le_end member).trans (ends.le.trans inside)
  have sum : total.toNat = image.body.length := by
    rw [← ends]
    exact readSegments_eq (lt_of_le_of_lt (ends.le.trans inside) fits) segments
  refine ⟨_, parseImageHeader_eq_ok.mpr ⟨headerIn.trans inside, ?_, total, segments, rfl⟩, ?_⟩
  · rw [header, image.magic]
  · rw [finishSize_toNat, header, sum]

end

/-- **When the size is the image's**, and the bytes sent to the coprocessor are those of the image:
a hash is appended, and the segments end a block of 16. -/
theorem firmwareSize_iff (format : ImageFormat) (image : FirmwareImage format) (p : Partition)
    (flashed : image.bytes <+: p.content) :
    (∃ size log, parseImageHeader format p reads = .ok size ∧ size.toNat = image.bytes.length ∧
        wifiCpOtaUpdateIfNeeded format (some p) .good = some log ∧
        (chunks log).flatten = image.bytes) ↔
      (format.header image.header).hashAppended = 1 ∧ image.body.length % 16 = 0 := by
  obtain ⟨computed, parsed, value⟩ := flashed_parsed flashed
  have long := flashed.length_le
  have fits := p.fits
  have length := image.bytes_length
  have exact : computed.toNat = image.bytes.length ↔
      (format.header image.header).hashAppended = 1 ∧ image.body.length % 16 = 0 := by
    rw [value]
    unfold unboundedSize
    dsimp only
    by_cases hash : (format.header image.header).hashAppended = 1
    · rw [if_pos hash] at length ⊢
      rw [and_iff_right hash]
      omega
    · rw [if_neg hash] at length ⊢
      exact iff_of_false (by omega) fun both => hash both.1
  rw [← exact]
  constructor
  · rintro ⟨size, log, parsed', same, _⟩
    rw [parsed, Except.ok.injEq] at parsed'
    rw [parsed', same]
  · intro same
    obtain ⟨log, pushed, sent⟩ := @pushFirmware_all p computed (by omega)
    refine ⟨computed, log, parsed, same, ?_, ?_⟩
    · have parsedGood : parseImageHeader format p OtaOutcomes.good.headerRead = .ok computed := parsed
      rw [wifiCpOtaUpdateIfNeeded]
      simp only [parsedGood]
      rw [if_neg (by omega), if_neg (by simp [OtaOutcomes.good]), pushed]
    · rw [sent, same]
      exact (List.prefix_iff_eq_take.mp flashed).symm

/-- One empty segment, with a hash: the body has 32 bytes. -/
def hashedImage : FirmwareImage espImageFormat where
  header := [0xE9, 1] ++ List.replicate 21 0 ++ [1]
  segments := [⟨List.replicate 8 0, [], by decide, by decide⟩]
  checksum := 0
  hash := List.replicate 32 0
  headerLength := by decide
  magic := by decide
  segmentCount := by decide
  hashLength := by decide

theorem firmwareSize_iff_hashed :
    ∃ size log, parseImageHeader espImageFormat ⟨hashedImage.bytes, by decide⟩ reads = .ok size ∧
      size.toNat = hashedImage.bytes.length ∧
      wifiCpOtaUpdateIfNeeded espImageFormat (some ⟨hashedImage.bytes, by decide⟩) .good =
        some log ∧
      (chunks log).flatten = hashedImage.bytes :=
  (firmwareSize_iff espImageFormat hashedImage ⟨hashedImage.bytes, by decide⟩
    List.prefix_rfl).mpr (by decide)

/-- No hash, and one segment of four bytes: the body has 36. -/
def plainImage : FirmwareImage espImageFormat where
  header := [0xE9, 1] ++ List.replicate 22 0
  segments := [⟨List.replicate 4 0 ++ [4] ++ List.replicate 3 0, List.replicate 4 0, by decide,
    by decide⟩]
  checksum := 0
  hash := []
  headerLength := by decide
  magic := by decide
  segmentCount := by decide
  hashLength := by decide

/-- It has 48 bytes, and 49 are sent. -/
theorem firmwareSize_fails :
    ¬ ∀ (image : FirmwareImage espImageFormat) (p : Partition), image.bytes <+: p.content →
      ∃ size, parseImageHeader espImageFormat p reads = .ok size ∧
        size.toNat = image.bytes.length := by
  intro exact
  obtain ⟨size, parsed, same⟩ := exact plainImage ⟨plainImage.bytes, by decide⟩ List.prefix_rfl
  have computed : parseImageHeader espImageFormat ⟨plainImage.bytes, by decide⟩ reads = .ok 49 := by
    rfl
  rw [computed, Except.ok.injEq] at parsed
  rw [← parsed] at same
  exact absurd same (by decide)

end Tab5
