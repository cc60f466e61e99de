/-
**The size of the firmware image** (`parse_image_header` and the size check of
`wifi_cp_ota_update_if_needed`, lines 25 to 112 of `main/wifi_cp_ota.c`).

`size_t` has 32 bits, and the lengths that `parse_image_header` sums up come from the image. The two
headers are structures of ESP-IDF's `esp_app_format.h`, of 24 and of 8 bytes: what is read of them is
a parameter (`ImageFormat`). `sizeGate_iff`: an image that passes the size check lies in the
partition exactly if its size in unbounded integers is below `2 ^ 32`.
-/

import Tab5RemoteTerminal.Store.Persist

namespace Tab5

/-! ### Partitions and headers -/

/-- A flash partition; its size is a `uint32_t`. -/
structure Partition where
  content : List UInt8
  fits : content.length < 4294967296

/-- `esp_partition_read`, which fails where the range leaves the partition; else `outcome` says. No
caller looks at which error it is. -/
def espPartitionRead (p : Partition) (outcome : EspErr) (offset len : UInt32) :
    Except EspErr (List UInt8) :=
  if p.content.length < offset.toNat + len.toNat then .error .invalidArg
  else if outcome = .ok then .ok ((p.content.drop offset.toNat).take len.toNat)
  else .error outcome

/-- The fields of an `esp_image_header_t` that are read. -/
structure ImageHeader where
  magic : UInt8
  segmentCount : UInt8
  hashAppended : UInt8
deriving DecidableEq, Repr

/-- `ESP_IMAGE_HEADER_MAGIC`, the fields of an `esp_image_header_t`, and `data_len` of an
`esp_image_segment_header_t`. -/
structure ImageFormat where
  magic : UInt8
  header : List UInt8 → ImageHeader
  dataLen : List UInt8 → UInt32

/-! ### `parse_image_header` -/

variable (format : ImageFormat) (p : Partition)

/-- The loop over `count` more segments, from segment `i` on: the sum at its end. -/
def readSegments (outcome : Nat → EspErr) :
    (count i : Nat) → (offset totalSize : UInt32) → Except EspErr UInt32
  | 0, _, _, totalSize => .ok totalSize
  | count + 1, i, offset, totalSize =>
      match espPartitionRead p (outcome i) offset 8 with
      | .error err => .error err
      | .ok bytes =>
          readSegments outcome count (i + 1) (offset + (8 + format.dataLen bytes))
            (totalSize + (8 + format.dataLen bytes))

/-- `padding`, up to the next multiple of 16. -/
def paddingOf (totalSize : UInt32) : UInt32 := (16 - totalSize % 16) % 16

/-- What is added to the sum behind the segments. -/
def finishSize (hashAppended : UInt8) (totalSize : UInt32) : UInt32 :=
  let totalSize := totalSize + (paddingOf totalSize + 1) -- alignment + checksum byte
  if hashAppended = 1 then totalSize + (paddingOf totalSize + 32) -- SHA256
  else totalSize

/-- The outcomes are those of the reads, in order. -/
def parseImageHeader (outcome : Nat → EspErr) : Except EspErr UInt32 :=
  match espPartitionRead p (outcome 0) 0 24 with
  | .error err => .error err
  | .ok bytes =>
      let imageHeader := format.header bytes
      if imageHeader.magic ≠ format.magic then .error .invalidArg
      else
        match readSegments format p (fun i => outcome (i + 1)) imageHeader.segmentCount.toNat 0 24 24
        with
        | .error err => .error err
        | .ok totalSize => .ok (finishSize imageHeader.hashAppended totalSize)

/-! ### The image in unbounded integers -/

/-- The fields of the image's header. -/
def imageHeader : ImageHeader := format.header (p.content.take 24)

/-- `data_len` of the segment header at an offset. -/
def dataLenAt (offset : Nat) : Nat := (format.dataLen ((p.content.drop offset).take 8)).toNat

/-- Where each of `count` segments, header and data, begins and ends, one behind the other. -/
def segmentRanges : (count offset : Nat) → List (Nat × Nat)
  | 0, _ => []
  | count + 1, offset =>
      (offset, offset + (8 + dataLenAt format p offset)) ::
        segmentRanges count (offset + (8 + dataLenAt format p offset))

/-- Where the last of them ends. -/
def segmentsEnd : (count offset : Nat) → Nat
  | 0, offset => offset
  | count + 1, offset => segmentsEnd count (offset + (8 + dataLenAt format p offset))

/-- The image's segments. -/
def imageSegments : List (Nat × Nat) :=
  segmentRanges format p (imageHeader format p).segmentCount.toNat 24

def imageSegmentsEnd : Nat := segmentsEnd format p (imageHeader format p).segmentCount.toNat 24

/-- `finishSize`, in unbounded integers. -/
def unboundedSize (hashAppended : UInt8) (totalSize : Nat) : Nat :=
  let checked := totalSize + ((16 - totalSize % 16) % 16 + 1)
  if hashAppended = 1 then checked + ((16 - checked % 16) % 16 + 32) else checked

variable {format p}

theorem segmentsEnd_ge (count offset : Nat) : offset ≤ segmentsEnd format p count offset := by
  induction count generalizing offset with
  | zero => exact le_refl _
  | succ count ih =>
      have next := ih (offset + (8 + dataLenAt format p offset))
      rw [segmentsEnd]
      omega

/-- The segments end where the last of them does. -/
theorem range_le_end {count offset : Nat} {range : Nat × Nat}
    (member : range ∈ segmentRanges format p count offset) :
    range.2 ≤ segmentsEnd format p count offset := by
  induction count generalizing offset with
  | zero => exact absurd member List.not_mem_nil
  | succ count ih =>
      rw [segmentsEnd]
      rcases List.mem_cons.mp member with rfl | later
      · exact segmentsEnd_ge count _
      · exact ih later

theorem exists_range_end {count : Nat} (some : 0 < count) (offset : Nat) :
    ∃ range ∈ segmentRanges format p count offset,
      range.2 = segmentsEnd format p count offset := by
  induction count generalizing offset with
  | zero => exact absurd some (Nat.lt_irrefl 0)
  | succ count ih =>
      rcases Nat.eq_zero_or_pos count with rfl | more
      · exact ⟨_, List.mem_singleton.mpr rfl, rfl⟩
      · obtain ⟨range, member, ends⟩ := ih more (offset + (8 + dataLenAt format p offset))
        exact ⟨range, List.mem_cons_of_mem _ member, ends⟩

/-! ### The sum and the unbounded size -/

theorem paddingOf_toNat (totalSize : UInt32) :
    (paddingOf totalSize).toNat = (16 - totalSize.toNat % 16) % 16 := by
  have residue : (totalSize % 16).toNat = totalSize.toNat % 16 := UInt32.toNat_mod _ _
  have sixteen : (16 : UInt32).toNat = 16 := rfl
  have small : totalSize % 16 ≤ 16 := by
    rw [UInt32.le_iff_toNat_le, residue, sixteen]
    omega
  rw [paddingOf, UInt32.toNat_mod, UInt32.toNat_sub_of_le _ _ small, residue, sixteen]

/-- **The sum is the unbounded size modulo `2 ^ 32`.** -/
theorem finishSize_toNat (hashAppended : UInt8) (totalSize : UInt32) :
    (finishSize hashAppended totalSize).toNat =
      unboundedSize hashAppended totalSize.toNat % 4294967296 := by
  have one : (1 : UInt32).toNat = 1 := rfl
  have hash : (32 : UInt32).toNat = 32 := rfl
  have bounded := totalSize.toNat_lt
  unfold finishSize unboundedSize
  dsimp only
  split
  · simp only [UInt32.toNat_add, paddingOf_toNat, one, hash]
    omega
  · simp only [UInt32.toNat_add, paddingOf_toNat, one]
    omega

/-- Padding, checksum and hash. -/
theorem unboundedSize_bounds (hashAppended : UInt8) (totalSize : Nat) :
    totalSize < unboundedSize hashAppended totalSize ∧
      unboundedSize hashAppended totalSize ≤ totalSize + 63 := by
  unfold unboundedSize
  dsimp only
  split <;> omega

/-- The reads fail only where they leave the partition. -/
abbrev reads : Nat → EspErr := fun _ => .ok

theorem espPartitionRead_eq_ok {offset len : UInt32} {bytes : List UInt8} :
    espPartitionRead p .ok offset len = .ok bytes ↔
      offset.toNat + len.toNat ≤ p.content.length ∧
        bytes = (p.content.drop offset.toNat).take len.toNat := by
  unfold espPartitionRead
  split
  · simp only [reduceCtorEq, false_iff]
    omega
  · simp only [if_pos, Except.ok.injEq]
    constructor
    · exact fun same => ⟨by omega, same.symm⟩
    · exact fun both => both.2.symm

theorem readSegmentHeader_eq_ok {offset : UInt32} {bytes : List UInt8} :
    espPartitionRead p .ok offset 8 = .ok bytes ↔ offset.toNat + 8 ≤ p.content.length ∧
      bytes = (p.content.drop offset.toNat).take 8 := espPartitionRead_eq_ok

theorem readImageHeader_eq_ok {bytes : List UInt8} :
    espPartitionRead p .ok 0 24 = .ok bytes ↔ 24 ≤ p.content.length ∧
      bytes = p.content.take 24 := by
  have read := @espPartitionRead_eq_ok p 0 24 bytes
  rwa [UInt32.toNat_zero, Nat.zero_add, List.drop_zero] at read

/-- The offset behind a segment, as long as it is a `size_t`. -/
theorem nextOffset_toNat {offset : UInt32}
    (small : offset.toNat + (8 + dataLenAt format p offset.toNat) < 4294967296) :
    (offset + (8 + format.dataLen ((p.content.drop offset.toNat).take 8))).toNat =
      offset.toNat + (8 + dataLenAt format p offset.toNat) := by
  have eight : (8 : UInt32).toNat = 8 := rfl
  unfold dataLenAt at small ⊢
  rw [UInt32.toNat_add, UInt32.toNat_add, eight]
  omega

/-- **The loop's sum**, as long as it is a `size_t`. -/
theorem readSegments_eq {count i : Nat} {offset total : UInt32}
    (small : segmentsEnd format p count offset.toNat < 4294967296)
    (read : readSegments format p reads count i offset offset = .ok total) :
    total.toNat = segmentsEnd format p count offset.toNat := by
  induction count generalizing i offset with
  | zero =>
      rw [readSegments, Except.ok.injEq] at read
      rw [← read, segmentsEnd]
  | succ count ih =>
      rw [readSegments] at read
      split at read
      · cases read
      · rename_i bytes here
        obtain ⟨_, rfl⟩ := readSegmentHeader_eq_ok.mp here
        rw [segmentsEnd] at small ⊢
        have next := nextOffset_toNat (lt_of_le_of_lt (segmentsEnd_ge count _) small)
        have rest := ih (by rw [next]; exact small) read
        rw [next] at rest
        exact rest

/-- Segments in the partition are read. -/
theorem readSegments_inside {count i : Nat} {offset : UInt32}
    (inside : ∀ range ∈ segmentRanges format p count offset.toNat, range.2 ≤ p.content.length) :
    ∃ total, readSegments format p reads count i offset offset = .ok total := by
  induction count generalizing i offset with
  | zero => exact ⟨offset, rfl⟩
  | succ count ih =>
      obtain ⟨first, others⟩ := List.forall_mem_cons.mp inside
      have read : espPartitionRead p .ok offset 8 =
          .ok ((p.content.drop offset.toNat).take 8) :=
        readSegmentHeader_eq_ok.mpr ⟨by omega, rfl⟩
      have fits := p.fits
      have next := nextOffset_toNat (lt_of_le_of_lt first fits)
      rw [readSegments, read]
      exact ih (by rw [next]; exact others)

/-- **When the image is parsed.** -/
theorem parseImageHeader_eq_ok {size : UInt32} :
    parseImageHeader format p reads = .ok size ↔
      24 ≤ p.content.length ∧ (imageHeader format p).magic = format.magic ∧
        ∃ total, readSegments format p reads (imageHeader format p).segmentCount.toNat 0 24 24 =
          .ok total ∧ size = finishSize (imageHeader format p).hashAppended total := by
  unfold parseImageHeader
  split
  · rename_i err failed
    simp only [reduceCtorEq, false_iff]
    rintro ⟨long, _⟩
    rw [readImageHeader_eq_ok.mpr ⟨long, rfl⟩] at failed
    cases failed
  · rename_i bytes read
    obtain ⟨long, rfl⟩ := readImageHeader_eq_ok.mp read
    rw [← imageHeader]
    dsimp only
    split
    · rename_i wrong
      simp only [reduceCtorEq, false_iff]
      exact fun right => wrong right.2.1
    · rename_i right
      split
      · rename_i err failed
        simp only [reduceCtorEq, false_iff]
        rintro ⟨_, _, total, segments, _⟩
        rw [segments] at failed
        cases failed
      · rename_i total segments
        rw [Except.ok.injEq]
        constructor
        · exact fun same => ⟨long, not_not.mp right, total, segments, same.symm⟩
        · rintro ⟨_, _, total', segments', rfl⟩
          rw [segments', Except.ok.injEq] at segments
          rw [segments]

/-! ### The size check -/

/-- **The size check cannot be bypassed below `2 ^ 32`.** An image that is parsed and passes it has
all its segments in the partition, and is as long as they are, exactly if its size in unbounded
integers is below `2 ^ 32`. -/
theorem sizeGate_iff (format : ImageFormat) (p : Partition) {size : UInt32}
    (parsed : parseImageHeader format p reads = .ok size) (gate : size.toNat ≤ p.content.length) :
    (∀ range ∈ imageSegments format p, range.2 ≤ p.content.length ∧ range.2 ≤ size.toNat) ↔
      unboundedSize (imageHeader format p).hashAppended (imageSegmentsEnd format p) <
        4294967296 := by
  obtain ⟨_, _, total, segments, rfl⟩ := parseImageHeader_eq_ok.mp parsed
  have fits := p.fits
  obtain ⟨low, high⟩ := unboundedSize_bounds (imageHeader format p).hashAppended
    (imageSegmentsEnd format p)
  have computed := finishSize_toNat (imageHeader format p).hashAppended total
  have sum : imageSegmentsEnd format p < 4294967296 → total.toNat = imageSegmentsEnd format p :=
    fun small => @readSegments_eq format p _ 0 24 total small segments
  have last : 24 < imageSegmentsEnd format p →
      ∃ range ∈ imageSegments format p, range.2 = imageSegmentsEnd format p := by
    intro more
    refine exists_range_end (Nat.pos_of_ne_zero fun none => ?_) 24
    rw [imageSegmentsEnd, none, segmentsEnd] at more
    exact Nat.lt_irrefl 24 more
  constructor
  · -- the last segment's end shows what was lost in the sum
    intro sound
    by_contra wraps
    obtain ⟨range, member, ends⟩ := last (by omega)
    obtain ⟨inside, covered⟩ := sound range member
    rw [sum (by omega)] at computed
    omega
  · intro small range member
    have ends : range.2 ≤ imageSegmentsEnd format p := range_le_end member
    rw [sum (by omega)] at computed
    omega

/-- The layout of `esp_app_format.h`: `data_len` is a little-endian word behind the load address. -/
def espImageFormat : ImageFormat where
  magic := 0xE9
  header bytes := ⟨bytes.getD 0 0, bytes.getD 1 0, bytes.getD 23 0⟩
  dataLen bytes := (bytes.getD 4 0).toUInt32 + (bytes.getD 5 0).toUInt32 * 0x100 +
    (bytes.getD 6 0).toUInt32 * 0x10000 + (bytes.getD 7 0).toUInt32 * 0x1000000

/-- `slave_fw` of `partitions.csv`: 1408K, erased behind what is written to it. -/
def slaveFw (written : List UInt8) (room : written.length ≤ 1441792) : Partition where
  content := written ++ List.replicate (1441792 - written.length) 0xFF
  fits := by
    rw [List.length_append, List.length_replicate]
    omega

theorem slaveFw_length (written : List UInt8) (room : written.length ≤ 1441792) :
    (slaveFw written room).content.length = 1441792 := by
  rw [slaveFw, List.length_append, List.length_replicate]
  omega

/-- A header without hash, a segment of 16 bytes, and the header of a second segment. -/
def firmwareHead (second : List UInt8) : List UInt8 :=
  [0xE9, 2] ++ List.replicate 22 0 ++ [0, 0, 0, 0x40, 16, 0, 0, 0] ++ List.replicate 16 0xA5 ++
    [0, 0, 0x80, 0x40] ++ second

/-- A second segment of four bytes. -/
def shortFirmware : Partition := slaveFw (firmwareHead [4, 0, 0, 0, 1, 2, 3, 4]) (by decide)

/-- A second segment of `2 ^ 32 - 56` bytes: the sum is 0. -/
def longFirmware : Partition := slaveFw (firmwareHead [0xC8, 0xFF, 0xFF, 0xFF]) (by decide)

theorem readSegments_succ {count i : Nat} {offset total len : UInt32}
    (inside : offset.toNat + 8 ≤ p.content.length)
    (header : format.dataLen ((p.content.drop offset.toNat).take 8) = len) :
    readSegments format p reads (count + 1) i offset total =
      readSegments format p reads count (i + 1) (offset + (8 + len)) (total + (8 + len)) := by
  rw [readSegments, readSegmentHeader_eq_ok.mpr ⟨inside, rfl⟩]
  dsimp only
  rw [header]

/-- The size of an image that begins so. -/
theorem parse_firmware {len : UInt32} (long : 56 ≤ p.content.length)
    (header : imageHeader espImageFormat p = ⟨0xE9, 2, 0⟩)
    (first : espImageFormat.dataLen ((p.content.drop 24).take 8) = 16)
    (second : espImageFormat.dataLen ((p.content.drop 48).take 8) = len) :
    parseImageHeader espImageFormat p reads = .ok (finishSize 0 (48 + (8 + len))) := by
  have readFirst : readSegments espImageFormat p reads 2 0 24 24 =
      readSegments espImageFormat p reads 1 1 48 48 :=
    @readSegments_succ espImageFormat p 1 0 24 24 16 ((by decide : 24 + 8 ≤ 56).trans long) first
  have readSecond : readSegments espImageFormat p reads 1 1 48 48 = .ok (48 + (8 + len)) :=
    @readSegments_succ espImageFormat p 0 1 48 48 len long second
  refine parseImageHeader_eq_ok.mpr ⟨(by decide : 24 ≤ 56).trans long, ?_, 48 + (8 + len), ?_, ?_⟩
  · rw [header]
    rfl
  · rw [header]
    exact readFirst.trans readSecond
  · rw [header]

theorem shortFirmware_parsed : parseImageHeader espImageFormat shortFirmware reads = .ok 65 :=
  @parse_firmware shortFirmware 4 (by rw [shortFirmware, slaveFw_length]; decide)
    (by decide +kernel) (by decide +kernel) (by decide +kernel)

theorem longFirmware_parsed : parseImageHeader espImageFormat longFirmware reads = .ok 1 :=
  @parse_firmware longFirmware 0xFFFFFFC8 (by rw [longFirmware, slaveFw_length]; decide)
    (by decide +kernel) (by decide +kernel) (by decide +kernel)

theorem sizeGate_iff_short : imageSegments espImageFormat shortFirmware = [(24, 48), (48, 60)] ∧
    ∀ range ∈ imageSegments espImageFormat shortFirmware,
      range.2 ≤ shortFirmware.content.length ∧ range.2 ≤ 65 := by
  refine ⟨by decide +kernel, (@sizeGate_iff espImageFormat shortFirmware 65
    shortFirmware_parsed ?_).mpr (by decide +kernel)⟩
  rw [shortFirmware, slaveFw_length]
  decide

/-- It passes the check. -/
theorem sizeGate_fails :
    ¬ ∀ (p : Partition) (size : UInt32), parseImageHeader espImageFormat p reads = .ok size →
      size.toNat ≤ p.content.length → ∀ range ∈ imageSegments espImageFormat p,
        range.2 ≤ p.content.length ∧ range.2 ≤ size.toNat := by
  intro sound
  have length : longFirmware.content.length = 1441792 := slaveFw_length _ _
  have inside := sound longFirmware 1 longFirmware_parsed (by rw [length]; decide) (48, 4294967296)
    (by decide +kernel)
  exact absurd inside.2 (by decide)

end Tab5
