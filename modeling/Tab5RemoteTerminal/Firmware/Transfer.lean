/-
**Pushing the firmware to the coprocessor** (`wifi_cp_ota_update_if_needed`, lines 78 to 174 of
`main/wifi_cp_ota.c`).

What the calls return is given (`OtaOutcomes`); the calls made, with their results, are logged.

* `pushChunk_pushing`: one round of the transfer loop sends the next chunk or ends the update;
* `ota_complete_or_inactive`: the loop ends, the chunks are a first part of the image, and the
  update is activated only if they are all of it and nothing failed;
* `pushFirmware_all`: if nothing fails, they are all of it.
-/

import Tab5RemoteTerminal.Firmware.Image
import Tab5RemoteTerminal.Library.While

namespace Tab5

open CLoop

/-! ### The update -/

/-- The calls of the update that do something. -/
inductive OtaCall where
  | partitionRead (offset len : UInt32)
  | otaBegin
  | otaWrite (chunk : List UInt8)
  | otaEnd
  | otaActivate
  | restartHost
deriving DecidableEq, Repr

/-- The calls made, each with what it returned. -/
abbrev OtaLog := List (OtaCall × EspErr)

/-- An `esp_hosted_coprocessor_fwver_t`. -/
structure FirmwareVersion where
  major : UInt32
  minor : UInt32
  patch : UInt32
deriving DecidableEq, Repr

def expectedVersion : FirmwareVersion := ⟨3, 0, 6⟩

/-- What the calls return: the reads of the headers and those of the chunks, in order, the version
of the coprocessor if it could be read, and the rest. -/
structure OtaOutcomes where
  headerRead : Nat → EspErr
  runningVersion : Option FirmwareVersion
  otaBegin : EspErr
  read : Nat → EspErr
  write : Nat → EspErr
  otaEnd : EspErr
  activate : EspErr

/-- What the transfer loop changes; `stopped` once it has returned from the function. -/
structure Transfer where
  offset : UInt32
  round : Nat
  log : OtaLog
  stopped : Bool

variable (p : Partition) (o : OtaOutcomes) (firmwareSize : UInt32)

/-- `CHUNK_SIZE`. -/
def chunkSize : UInt32 := 1500

/-- `bytes`. -/
def chunkBytes (offset : UInt32) : UInt32 :=
  if firmwareSize - offset > chunkSize then chunkSize else firmwareSize - offset

/-- The body of the transfer loop. -/
def pushChunk (s : Transfer) : Transfer :=
  let bytes := chunkBytes firmwareSize s.offset
  match espPartitionRead p (o.read s.round) s.offset bytes with
  | .error err =>
      { s with
        log := s.log ++ [(.partitionRead s.offset bytes, err), (.otaEnd, o.otaEnd)]
        stopped := true }
  | .ok chunk =>
      if o.write s.round ≠ .ok then
        { s with
          log := s.log ++ [(.partitionRead s.offset bytes, .ok), (.otaWrite chunk, o.write s.round),
            (.otaEnd, o.otaEnd)]
          stopped := true }
      else
        { s with
          offset := s.offset + bytes
          round := s.round + 1
          log := s.log ++ [(.partitionRead s.offset bytes, .ok), (.otaWrite chunk, .ok)] }

/-- The transfer of `firmware_size` bytes, from `esp_hosted_slave_ota_begin` on. -/
def pushFirmware : Option OtaLog :=
  if o.otaBegin ≠ .ok then some [(.otaBegin, o.otaBegin)]
  else
    (whileLoop (fun s => some (!s.stopped && decide (s.offset < firmwareSize)))
      (fun s => some (pushChunk p o firmwareSize s)) (firmwareSize.toNat + 2)
      ⟨0, 0, [(.otaBegin, .ok)], false⟩).map fun s =>
        if s.stopped then s.log
        else if o.otaEnd ≠ .ok then s.log ++ [(.otaEnd, o.otaEnd)]
        else s.log ++ [(.otaEnd, .ok), (.otaActivate, o.activate), (.restartHost, .ok)]

/-- The calls made; `none` if the loop does not end. -/
def wifiCpOtaUpdateIfNeeded (format : ImageFormat) (partition : Option Partition)
    (o : OtaOutcomes) : Option OtaLog :=
  match partition with
  | none => some []
  | some p =>
      match parseImageHeader format p o.headerRead with
      | .error _ => some []
      | .ok firmwareSize =>
          if p.content.length < firmwareSize.toNat then some []
          else if o.runningVersion = some expectedVersion then some []
          else pushFirmware p o firmwareSize

/-! ### What the log says -/

/-- The chunk a call passes to `esp_hosted_slave_ota_write`. -/
def OtaCall.chunk : OtaCall → Option (List UInt8)
  | .otaWrite chunk => some chunk
  | _ => none

/-- The chunks written, in order. -/
def chunks (log : OtaLog) : List (List UInt8) := log.filterMap fun event => event.1.chunk

/-- The calls of `esp_hosted_slave_ota_end`. -/
def ends (log : OtaLog) : Nat := log.countP fun event => event.1 = .otaEnd

/-- The coprocessor is told to run what it was sent, or the host restarts. -/
def Activates (log : OtaLog) : Prop :=
  ∃ event ∈ log, event.1 = .otaActivate ∨ event.1 = .restartHost

/-- **Complete or not activated**: what a transfer of `size` bytes may have done. -/
structure Sound (size : Nat) (log : OtaLog) : Prop where
  sent : (chunks log).flatten <+: p.content.take size
  sizes : ∀ chunk ∈ chunks log, 1 ≤ chunk.length ∧ chunk.length ≤ 1500
  complete : Activates log → (chunks log).flatten = p.content.take size ∧
    size ≤ p.content.length ∧ ∀ event ∈ log, event.1 ≠ .otaActivate → event.2 = .ok
  ended : ends log = if (OtaCall.otaBegin, EspErr.ok) ∈ log then 1 else 0

/-- A transfer that has sent the bytes before `offset`. -/
structure Pushing (size : Nat) (s : Transfer) : Prop where
  running : s.stopped = false
  sent : (chunks s.log).flatten = p.content.take s.offset.toNat
  offset : s.offset.toNat ≤ size ∧ s.offset.toNat ≤ p.content.length
  sizes : ∀ chunk ∈ chunks s.log, 1 ≤ chunk.length ∧ chunk.length ≤ 1500
  begun : (OtaCall.otaBegin, EspErr.ok) ∈ s.log
  calls : ∀ event ∈ s.log, event.2 = .ok ∧ event.1 ≠ .otaEnd ∧ event.1 ≠ .otaActivate ∧
    event.1 ≠ .restartHost

variable {p o firmwareSize}

theorem chunks_append (log more : OtaLog) : chunks (log ++ more) = chunks log ++ chunks more :=
  List.filterMap_append

theorem ends_append (log more : OtaLog) : ends (log ++ more) = ends log + ends more :=
  List.countP_append

theorem Pushing.no_end {size : Nat} {s : Transfer} (pushing : Pushing p size s) :
    ends s.log = 0 := by
  refine List.countP_eq_zero.mpr fun event member => ?_
  simpa using (pushing.calls event member).2.1

/-- The bytes sent, when no more were written. -/
theorem Pushing.sent_with {size : Nat} {s : Transfer} (pushing : Pushing p size s) {tail : OtaLog}
    (nothing : chunks tail = []) :
    (chunks (s.log ++ tail)).flatten = p.content.take s.offset.toNat := by
  rw [chunks_append, nothing, List.append_nil, pushing.sent]

/-- They are a first part of the image. -/
theorem Pushing.sent_prefix {size : Nat} {s : Transfer} (pushing : Pushing p size s) {tail : OtaLog}
    (nothing : chunks tail = []) :
    (chunks (s.log ++ tail)).flatten <+: p.content.take size := by
  rw [pushing.sent_with nothing]
  exact List.take_prefix_take_left pushing.offset.1

/-- **A transfer that is given up** is sound, if it is ended once and not activated. -/
theorem Pushing.give_up {size : Nat} {s : Transfer} (pushing : Pushing p size s) {tail : OtaLog}
    (sent : (chunks (s.log ++ tail)).flatten <+: p.content.take size)
    (sizes : ∀ chunk ∈ chunks tail, 1 ≤ chunk.length ∧ chunk.length ≤ 1500) (once : ends tail = 1)
    (quiet : ∀ event ∈ tail, event.1 ≠ .otaActivate ∧ event.1 ≠ .restartHost) :
    Sound p size (s.log ++ tail) where
  sent := sent
  sizes := by
    rw [chunks_append]
    exact List.forall_mem_append.mpr ⟨pushing.sizes, sizes⟩
  complete := by
    rintro ⟨event, member, activates⟩
    rcases List.mem_append.mp member with before | last
    · obtain ⟨_, _, noActivate, noRestart⟩ := pushing.calls event before
      exact absurd activates (not_or.mpr ⟨noActivate, noRestart⟩)
    · exact absurd activates (not_or.mpr (quiet event last))
  ended := by
    rw [ends_append, pushing.no_end, once, if_pos (List.mem_append_left _ pushing.begun)]

/-- Nothing is sent of a chunk that cannot be read. -/
theorem Pushing.read_failed {size : Nat} {s : Transfer} (pushing : Pushing p size s)
    (offset bytes : UInt32) (err ended : EspErr) :
    Sound p size (s.log ++ [(.partitionRead offset bytes, err), (.otaEnd, ended)]) := by
  refine pushing.give_up (pushing.sent_prefix rfl) ?_ rfl ?_
  · simp [chunks, OtaCall.chunk]
  · simp

/-- **A chunk that is read and written** is the next part of the image. -/
theorem Pushing.next {size : Nat} {s : Transfer} (pushing : Pushing p size s) {chunk : List UInt8}
    {next : UInt32} (extended : (chunks s.log).flatten ++ chunk = p.content.take next.toNat)
    (length : 1 ≤ chunk.length ∧ chunk.length ≤ 1500)
    (inside : next.toNat ≤ size ∧ next.toNat ≤ p.content.length) (offset bytes : UInt32)
    (round : Nat) :
    Pushing p size { s with
      offset := next
      round := round
      log := s.log ++ [(.partitionRead offset bytes, .ok), (.otaWrite chunk, .ok)] } where
  running := pushing.running
  sent := by
    rw [← extended, chunks_append]
    simp [chunks, OtaCall.chunk]
  offset := inside
  sizes := by
    rw [chunks_append]
    refine List.forall_mem_append.mpr ⟨pushing.sizes, ?_⟩
    simpa [chunks, OtaCall.chunk] using length
  begun := List.mem_append_left _ pushing.begun
  calls := by
    refine List.forall_mem_append.mpr ⟨pushing.calls, ?_⟩
    simp

/-! ### The loop -/

/-- The length of the next chunk. -/
theorem chunkBytes_toNat {offset : UInt32} (more : offset < firmwareSize) :
    (chunkBytes firmwareSize offset).toNat = min 1500 (firmwareSize.toNat - offset.toNat) := by
  have rest : (firmwareSize - offset).toNat = firmwareSize.toNat - offset.toNat :=
    UInt32.toNat_sub_of_le _ _ (UInt32.le_of_lt more)
  have limit : chunkSize.toNat = 1500 := rfl
  unfold chunkBytes
  split
  · rename_i long
    have above := UInt32.lt_iff_toNat_lt.mp long
    rw [rest, limit] at above
    omega
  · rename_i short
    have below : firmwareSize.toNat - offset.toNat ≤ 1500 := by
      rw [← rest, ← limit, ← UInt32.le_iff_toNat_le]
      exact UInt32.not_lt.mp short
    rw [rest]
    omega

/-- A read or a write of the transfer fails, or the image is longer than the partition. -/
def Fails (p : Partition) (o : OtaOutcomes) (size : Nat) : Prop :=
  p.content.length < size ∨ ∃ k, o.read k ≠ .ok ∨ o.write k ≠ .ok

/-- **One round of the transfer loop** sends the next chunk, or something fails and the transfer is
given up. -/
theorem pushChunk_pushing {s : Transfer} (pushing : Pushing p firmwareSize.toNat s)
    (more : s.offset < firmwareSize) :
    ((pushChunk p o firmwareSize s).stopped = true ∧
        Sound p firmwareSize.toNat (pushChunk p o firmwareSize s).log ∧
        Fails p o firmwareSize.toNat) ∨
      (Pushing p firmwareSize.toNat (pushChunk p o firmwareSize s) ∧
        s.offset.toNat < (pushChunk p o firmwareSize s).offset.toNat) := by
  have bytes := chunkBytes_toNat more
  have before := UInt32.lt_iff_toNat_lt.mp more
  have small := firmwareSize.toNat_lt
  unfold pushChunk espPartitionRead
  dsimp only
  by_cases leaves : p.content.length < s.offset.toNat + (chunkBytes firmwareSize s.offset).toNat
  · rw [if_pos leaves]
    exact .inl ⟨rfl, pushing.read_failed _ _ _ _, .inl (by omega)⟩
  rw [if_neg leaves]
  by_cases readOk : o.read s.round = .ok
  · rw [if_pos readOk]
    dsimp only
    generalize fetched : (p.content.drop s.offset.toNat).take
      (chunkBytes firmwareSize s.offset).toNat = chunk
    have length : chunk.length = (chunkBytes firmwareSize s.offset).toNat := by
      rw [← fetched, List.length_take, List.length_drop]
      omega
    have next : (s.offset + chunkBytes firmwareSize s.offset).toNat =
        s.offset.toNat + (chunkBytes firmwareSize s.offset).toNat := by
      rw [UInt32.toNat_add]
      omega
    have extended : (chunks s.log).flatten ++ chunk =
        p.content.take (s.offset + chunkBytes firmwareSize s.offset).toNat := by
      rw [next, pushing.sent, ← fetched, ← List.take_add]
    by_cases writeOk : o.write s.round = .ok
    · rw [if_neg (not_not.mpr writeOk)]
      exact .inr ⟨pushing.next extended (by omega) (by omega) _ _ _, by dsimp only; omega⟩
    · rw [if_pos writeOk]
      refine .inl ⟨rfl, pushing.give_up ?_ ?_ rfl ?_, .inr ⟨_, .inr writeOk⟩⟩
      · have upTo : p.content.take (s.offset + chunkBytes firmwareSize s.offset).toNat <+:
            p.content.take firmwareSize.toNat := List.take_prefix_take_left (by omega)
        rw [chunks_append]
        simpa [chunks, OtaCall.chunk] using extended ▸ upTo
      · simp only [chunks, OtaCall.chunk, List.filterMap_cons, List.filterMap_nil,
          List.forall_mem_singleton]
        omega
      · simp
  · rw [if_neg readOk]
    exact .inl ⟨rfl, pushing.read_failed _ _ _ _, .inr ⟨_, .inl readOk⟩⟩

/-- **A whole transfer** has sent all, or something fails and it is given up. -/
theorem transfer_pushing (p : Partition) (o : OtaOutcomes) (firmwareSize : UInt32) :
    ∃ s, whileLoop (fun s => some (!s.stopped && decide (s.offset < firmwareSize)))
        (fun s => some (pushChunk p o firmwareSize s)) (firmwareSize.toNat + 2)
        ⟨0, 0, [(.otaBegin, .ok)], false⟩ = some s ∧
      ((s.stopped = true ∧ Sound p firmwareSize.toNat s.log ∧ Fails p o firmwareSize.toNat) ∨
        (Pushing p firmwareSize.toNat s ∧ s.offset.toNat = firmwareSize.toNat)) := by
  have fresh : Pushing p firmwareSize.toNat ⟨0, 0, [(.otaBegin, .ok)], false⟩ :=
    ⟨rfl, rfl, ⟨Nat.zero_le _, Nat.zero_le _⟩, List.forall_mem_nil _, List.mem_singleton.mpr rfl,
      List.forall_mem_singleton.mpr (by simp)⟩
  obtain ⟨s, ends, holds, stops⟩ := @whileLoop_rule Transfer
    (fun s => some (!s.stopped && decide (s.offset < firmwareSize)))
    (fun s => some (pushChunk p o firmwareSize s)) (firmwareSize.toNat + 2)
    ⟨0, 0, [(.otaBegin, .ok)], false⟩
    (fun s => (s.stopped = true ∧ Sound p firmwareSize.toNat s.log ∧ Fails p o firmwareSize.toNat) ∨
      Pushing p firmwareSize.toNat s)
    (fun s => if s.stopped then 0 else firmwareSize.toNat - s.offset.toNat + 1)
    (by
      rintro s (given | pushing)
      · exact .inl (by simp [given.1])
      · by_cases more : s.offset < firmwareSize
        · have before := UInt32.lt_iff_toNat_lt.mp more
          refine .inr ⟨by simp [pushing.running, more], _, rfl, ?_⟩
          rcases pushChunk_pushing (o := o) pushing more with given | ⟨next, further⟩
          · exact ⟨.inl given, by simp [given.1, pushing.running]⟩
          · refine ⟨.inr next, ?_⟩
            rw [next.running, pushing.running]
            simp only [Bool.false_eq_true, if_false]
            omega
        · exact .inl (by simp [more]))
    (.inr fresh) (by simp)
  refine ⟨s, ends, holds.imp_right fun pushing => ⟨pushing, ?_⟩⟩
  have all : ¬ s.offset < firmwareSize := by
    simpa [pushing.running] using stops
  have atEnd := mt UInt32.lt_iff_toNat_lt.mpr all
  have inside := pushing.offset.1
  omega

/-! ### The update as a whole -/

/-- **A transfer that has sent all** may be activated. -/
theorem Pushing.activate {s : Transfer} {size : Nat} (pushing : Pushing p size s)
    (all : s.offset.toNat = size) (activated : EspErr) :
    Sound p size
      (s.log ++ [(.otaEnd, .ok), (.otaActivate, activated), (.restartHost, .ok)]) where
  sent := pushing.sent_prefix rfl
  sizes := by
    rw [chunks_append]
    refine List.forall_mem_append.mpr ⟨pushing.sizes, ?_⟩
    simp [chunks, OtaCall.chunk]
  complete := by
    intro _
    refine ⟨by rw [pushing.sent_with rfl, all], all ▸ pushing.offset.2, ?_⟩
    · refine List.forall_mem_append.mpr ⟨fun event member _ => (pushing.calls event member).1, ?_⟩
      simp
  ended := by
    rw [ends_append, pushing.no_end, if_pos (List.mem_append_left _ pushing.begun)]
    rfl

theorem pushFirmware_sound (p : Partition) (o : OtaOutcomes) (firmwareSize : UInt32) :
    ∃ log, pushFirmware p o firmwareSize = some log ∧ Sound p firmwareSize.toNat log := by
  unfold pushFirmware
  by_cases begun : o.otaBegin = .ok
  · rw [if_neg (not_not.mpr begun)]
    obtain ⟨s, ends, result⟩ := transfer_pushing p o firmwareSize
    rw [ends, Option.map_some]
    rcases result with ⟨stopped, sound, _⟩ | ⟨pushing, all⟩
    · rw [if_pos stopped]
      exact ⟨_, rfl, sound⟩
    · rw [if_neg (by simp [pushing.running])]
      split
      · refine ⟨_, rfl, pushing.give_up (pushing.sent_prefix rfl) ?_ rfl ?_⟩
        · simp [chunks, OtaCall.chunk]
        · simp
      · exact ⟨_, rfl, pushing.activate all o.activate⟩
  · rw [if_pos begun]
    refine ⟨_, rfl, List.nil_prefix, List.forall_mem_nil _, ?_, ?_⟩
    · rintro ⟨event, member, activates⟩
      rw [List.mem_singleton.mp member] at activates
      simp at activates
    · rw [if_neg]
      · rfl
      · simpa using Ne.symm begun

/-- **The transfer is complete or not activated.** For every size, and whatever the calls return, the
transfer ends: the chunks are a first part of the image, of 1 to 1500 bytes each; it is activated, and
the host restarted, only if they are all of the image and nothing has failed; and it is ended once if
it was begun, and else never. The function makes such a transfer of the image it has parsed, or no
call at all. -/
theorem ota_complete_or_inactive (format : ImageFormat) (partition : Option Partition)
    (o : OtaOutcomes) :
    (∀ (p : Partition) (firmwareSize : UInt32), ∃ log, pushFirmware p o firmwareSize = some log ∧
      Sound p firmwareSize.toNat log) ∧
    ∃ log, wifiCpOtaUpdateIfNeeded format partition o = some log ∧
      (log = [] ∨ ∃ p firmwareSize, partition = some p ∧
        parseImageHeader format p o.headerRead = .ok firmwareSize ∧
        Sound p firmwareSize.toNat log) := by
  refine ⟨fun p firmwareSize => pushFirmware_sound p o firmwareSize, ?_⟩
  unfold wifiCpOtaUpdateIfNeeded
  cases partition with
  | none => exact ⟨[], rfl, .inl rfl⟩
  | some p =>
      dsimp only
      cases parsed : parseImageHeader format p o.headerRead with
      | error err => exact ⟨[], rfl, .inl rfl⟩
      | ok firmwareSize =>
          dsimp only
          split
          · exact ⟨[], rfl, .inl rfl⟩
          split
          · exact ⟨[], rfl, .inl rfl⟩
          · obtain ⟨log, pushed, sound⟩ := pushFirmware_sound p o firmwareSize
            exact ⟨log, pushed, .inr ⟨p, firmwareSize, rfl, parsed, sound⟩⟩

/-- Nothing fails, and the version of the coprocessor cannot be read. -/
def OtaOutcomes.good : OtaOutcomes where
  headerRead := fun _ => .ok
  runningVersion := none
  otaBegin := .ok
  read := fun _ => .ok
  write := fun _ => .ok
  otaEnd := .ok
  activate := .ok

/-- **If nothing fails, all bytes are sent.** -/
theorem pushFirmware_all (inside : firmwareSize.toNat ≤ p.content.length) :
    ∃ log, pushFirmware p .good firmwareSize = some log ∧
      (chunks log).flatten = p.content.take firmwareSize.toNat := by
  obtain ⟨s, ends, result⟩ := transfer_pushing p .good firmwareSize
  rcases result with ⟨_, _, fails⟩ | ⟨pushing, all⟩
  · rcases fails with long | ⟨k, read | write⟩
    · omega
    · exact absurd rfl read
    · exact absurd rfl write
  · have pushed : pushFirmware p .good firmwareSize =
        some (s.log ++ [(.otaEnd, .ok), (.otaActivate, .ok), (.restartHost, .ok)]) := by
      unfold pushFirmware
      rw [if_neg (by simp [OtaOutcomes.good]), ends, Option.map_some,
        if_neg (by simp [pushing.running]), if_neg (by simp [OtaOutcomes.good])]
      rfl
    exact ⟨_, pushed, by rw [pushing.sent_with rfl, all]⟩

end Tab5
