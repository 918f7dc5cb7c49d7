import ScorbitSdk.BoundedMemory
import Mathlib.Data.List.TakeWhile

/-!
# The discovery packets

A device answers a discovery broadcast with its game name, its provider, the
provider's serial and more info, in a payload of at most 1024 bytes: each
string up to its first NUL, cut where the payload ends, then a terminator.
What the finder of the device reads is related to what was put in.
-/

namespace ScorbitSdk.Discovery

open BoundedMemory

/-- `DeviceInfo_t`, each string as its bytes. -/
structure DeviceInfo where
  gameName : List Byte
  providerInfo : List Byte
  providerSerial : BitVec 64
  extraInfo : List Byte
  ipAddress : List Byte
deriving DecidableEq, Repr

def kMaxPayloadSize : Nat := 1024

/-! ## `Util` -/

def readUInt16LE : WordReader 16 := readHalves 1 readByte
def readUInt32LE : WordReader 32 := readHalves 2 readUInt16LE
def readUInt64LE : WordReader 64 := readHalves 4 readUInt32LE

def writeLE16 : WordWriter 16 := writeHalves 1 writeByte
def writeLE32 : WordWriter 32 := writeHalves 2 writeLE16
def writeLE64 : WordWriter 64 := writeHalves 4 writeLE32

/-- The bytes of a serial. -/
def serialBytes : BitVec 64 → List Byte :=
  encodeHalves (encodeHalves (encodeHalves fun value : Byte => [value]))

theorem serialCodec : WordCodec 8 serialBytes readUInt64LE writeLE64 :=
  byteCodec.halves.halves.halves

/-! ## The payload of a response -/

/-- The part of a string before its first NUL. -/
def cutAtNull (s : List Byte) : List Byte :=
  match s.findIdx? (· = 0) with
  | some z => s.take z
  | none => s

/-- `AppendZ`: the number of bytes copied, the buffer and the new position. -/
def appendZ (buffer : List Byte) (bufferSize pos : Nat) (s : List Byte) :
    Option (Nat × List Byte × Nat) :=
  let s := cutAtNull s
  if pos ≥ bufferSize then some (0, buffer, pos)
  else do
    let remaining := bufferSize - pos
    let toCopy := if s.length > remaining - 1 then remaining - 1 else s.length
    let copied :=
      if toCopy ≠ 0 then (slice s 0 toCopy).bind (memcpyInto buffer pos)
      else some buffer
    let buffer ← memcpyInto (← copied) (pos + toCopy) [0]
    some (toCopy, buffer, pos + toCopy + 1)

/-- The payload that `ListenerThreadProc` answers with. -/
def responsePayload (info : DeviceInfo) : Option (List Byte) := do
  let size := kMaxPayloadSize
  let (_, buffer, pos) ← appendZ (List.replicate size 0) size 0 info.gameName
  let (_, buffer, pos) ← appendZ buffer size pos info.providerInfo
  let (written, buffer) ← writeLE64 buffer size pos info.providerSerial
  let pos := if written then pos + 8 else size
  let (_, buffer, payloadLen) ← appendZ buffer size pos info.extraInfo
  slice buffer 0 payloadLen

/-- `ReadNextZ`: the string and the position behind it. -/
def readNextZ (buffer : List Byte) (bufferSize pos : Nat) :
    Option (List Byte × Nat) :=
  if pos ≥ bufferSize then some ([], pos)
  else do
    let leading ← buffer[pos]?
    if leading = 0 then some ([], pos + 1)
    else
      match ← memchr buffer 0 pos (bufferSize - pos) with
      | none => some ([], pos)  -- No terminator, and the position stays
      | some place => do
          let len := place - pos
          let text ← slice buffer pos len
          some (text, pos + (len + 1))

/-- The device that `Discover` finds in a payload. -/
def discovered (ipAddress payload : List Byte) : Option DeviceInfo := do
  let payloadSize := payload.length
  let (gameName, pos) ← readNextZ payload payloadSize 0
  let (providerInfo, pos) ← readNextZ payload payloadSize pos
  let serial :=
    if pos + 8 ≤ payloadSize then readUInt64LE payload payloadSize pos
    else some 0
  let providerSerial ← serial
  let (extraInfo, _) ← readNextZ payload payloadSize (pos + 8)
  some { gameName, providerInfo, providerSerial, extraInfo, ipAddress }

/-! ## What is read stays inside -/

theorem readNextZ_inside (payload : List Byte) (pos : Nat) :
    ∃ next, readNextZ payload payload.length pos = some next := by
  unfold readNextZ
  split
  · exact ⟨_, rfl⟩
  · next before =>
      have present : pos < payload.length := Nat.lt_of_not_le before
      simp only [List.getElem?_eq_getElem present, Option.bind_eq_bind,
        Option.bind_some]
      split
      · exact ⟨_, rfl⟩
      · obtain ⟨found, searched, bounds⟩ := memchr_inside payload 0 pos
          (payload.length - pos) (by omega)
        cases found with
        | none => exact ⟨_, by rw [searched]; rfl⟩
        | some place =>
            have bound := bounds place rfl
            have inside : pos + (place - pos) ≤ payload.length := by omega
            exact ⟨_, by rw [searched]; simp [slice, if_pos inside]; rfl⟩

theorem readSerial_inside (payload : List Byte) (pos : Nat) :
    ∃ serial, (if pos + 8 ≤ payload.length then
      readUInt64LE payload payload.length pos else some 0) = some serial := by
  split
  · next inside => exact serialCodec.read_inside payload pos inside
  · exact ⟨0, rfl⟩

/-- Every payload is decoded without a read outside of it. -/
theorem discovered_inside (ipAddress payload : List Byte) :
    ∃ info, discovered ipAddress payload = some info := by
  obtain ⟨gameName, readName⟩ := readNextZ_inside payload 0
  obtain ⟨providerInfo, readProvider⟩ := readNextZ_inside payload gameName.2
  obtain ⟨serial, readSerial⟩ := readSerial_inside payload providerInfo.2
  obtain ⟨extraInfo, readExtra⟩ :=
    readNextZ_inside payload (providerInfo.2 + 8)
  refine ⟨⟨gameName.1, providerInfo.1, serial, extraInfo.1, ipAddress⟩, ?_⟩
  simp only [discovered, readName, readProvider, readSerial, readExtra,
    Option.bind_eq_bind, Option.bind_some]

/-! ## The payload in parts -/

theorem cutAtNull_eq_takeWhile (s : List Byte) :
    cutAtNull s = s.takeWhile (· ≠ 0) := by
  induction s with
  | nil => rfl
  | cons byte s ih =>
      by_cases null : byte = 0
      · simp [cutAtNull, null, List.findIdx?_cons]
      · rw [List.takeWhile_cons_of_pos (by simpa using null), ← ih]
        unfold cutAtNull
        rw [List.findIdx?_cons, if_neg (by simpa using null)]
        cases s.findIdx? (· = 0) <;> rfl

theorem null_notMem_cutAtNull (s : List Byte) : 0 ∉ cutAtNull s := by
  intro member
  rw [cutAtNull_eq_takeWhile] at member
  simpa using List.mem_takeWhile_imp member

/-- What is put in where `room` bytes are left. -/
def withTerminator (room : Nat) (s : List Byte) : List Byte :=
  if room = 0 then [] else s.take (room - 1) ++ [0]

theorem length_withTerminator (room : Nat) (s : List Byte) :
    (withTerminator room s).length = min room (s.length + 1) := by
  unfold withTerminator
  split
  · next full => simp [full]
  · rw [List.length_append, List.length_take, List.length_singleton]
    omega

/-- A buffer of zeros in which some bytes have been written from the start. -/
def filled (size : Nat) (bytes : List Byte) : List Byte :=
  bytes ++ List.replicate (size - bytes.length) 0

theorem length_filled {size : Nat} {bytes : List Byte}
    (fits : bytes.length ≤ size) : (filled size bytes).length = size := by
  rw [filled, List.length_append, List.length_replicate]
  omega

theorem memcpyInto_filled {size : Nat} {bytes source : List Byte}
    (fits : bytes.length + source.length ≤ size) :
    memcpyInto (filled size bytes) bytes.length source =
      some (filled size (bytes ++ source)) := by
  rw [filled, memcpyInto_append (by rw [List.length_replicate]; omega),
    filled, List.drop_replicate, List.length_append, Nat.sub_sub]

/-- Appending a string fills in the string with its terminator. -/
theorem appendZ_filled (size : Nat) (bytes s : List Byte) :
    ∃ copied, appendZ (filled size bytes) size bytes.length s =
      some (copied,
        filled size
          (bytes ++ withTerminator (size - bytes.length) (cutAtNull s)),
        (bytes ++ withTerminator (size - bytes.length) (cutAtNull s)).length) := by
  unfold appendZ
  generalize cutAtNull s = s
  by_cases full : bytes.length ≥ size
  · refine ⟨0, ?_⟩
    simp [if_pos full, withTerminator, Nat.sub_eq_zero_of_le full]
  · have room : size - bytes.length ≠ 0 := by omega
    set text := s.take (size - bytes.length - 1) with text_eq
    have toCopy : (if s.length > size - bytes.length - 1 then
        size - bytes.length - 1 else s.length) = text.length := by
      rw [text_eq, List.length_take]
      split <;> omega
    have small : text.length ≤ size - bytes.length - 1 := by
      rw [text_eq, List.length_take]
      omega
    have source : slice s 0 text.length = some text := by
      have shorter : 0 + text.length ≤ s.length := by
        rw [text_eq, List.length_take]
        omega
      rw [slice, if_pos shorter, List.drop_zero]
      exact congrArg some (List.prefix_iff_eq_take.mp (List.take_prefix ..)).symm
    have copied : (if text.length ≠ 0 then
        (slice s 0 text.length).bind (memcpyInto (filled size bytes) bytes.length)
        else some (filled size bytes)) = some (filled size (bytes ++ text)) := by
      split
      · rw [source, Option.bind_some, memcpyInto_filled (by omega)]
      · next empty =>
          rw [List.eq_nil_of_length_eq_zero (not_not.mp empty), List.append_nil]
    have terminated : memcpyInto (filled size (bytes ++ text))
        (bytes.length + text.length) [0] =
          some (filled size (bytes ++ text ++ [0])) := by
      rw [← List.length_append]
      apply memcpyInto_filled
      rw [List.length_append, List.length_singleton]
      omega
    refine ⟨text.length, ?_⟩
    simp only [if_neg full, toCopy, copied, terminated, Option.bind_eq_bind,
      Option.bind_some, withTerminator, if_neg room, ← text_eq,
      List.append_assoc, List.length_append, List.length_singleton,
      Nat.add_assoc]

/-- Reading where a string was put gives the string back, cut where the room
ended. -/
theorem readNextZ_withTerminator {s : List Byte} (clean : 0 ∉ s)
    (before : List Byte) (room : Nat) {rest : List Byte}
    (ends : room = 0 → rest = []) :
    readNextZ (before ++ withTerminator room s ++ rest)
      (before ++ withTerminator room s ++ rest).length before.length =
        some (s.take (room - 1), (before ++ withTerminator room s).length) := by
  by_cases full : room = 0
  · simp [readNextZ, withTerminator, full, ends full]
  · have cleanText : 0 ∉ s.take (room - 1) :=
      fun member => clean (List.mem_of_mem_take member)
    rw [withTerminator, if_neg full]
    generalize s.take (room - 1) = text at cleanText
    have payload : before ++ (text ++ [0]) ++ rest = before ++ text ++ 0 :: rest := by
      simp
    have count : (before ++ text ++ 0 :: rest).length - before.length =
        text.length + (rest.length + 1) := by
      simp only [List.length_append, List.length_cons]
      omega
    have searched := memchr_append cleanText before rest rest.length
    have left : ¬before.length ≥ (before ++ text ++ 0 :: rest).length := by
      simp only [List.length_append, List.length_cons]
      omega
    rw [payload, readNextZ, if_neg left]
    cases text with
    | nil => simp
    | cons byte text =>
        have leading : byte ≠ 0 := fun null =>
          cleanText (null ▸ List.mem_cons_self ..)
        have here : (before ++ byte :: text ++ 0 :: rest)[before.length]? =
            some byte := by simp
        have read : slice (before ++ byte :: text ++ 0 :: rest) before.length
            (before.length + (byte :: text).length - before.length) =
              some (byte :: text) := by
          rw [Nat.add_sub_cancel_left]
          exact slice_append ..
        rw [here, Option.bind_eq_bind, Option.bind_some, if_neg leading, count,
          searched]
        simp only [Option.bind_eq_bind, Option.bind_some, read]
        rw [Nat.add_sub_cancel_left, List.length_append, List.length_append,
          List.length_singleton]

theorem readNextZ_behind {buffer : List Byte} {pos : Nat}
    (behind : buffer.length ≤ pos) :
    readNextZ buffer buffer.length pos = some ([], pos) :=
  if_pos behind

/-! ## From the device to its finder -/

variable (info : DeviceInfo)

/-- The payload up to the game name's terminator. -/
def namePart : List Byte :=
  withTerminator kMaxPayloadSize (cutAtNull info.gameName)

/-- The payload up to the provider's terminator. -/
def providerPart : List Byte :=
  namePart info ++ withTerminator (kMaxPayloadSize - (namePart info).length)
    (cutAtNull info.providerInfo)

theorem length_namePart :
    (namePart info).length =
      min kMaxPayloadSize ((cutAtNull info.gameName).length + 1) :=
  length_withTerminator ..

theorem length_providerPart :
    (providerPart info).length = min kMaxPayloadSize
      ((namePart info).length + ((cutAtNull info.providerInfo).length + 1)) := by
  have bound := length_namePart info
  rw [providerPart, List.length_append, length_withTerminator]
  omega

/-- The serial goes behind the provider where there is room for its 8 bytes;
the rest of the payload is left zero where there is not. -/
def serialPart : List Byte :=
  if (providerPart info).length + 8 ≤ kMaxPayloadSize then
    providerPart info ++ serialBytes info.providerSerial
  else filled kMaxPayloadSize (providerPart info)

def extraPart : List Byte :=
  serialPart info ++ withTerminator (kMaxPayloadSize - (serialPart info).length)
    (cutAtNull info.extraInfo)

theorem writeSerial :
    ∃ written, writeLE64 (filled kMaxPayloadSize (providerPart info))
        kMaxPayloadSize (providerPart info).length info.providerSerial =
          some (written, filled kMaxPayloadSize (serialPart info)) ∧
      (if written then (providerPart info).length + 8 else kMaxPayloadSize) =
        (serialPart info).length := by
  have bound := length_providerPart info
  by_cases fits : (providerPart info).length + 8 ≤ kMaxPayloadSize
  · have length : (serialBytes info.providerSerial).length = 8 :=
      serialCodec.length_encode _
    refine ⟨true, ?_, ?_⟩
    · rw [serialPart, if_pos fits, filled, serialCodec.write_append _ _ _ _
        (by rw [List.length_replicate]; omega) fits, filled,
        List.drop_replicate, List.length_append, length, Nat.sub_sub]
    · rw [serialPart, if_pos fits, List.length_append, length, if_pos rfl]
  · have whole : (filled kMaxPayloadSize (providerPart info)).length =
        kMaxPayloadSize := length_filled (by omega)
    refine ⟨false, ?_, ?_⟩
    · have same : filled kMaxPayloadSize (serialPart info) =
          filled kMaxPayloadSize (providerPart info) := by
        rw [serialPart, if_neg fits]
        conv_lhs => rw [filled, whole, Nat.sub_self]
        exact List.append_nil _
      rw [same]
      exact if_pos (Nat.lt_of_not_le fits)
    · rw [serialPart, if_neg fits, whole]
      rfl

theorem length_serialPart :
    (serialPart info).length ≤ kMaxPayloadSize := by
  have bound := length_providerPart info
  unfold serialPart
  split
  · next fits =>
      rw [List.length_append, serialCodec.length_encode]
      exact fits
  · exact (length_filled (by omega)).le

/-- The payload is made of its four parts. -/
theorem responsePayload_eq : responsePayload info = some (extraPart info) := by
  obtain ⟨_, name⟩ := appendZ_filled kMaxPayloadSize [] info.gameName
  obtain ⟨_, provider⟩ :=
    appendZ_filled kMaxPayloadSize (namePart info) info.providerInfo
  obtain ⟨written, serial, pos⟩ := writeSerial info
  obtain ⟨_, extra⟩ :=
    appendZ_filled kMaxPayloadSize (serialPart info) info.extraInfo
  have empty : filled kMaxPayloadSize [] = List.replicate kMaxPayloadSize 0 :=
    rfl
  have payload : slice (filled kMaxPayloadSize (extraPart info)) 0
      (extraPart info).length = some (extraPart info) :=
    slice_append [] _ _
  rw [empty, List.nil_append, List.length_nil, Nat.sub_zero, ← namePart] at name
  rw [← providerPart] at provider
  rw [← extraPart] at extra
  simp only [responsePayload, Option.bind_eq_bind, name, provider, serial, pos,
    extra, payload, Option.bind_some]

theorem length_extraPart_of_full
    (full : ¬(providerPart info).length + 8 ≤ kMaxPayloadSize) :
    (extraPart info).length = kMaxPayloadSize := by
  have bound := length_providerPart info
  have serial : (serialPart info).length = kMaxPayloadSize := by
    rw [serialPart, if_neg full, length_filled (by omega)]
  rw [extraPart, List.length_append, length_withTerminator, serial]
  omega

/-- What stands behind the provider in the payload. -/
theorem exists_behind_provider :
    ∃ rest, extraPart info = providerPart info ++ rest := by
  unfold extraPart serialPart
  split
  · exact ⟨_, by rw [List.append_assoc]⟩
  · exact ⟨_, by rw [filled, List.append_assoc]⟩

theorem length_extraPart : (extraPart info).length ≤ kMaxPayloadSize := by
  have bound := length_serialPart info
  rw [extraPart, List.length_append, length_withTerminator]
  omega

theorem readProvider :
    readNextZ (extraPart info) (extraPart info).length (namePart info).length =
      some ((cutAtNull info.providerInfo).take
          (kMaxPayloadSize - (namePart info).length - 1),
        (providerPart info).length) := by
  obtain ⟨rest, payload⟩ := exists_behind_provider info
  have bound := length_extraPart info
  rw [payload, List.length_append] at bound
  have full : kMaxPayloadSize - (namePart info).length = 0 → rest = [] := by
    intro noRoom
    have whole : (providerPart info).length ≥ kMaxPayloadSize := by
      rw [providerPart, List.length_append]
      omega
    exact List.eq_nil_of_length_eq_zero (by omega)
  rw [payload]
  exact readNextZ_withTerminator (null_notMem_cutAtNull info.providerInfo)
    (namePart info) _ full

theorem readName :
    readNextZ (extraPart info) (extraPart info).length 0 =
      some ((cutAtNull info.gameName).take (kMaxPayloadSize - 1),
        (namePart info).length) := by
  obtain ⟨rest, payload⟩ := exists_behind_provider info
  rw [payload, providerPart, List.append_assoc]
  exact readNextZ_withTerminator (null_notMem_cutAtNull info.gameName) []
    kMaxPayloadSize nofun

/-- What the finder reads from the payload of a device. -/
def received (ipAddress : List Byte) : DeviceInfo where
  gameName := (cutAtNull info.gameName).take (kMaxPayloadSize - 1)
  providerInfo := (cutAtNull info.providerInfo).take
    (kMaxPayloadSize - (namePart info).length - 1)
  providerSerial :=
    if (providerPart info).length + 8 ≤ kMaxPayloadSize then info.providerSerial
    else 0
  extraInfo :=
    if (providerPart info).length + 8 ≤ kMaxPayloadSize then
      (cutAtNull info.extraInfo).take
        (kMaxPayloadSize - (serialPart info).length - 1)
    else []
  ipAddress := ipAddress

/-- The serial and the string behind it, as the finder reads them. -/
theorem readSerial_extraPart (ipAddress : List Byte) :
    (if (providerPart info).length + 8 ≤ (extraPart info).length then
      readUInt64LE (extraPart info) (extraPart info).length
        (providerPart info).length
      else some 0) = some (received info ipAddress).providerSerial ∧
    ∃ pos, readNextZ (extraPart info) (extraPart info).length
      ((providerPart info).length + 8) =
        some ((received info ipAddress).extraInfo, pos) := by
  by_cases fits : (providerPart info).length + 8 ≤ kMaxPayloadSize
  · have serial : serialPart info =
        providerPart info ++ serialBytes info.providerSerial := if_pos fits
    have pos : (serialPart info).length = (providerPart info).length + 8 := by
      rw [serial, List.length_append, serialCodec.length_encode]
    have inside : (providerPart info).length + 8 ≤ (extraPart info).length := by
      rw [extraPart, List.length_append]
      omega
    simp only [received, if_pos fits, if_pos inside]
    refine ⟨?_, (extraPart info).length, ?_⟩
    · have read := serialCodec.read_append (providerPart info)
        (withTerminator (kMaxPayloadSize - (serialPart info).length)
          (cutAtNull info.extraInfo)) info.providerSerial _ inside
      rw [← serial, ← extraPart] at read
      exact read
    · have read := readNextZ_withTerminator
        (null_notMem_cutAtNull info.extraInfo) (serialPart info)
        (kMaxPayloadSize - (serialPart info).length) fun _ => rfl
      rw [List.append_nil, ← extraPart] at read
      rwa [← pos]
  · have whole : (extraPart info).length = kMaxPayloadSize :=
      length_extraPart_of_full info fits
    have behind : ¬(providerPart info).length + 8 ≤ (extraPart info).length := by
      rwa [whole]
    rw [if_neg behind, received, if_neg fits, if_neg fits]
    exact ⟨rfl, _, readNextZ_behind (Nat.le_of_not_le behind)⟩

theorem discovered_extraPart (ipAddress : List Byte) :
    discovered ipAddress (extraPart info) = some (received info ipAddress) := by
  obtain ⟨serial, _, extra⟩ := readSerial_extraPart info ipAddress
  simp only [discovered, readName info, readProvider info, serial, extra,
    Option.bind_eq_bind, Option.bind_some]
  rfl

section Received

variable (ipAddress : List Byte)

theorem received_extraInfo_prefix :
    (received info ipAddress).extraInfo <+: cutAtNull info.extraInfo := by
  simp only [received]
  split
  · exact List.take_prefix ..
  · exact List.nil_prefix

theorem received_serial_or_zero :
    (received info ipAddress).providerSerial = info.providerSerial ∨
      (received info ipAddress).providerSerial = 0 := by
  simp only [received]
  split
  · exact Or.inl rfl
  · exact Or.inr rfl

theorem serial_fits
    (fits : (cutAtNull info.gameName).length +
      (cutAtNull info.providerInfo).length + 10 ≤ 1024) :
    (providerPart info).length + 8 ≤ kMaxPayloadSize := by
  have name := length_namePart info
  have provider := length_providerPart info
  unfold kMaxPayloadSize at *
  omega

theorem received_serial
    (fits : (cutAtNull info.gameName).length +
      (cutAtNull info.providerInfo).length + 10 ≤ 1024) :
    (received info ipAddress).providerSerial = info.providerSerial :=
  if_pos (serial_fits info fits)

theorem received_exact
    (fits : (cutAtNull info.gameName).length +
      (cutAtNull info.providerInfo).length +
      (cutAtNull info.extraInfo).length + 11 ≤ 1024) :
    (received info ipAddress).gameName = cutAtNull info.gameName ∧
      (received info ipAddress).providerInfo = cutAtNull info.providerInfo ∧
      (received info ipAddress).extraInfo = cutAtNull info.extraInfo ∧
      (received info ipAddress).providerSerial = info.providerSerial := by
  have serial := serial_fits info (by omega)
  have name := length_namePart info
  have provider := length_providerPart info
  have behind : (serialPart info).length = (providerPart info).length + 8 := by
    rw [serialPart, if_pos serial, List.length_append, serialCodec.length_encode]
  have size : kMaxPayloadSize = 1024 := rfl
  refine ⟨List.take_of_length_le (by omega), List.take_of_length_le (by omega),
    ?_, received_serial info ipAddress (by omega)⟩
  simp only [received, if_pos serial]
  exact List.take_of_length_le (by omega)

end Received

/-- The finder of a device reads prefixes of its strings, and its serial or
zero, and reads all there is where the payload has room for it.  It reads
nothing outside of a payload, whatever that is. -/
theorem discovered_responsePayload (ipAddress : List Byte) :
    (∀ info : DeviceInfo, ∃ payload found,
      responsePayload info = some payload ∧
      discovered ipAddress payload = some found ∧
      found.gameName <+: info.gameName.takeWhile (· ≠ 0) ∧
      found.providerInfo <+: info.providerInfo.takeWhile (· ≠ 0) ∧
      found.extraInfo <+: info.extraInfo.takeWhile (· ≠ 0) ∧
      (found.providerSerial = info.providerSerial ∨ found.providerSerial = 0) ∧
      ((info.gameName.takeWhile (· ≠ 0)).length +
          (info.providerInfo.takeWhile (· ≠ 0)).length +
          (info.extraInfo.takeWhile (· ≠ 0)).length + 11 ≤ 1024 →
        found.gameName = info.gameName.takeWhile (· ≠ 0) ∧
        found.providerInfo = info.providerInfo.takeWhile (· ≠ 0) ∧
        found.extraInfo = info.extraInfo.takeWhile (· ≠ 0) ∧
        found.providerSerial = info.providerSerial) ∧
      ((info.gameName.takeWhile (· ≠ 0)).length +
          (info.providerInfo.takeWhile (· ≠ 0)).length + 10 ≤ 1024 →
        found.providerSerial = info.providerSerial)) ∧
    ∀ payload : List Byte, ∃ found, discovered ipAddress payload = some found := by
  refine ⟨fun info => ?_, discovered_inside ipAddress⟩
  simp only [← cutAtNull_eq_takeWhile]
  exact ⟨_, _, responsePayload_eq info, discovered_extraPart info ipAddress,
    List.take_prefix .., List.take_prefix .., received_extraInfo_prefix ..,
    received_serial_or_zero .., received_exact info ipAddress,
    received_serial info ipAddress⟩

end ScorbitSdk.Discovery
