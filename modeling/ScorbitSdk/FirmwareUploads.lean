import ScorbitSdk.CalendarTimes
import ScorbitSdk.Discovery
import ScorbitSdk.SerialCables

/-!
# When the firmware of a probe is upgraded

The probe tells the time of its firmware in decimal digits, and the time of the
firmware file is packed into such digits too.  The two numbers are subtracted,
and less than thirty is taken for less than thirty seconds.
-/

namespace ScorbitSdk

open BoundedMemory CalendarTimes

namespace FirmwareUpload

/-- What an upload reads of a probe's information. -/
structure ProbeInformations where
  magic : BitVec 16
  timestampHeader : BitVec 16
  timestampUTC : BitVec 64
deriving DecidableEq

/-- `Util::ReadUInt16LE` of a vector. -/
def readUInt16LE (data : List Byte) (pos : Nat) : BitVec 16 :=
  (Discovery.readUInt16LE data data.length pos).getD 0

/-- `Util::ReadUInt64LE` of a vector. -/
def readUInt64LE (data : List Byte) (pos : Nat) : BitVec 64 :=
  (Discovery.readUInt64LE data data.length pos).getD 0

/-- `GetInformations`, of the reply to the command that reads 128 bytes. -/
def getInformations (data : List Byte) : Option ProbeInformations :=
  if data = [] then none
  else
    let magic := readUInt16LE data 0
    if magic ≠ 0xCAFE then none
    else
      let timestampHeader := readUInt16LE data 22
      let timestampUTC :=
        if timestampHeader ≠ 0 then 0  -- An obsolete probe has a text there
        else readUInt64LE data 24
      some { magic, timestampHeader, timestampUTC }

/-- The digits of the file's time, in 64 bits. -/
def fileTimestampUTC (tm : CivilTime) : BitVec 64 :=
  BitVec.ofNat 64 tm.year * 10000000000
    + BitVec.ofNat 64 tm.month * 100000000
    + BitVec.ofNat 64 tm.day * 1000000
    + BitVec.ofNat 64 tm.hour * 10000
    + BitVec.ofNat 64 tm.minute * 100
    + BitVec.ofNat 64 tm.second

/-- What `UploadFirmware` finds: whether the file is there, the time that
`gmtime_r` gives for its last change, whether the cable is open, and the probe's
reply. -/
structure Surroundings where
  fileExists : String → Bool
  lastWriteTime : String → Option CivilTime
  isOpen : Bool
  reply : List Byte

/-- How `UploadFirmware` goes on: it returns at once, or it switches the probe to
its bootloader. -/
inductive Start
  | fileNotFound
  | dateUnreadable
  | notNeeded
  | goesOn
deriving DecidableEq

/-- `UploadFirmware` as far as the decision whether an upgrade is needed. -/
def uploadFirmware (around : Surroundings) (firmwareFilename : String)
    (bForceUpgrade : Bool) : Start :=
  let bUploadFile := firmwareFilename ≠ ""
  if bUploadFile then
    if !around.fileExists firmwareFilename then .fileNotFound
    else
      let pbi := if around.isOpen then getInformations around.reply else none
      let bForceUpgrade := if pbi = none then true else bForceUpgrade
      if !bForceUpgrade then
        match around.lastWriteTime firmwareFilename, pbi with
        | some tm, some pbi =>
            if (fileTimestampUTC tm).toInt - pbi.timestampUTC.toInt < 30 &&
                !bForceUpgrade then .notNeeded
            else .goesOn
        | _, _ => .dateUnreadable
      else .goesOn
  else .goesOn

/-! ## The digits in 64 bits -/

/-- The digits of years with four of them fit. -/
theorem packed_lt {time : CivilTime} (fourDigits : time.year ≤ 9999) :
    time.packed < 10 ^ 14 := by
  have monthLe := time.month_le
  have dayLe := Nat.le_trans time.day_le (daysInMonth_le ..)
  have hourLt := time.hour_lt
  have minuteLt := time.minute_lt
  have secondLt := time.second_lt
  unfold CivilTime.packed CivilTime.packedMinute
  omega

theorem fileTimestampUTC_eq (tm : CivilTime) :
    fileTimestampUTC tm = BitVec.ofNat 64 tm.packed := by
  have digits : tm.packed = tm.year * 10000000000 + tm.month * 100000000 +
      tm.day * 1000000 + tm.hour * 10000 + tm.minute * 100 + tm.second := by
    unfold CivilTime.packed CivilTime.packedMinute
    omega
  simp only [digits, BitVec.ofNat_add, BitVec.ofNat_mul, fileTimestampUTC,
    BitVec.ofNat_eq_ofNat]

theorem toInt_packed {time : CivilTime} (fourDigits : time.year ≤ 9999) :
    (BitVec.ofNat 64 time.packed).toInt = time.packed := by
  have bound := packed_lt fourDigits
  rw [BitVec.toInt_eq_toNat_of_lt]
  · rw [BitVec.toNat_ofNat, Nat.mod_eq_of_lt (by omega)]
  · rw [BitVec.toNat_ofNat, Nat.mod_eq_of_lt (by omega)]
    omega

/-! ## The decision -/

section Decision

/-- An upload that compares the two times: it is not forced, the file is there
and its time is known, and the probe has told the time of its firmware. -/
structure Compares (around : Surroundings) (firmwareFilename : String)
    (file probe : CivilTime) : Prop where
  named : firmwareFilename ≠ ""
  exists_file : around.fileExists firmwareFilename = true
  dated : around.lastWriteTime firmwareFilename = some file
  isOpen : around.isOpen = true
  informed : ∃ pbi, getInformations around.reply = some pbi ∧
    pbi.timestampUTC = BitVec.ofNat 64 probe.packed
  file_digits : file.year ≤ 9999
  probe_digits : probe.year ≤ 9999

variable {around : Surroundings} {firmwareFilename : String}
  {file probe : CivilTime}

/-- The upgrade is skipped where the digits differ by less than thirty. -/
theorem uploadFirmware_eq_notNeeded_iff
    (compares : Compares around firmwareFilename file probe) :
    uploadFirmware around firmwareFilename false = .notNeeded ↔
      (file.packed : Int) - probe.packed < 30 := by
  obtain ⟨pbi, informed, timestamp⟩ := compares.informed
  simp only [uploadFirmware, compares.exists_file, compares.isOpen, informed,
    compares.dated, fileTimestampUTC_eq]
  simp [compares.named, timestamp, toInt_packed compares.file_digits,
    toInt_packed compares.probe_digits]

/-- The file's time is later than the probe's by less than thirty seconds, and in
another minute. -/
def JustOverMinute (file probe : CivilTime) : Prop :=
  probe.seconds < file.seconds ∧ (file.seconds : Int) - probe.seconds < 30 ∧
    ¬SameMinute probe file

/-- For which times the upgrade is skipped just where the file's time is less than
thirty seconds after the probe's. -/
theorem skipsByTime_iff (compares : Compares around firmwareFilename file probe) :
    (uploadFirmware around firmwareFilename false = .notNeeded ↔
      (file.seconds : Int) - probe.seconds < 30) ↔ ¬JustOverMinute file probe := by
  rw [uploadFirmware_eq_notNeeded_iff compares]
  unfold JustOverMinute
  rcases packed_sub_packed probe file with ⟨same, digits⟩ |
    ⟨earlier, digits, seconds⟩ | ⟨later, digits, seconds⟩
  · simp only [same, digits, not_true_eq_false, and_false, not_false_eq_true]
  · -- From one minute to a later one the digits never differ by less than thirty.
    have other : ¬SameMinute probe file := fun same =>
      absurd same.minuteNumber_eq (Nat.ne_of_lt earlier.minuteNumber_lt)
    simp only [other, seconds, not_false_eq_true, and_true, true_and]
    omega
  · omega

end Decision

/-! ## A file ten seconds newer than the firmware -/

namespace Sample

/-- 2025-08-12 12:24:55. -/
def probe : CivilTime where
  year := 2025
  month := 8
  day := 12
  hour := 12
  minute := 24
  second := 55
  month_pos := by decide
  month_le := by decide
  day_pos := by decide
  day_le := by decide
  hour_lt := by decide
  minute_lt := by decide
  second_lt := by decide

/-- Ten seconds later. -/
def file : CivilTime :=
  { probe with
    minute := 25
    second := 5
    minute_lt := by decide
    second_lt := by decide }

/-- The reply of a probe with the time of its firmware. -/
def reply : List Byte :=
  [0xFE, 0xCA] ++ List.replicate 22 0 ++
    Discovery.serialBytes (BitVec.ofNat 64 probe.packed) ++ List.replicate 96 0

def around : Surroundings where
  fileExists _ := true
  lastWriteTime _ := some file
  isOpen := true
  reply := reply

theorem compares : Compares around "firmware.uf2" file probe where
  named := by decide
  exists_file := rfl
  dated := rfl
  isOpen := rfl
  informed := ⟨⟨0xCAFE, 0, BitVec.ofNat 64 probe.packed⟩, by decide +kernel, rfl⟩
  file_digits := by decide
  probe_digits := by decide

def aroundSame : Surroundings :=
  { around with lastWriteTime := fun _ => some probe }

theorem comparesSame : Compares aroundSame "firmware.uf2" probe probe where
  named := compares.named
  exists_file := rfl
  dated := rfl
  isOpen := rfl
  informed := compares.informed
  file_digits := compares.probe_digits
  probe_digits := compares.probe_digits

theorem seconds_eq : file.seconds = probe.seconds + 10 := by
  have sameDay : SameDay file probe := ⟨rfl, rfl, rfl⟩
  have apart : (file.hour * 60 + file.minute) * 60 + file.second =
      (probe.hour * 60 + probe.minute) * 60 + probe.second + 10 := rfl
  have counted := sameDay.seconds_add
  omega

end Sample

/-- The firmware is replaced by a file that is ten seconds newer. -/
theorem not_skipsByTime_overMinute :
    Compares Sample.around "firmware.uf2" Sample.file Sample.probe ∧
      ¬(uploadFirmware Sample.around "firmware.uf2" false = .notNeeded ↔
        (Sample.file.seconds : Int) - Sample.probe.seconds < 30) := by
  refine ⟨Sample.compares, fun decided => ?_⟩
  have skipped := decided.mpr (by rw [Sample.seconds_eq]; omega)
  exact absurd skipped (by decide +kernel)

/-- An upload of a file of the probe's own time is skipped. -/
theorem skipsByTime_sameTime :
    (uploadFirmware Sample.aroundSame "firmware.uf2" false = .notNeeded ↔
      (Sample.probe.seconds : Int) - Sample.probe.seconds < 30) ↔
        ¬JustOverMinute Sample.probe Sample.probe :=
  skipsByTime_iff Sample.comparesSame

end FirmwareUpload

end ScorbitSdk
