import ScorbitSdk.SoftwareTpm

/-!
# The mask of the private key

`ByteArray::initialize` masks the bytes of one array by those of another, over and
over, with an iterator that is set back just before it is used.  The private key
is written into the key file under such a mask, which comes off as it is read.
-/

namespace ScorbitSdk

open BoundedMemory

namespace ByteArrays

/-! ## Masking by position -/

/-- Where the iterator has passed some of the mask, the bytes meet the mask from
there on, round and round. -/
theorem getElem?_initializeFrom {initArray : List Byte} (nonempty : initArray ≠ [])
    {passed : Nat} (inside : passed ≤ initArray.length) {bytes : List Byte}
    {i : Nat} {byte : Byte} (present : bytes[i]? = some byte) :
    ∃ mask, initArray[(passed + i) % initArray.length]? = some mask ∧
      (initializeFrom initArray bytes (initArray.drop passed))[i]? =
        some (byte ^^^ mask) := by
  induction bytes generalizing passed i with
  | nil => simp at present
  | cons first bytes ih =>
      have positive := List.length_pos_iff.mpr nonempty
      rcases Nat.lt_or_ge passed initArray.length with before | atEnd
      · rw [List.drop_eq_getElem_cons before, initializeFrom]
        cases i with
        | zero =>
            obtain rfl : first = byte := by simpa using present
            refine ⟨initArray[passed], ?_, by simp⟩
            rw [Nat.add_zero, Nat.mod_eq_of_lt before,
              List.getElem?_eq_getElem before]
        | succ i =>
            have later : bytes[i]? = some byte := by simpa using present
            have next := ih (Nat.succ_le_of_lt before) later
            rw [Nat.succ_eq_add_one] at next
            rw [Nat.add_right_comm, Nat.add_assoc] at next
            simpa using next
      · -- The iterator is at the end, and starts again.
        obtain rfl : passed = initArray.length := by omega
        obtain ⟨mask, left, split⟩ := List.exists_cons_of_ne_nil nonempty
        have around : ∀ j, (initArray.length + j) % initArray.length =
            j % initArray.length := by simp
        rw [List.drop_length]
        cases i with
        | zero =>
            obtain rfl : first = byte := by simpa using present
            refine ⟨mask, ?_, by simp [split, initializeFrom]⟩
            rw [around, Nat.zero_mod]
            simp [split]
        | succ i =>
            have later : bytes[i]? = some byte := by simpa using present
            have next := ih (show 1 ≤ initArray.length from positive) later
            have behind : initArray.drop 1 = left := by simp [split]
            rw [behind, Nat.add_comm 1 i] at next
            rw [around]
            simpa [split, initializeFrom] using next

/-- Every byte is masked by the byte at its place, counted round the mask. -/
theorem getElem?_initializeBytes {initArray : List Byte} (nonempty : initArray ≠ [])
    {bytes : List Byte} {i : Nat} {byte : Byte} (present : bytes[i]? = some byte) :
    ∃ mask, initArray[i % initArray.length]? = some mask ∧
      (initializeBytes bytes initArray)[i]? = some (byte ^^^ mask) := by
  have masked := getElem?_initializeFrom nonempty (Nat.zero_le _) present
  rw [Nat.zero_add, List.drop_zero] at masked
  rwa [initializeBytes, if_neg nonempty]

/-- Masking keeps the length, masks by position, and is undone by itself. -/
structure Masks (bytes initArray : List Byte) : Prop where
  undone : initializeBytes (initializeBytes bytes initArray) initArray = bytes
  length_eq : (initializeBytes bytes initArray).length = bytes.length
  byPosition : initArray ≠ [] → ∀ i byte, bytes[i]? = some byte →
    ∃ mask, initArray[i % initArray.length]? = some mask ∧
      (initializeBytes bytes initArray)[i]? = some (byte ^^^ mask)
  unmasked : initArray = [] → initializeBytes bytes initArray = bytes

theorem masks (bytes initArray : List Byte) : Masks bytes initArray where
  undone := initializeBytes_initializeBytes bytes initArray
  length_eq := length_initializeBytes bytes initArray
  byPosition nonempty _ _ present := getElem?_initializeBytes nonempty present
  unmasked empty := by simp [initializeBytes, empty]

end ByteArrays

namespace SoftwareTpm

open ByteArrays

variable {Random Text : Type*} {crypto : Crypto Random} {json : JsonLibrary Text}
  {files written : Files Text} {filename : String} {serial : BitVec 64}
  {uuid signKey publicKey key signature : List Byte}

/-! ## The key in the file -/

/-- The data that a TPM may have from a key file: they have the right lengths, and
their signature is verified, with the serial as it is reread. -/
structure Accepted (crypto : Crypto Random) (serial : BitVec 64)
    (uuid key signature : List Byte) (reader : SoftwareTpm) : Prop where
  uuidSize : uuid.length = 16
  keySize : key.length = 32
  verified : crypto.ecdsaVerify reader.verifyPublicKey
    (compiledMessageDigest crypto (rereadSerial serial) uuid key) signature = true

/-- The file has the key under the mask, and whoever reads it with the same mask
has the key itself, or nothing of what does not pass the checks. -/
structure UnmasksKey (crypto : Crypto Random) (json : JsonLibrary Text)
    (written : Files Text) (filename : String) (serial : BitVec 64)
    (uuid key signature initArray : List Byte) : Prop where
  masked : ∃ members, readJsonFile json written filename = .object members ∧
    members.lookup "key" = some (.string (hex (initializeBytes key initArray)))
  unmasked : ∀ reader, reader.initArray = initArray →
    Accepted crypto serial uuid key signature reader →
      readData crypto json written filename reader =
        some { reader with serial := rereadSerial serial, uuid, key }
  refused : ∀ reader, reader.initArray = initArray →
    ¬Accepted crypto serial uuid key signature reader →
      readData crypto json written filename reader = some reader.clear

theorem unmasksKey_of_file {initArray : List Byte}
    (file : readJsonFile json written filename = .object
      (jsonObj serial uuid (initializeBytes key initArray) signature)) :
    UnmasksKey crypto json written filename serial uuid key signature
      initArray where
  masked := ⟨_, file, (lookup_jsonObj ..).2.2.1⟩
  unmasked := by
    rintro reader rfl accepted
    rw [readData_jsonObj crypto json reader file accepted.uuidSize
      accepted.keySize, if_pos accepted.verified]
  refused := by
    rintro reader rfl notAccepted
    by_cases sizes : uuid.length = 16 ∧ key.length = 32
    · rw [readData_jsonObj crypto json reader file sizes.1 sizes.2, if_neg]
      exact fun verified => notAccepted ⟨sizes.1, sizes.2, verified⟩
    · exact readData_jsonObj_of_sizes reader file sizes

/-- Masking by position is undone by itself.  Where a key is generated, a
signature is made and the file can be written, provisioning writes the key under
the mask, which comes off as the file is read. -/
theorem keyMasking (roundTrips : json.RoundTrips) (keyRandom signRandom : Random)
    (tpm : SoftwareTpm)
    (generated : crypto.generateEcdsaKeyPair keyRandom = (true, publicKey, key))
    (signed : crypto.ecdsaSign signRandom
      (initializeBytes signKey tpm.initArray)
      (compiledMessageDigest crypto serial uuid key) = some signature)
    (canWrite : files.canWrite filename = true) :
    (∀ bytes initArray : List Byte, Masks bytes initArray) ∧
      ∃ provisioned written,
        startProvisioning crypto json files keyRandom signRandom filename serial
          uuid signKey tpm = some (provisioned.isValid, provisioned, written) ∧
        readData crypto json written filename
          { tpm with serial, uuid, publicKey, key } = some provisioned ∧
        UnmasksKey crypto json written filename serial uuid key signature
          tpm.initArray := by
  refine ⟨masks, ?_⟩
  obtain ⟨written, file, provisioning⟩ := startProvisioning_written keyRandom
    signRandom serial uuid roundTrips generated signed canWrite
  have unmasks : UnmasksKey crypto json written filename serial uuid key signature
      tpm.initArray :=
    unmasksKey_of_file file
  let reader : SoftwareTpm := { tpm with serial, uuid, publicKey, key }
  obtain ⟨provisioned, read⟩ : ∃ provisioned,
      readData crypto json written filename reader = some provisioned := by
    by_cases accepted : Accepted crypto serial uuid key signature reader
    · exact ⟨_, unmasks.unmasked reader rfl accepted⟩
    · exact ⟨_, unmasks.refused reader rfl accepted⟩
  refine ⟨provisioned, written, ?_, read, unmasks⟩
  rw [provisioning, read]
  rfl

/-- The device with the serial 12345 is provisioned, and has its key. -/
theorem keyMasking_sample :
    (∀ bytes initArray : List Byte, Masks bytes initArray) ∧
      ∃ provisioned written,
        startProvisioning Sample.crypto Sample.json Sample.files () () "key.json"
          12345 Sample.uuid Sample.signKey Sample.tpm =
            some (true, provisioned, written) ∧
        provisioned.key = Sample.key ∧
        UnmasksKey Sample.crypto Sample.json written "key.json" 12345 Sample.uuid
          Sample.key (Sample.signature Sample.smallDigest)
          Sample.tpm.initArray := by
  have digest : compiledMessageDigest Sample.crypto 12345 Sample.uuid Sample.key =
      Sample.smallDigest := by
    decide +kernel
  have reread : compiledMessageDigest Sample.crypto (rereadSerial 12345)
      Sample.uuid Sample.key = Sample.smallDigest := by
    decide +kernel
  obtain ⟨laws, provisioned, written, provisioning, read, unmasks⟩ :=
    @keyMasking Unit JsonMembers Sample.crypto Sample.json Sample.files "key.json"
      12345 Sample.uuid Sample.signKey Sample.publicKey Sample.key
      (Sample.signature Sample.smallDigest) Sample.roundTrips () () Sample.tpm rfl
      (congrArg (some ∘ Sample.signature) digest) rfl
  let reader : SoftwareTpm :=
    { Sample.tpm with
      serial := 12345, uuid := Sample.uuid, publicKey := Sample.publicKey
      key := Sample.key }
  have accepted : Accepted Sample.crypto 12345 Sample.uuid Sample.key
      (Sample.signature Sample.smallDigest) reader :=
    { uuidSize := by decide
      keySize := by decide +kernel
      verified := by
        rw [reread]
        decide +kernel }
  have isKey := Option.some.inj
    ((unmasks.unmasked reader rfl accepted).symm.trans read)
  have valid : provisioned.isValid = true := by
    rw [← isKey]
    decide +kernel
  refine ⟨laws, provisioned, written, ?_, ?_, unmasks⟩
  · rw [provisioning, valid]
  · rw [← isKey]

end SoftwareTpm

end ScorbitSdk
