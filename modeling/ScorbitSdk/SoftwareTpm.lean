import ScorbitSdk.ByteArrays
import ScorbitSdk.FiniteMaps

/-!
# The key file of the software TPM

Provisioning writes a serial, a uuid, the masked private key and a signature of
the three into a JSON file, and reads that file back at once; a later
`SoftwareTpm` reads it again.  Hashing, signing, the JSON library and the files
are parameters.
-/

namespace ScorbitSdk

open BoundedMemory ByteArrays

/-! ## The JSON library and the files -/

/-- A value of the key file, by the type that the parser gives it.  Of a
floating-point number only the `int` that it is cast to is kept. -/
inductive JsonValue
  | numberUnsigned (value : BitVec 64)
  | numberInteger (value : BitVec 64)
  | numberFloat (asInt : BitVec 32)
  | boolean (value : Bool)
  | string (text : List Char)
  | structured
deriving DecidableEq

namespace JsonValue

/-- `get<int>`, which throws where the value is no number. -/
def asInt : JsonValue → Option (BitVec 32)
  | numberUnsigned value => some (value.setWidth 32)
  | numberInteger value => some (value.setWidth 32)
  | numberFloat asInt => some asInt
  | boolean value => some (if value then 1 else 0)
  | string _ => none
  | structured => none

/-- `get<std::string>`, which throws where the value is no string. -/
def asString : JsonValue → Option (List Char)
  | string text => some text
  | _ => none

/-- The values that a key file is written with. -/
def IsPlain : JsonValue → Prop
  | numberUnsigned _ => True
  | string _ => True
  | _ => False

end JsonValue

abbrev JsonMembers := Finmap fun _ : String => JsonValue

/-- What has been parsed; `nothing` is null or an empty array. -/
inductive JsonDocument
  | object (members : JsonMembers)
  | nothing
  | other

namespace JsonDocument

def empty : JsonDocument → Bool
  | object members => decide (members = ∅)
  | nothing => true
  | other => false

/-- `json.value(key, fallback)`, which throws where the document is no object
or the value has another type. -/
def value {Value : Type*} (get : JsonValue → Option Value) (fallback : Value)
    (key : String) : JsonDocument → Option Value
  | object members =>
      match members.lookup key with
      | some found => get found
      | none => some fallback
  | _ => none

end JsonDocument

/-- Writing and parsing of texts; a text that is no JSON parses as null. -/
structure JsonLibrary (Text : Type*) where
  dump : JsonMembers → Text
  parse : Text → JsonDocument

/-- An object of plain values is parsed as it was written. -/
def JsonLibrary.RoundTrips {Text : Type*} (json : JsonLibrary Text) : Prop :=
  ∀ members : JsonMembers,
    (∀ key found, members.lookup key = some found → found.IsPlain) →
      json.parse (json.dump members) = .object members

/-- The files by their names, with those that can be opened for writing. -/
structure Files (Text : Type*) where
  content : String → Option Text
  canWrite : String → Bool

section JsonFiles

variable {Text : Type*} (json : JsonLibrary Text)

def writeJsonFile (files : Files Text) (filename : String)
    (members : JsonMembers) : Bool × Files Text :=
  if files.canWrite filename then
    (true, { files with
      content := Function.update files.content filename (json.dump members) })
  else (false, files)

def readJsonFile (files : Files Text) (filename : String) : JsonDocument :=
  match files.content filename with
  | some text => json.parse text
  | none => .nothing

theorem readJsonFile_written {files : Files Text} {filename : String}
    (members : JsonMembers) (written : files.canWrite filename = true) :
    readJsonFile json (writeJsonFile json files filename members).2 filename =
      json.parse (json.dump members) := by
  simp [readJsonFile, writeJsonFile, written]

end JsonFiles

/-! ## The software TPM -/

/-- Hashing and ECDSA; what is generated or signed depends on random bits too. -/
structure Crypto (Random : Type*) where
  sha256Hash : List Byte → List Byte
  generateEcdsaKeyPair : Random → Bool × List Byte × List Byte
  ecdsaSign : Random → List Byte → List Byte → Option (List Byte)
  ecdsaVerify : List Byte → List Byte → List Byte → Bool

/-- Digests have 32 bytes, keys are generated with 32 bytes, and what is signed
with the one key is verified with the other. -/
structure Crypto.Correct {Random : Type*} (crypto : Crypto Random)
    (signKey verifyKey : List Byte) : Prop where
  length_sha256Hash : ∀ message, (crypto.sha256Hash message).length = 32
  generates : ∀ random, (crypto.generateEcdsaKeyPair random).1 = true ∧
    (crypto.generateEcdsaKeyPair random).2.2.length = 32
  verifies : ∀ random hash, hash.length = 32 →
    ∃ signature, crypto.ecdsaSign random signKey hash = some signature ∧
      crypto.ecdsaVerify verifyKey hash signature = true

structure SoftwareTpm where
  serial : BitVec 64
  uuid : List Byte
  key : List Byte
  publicKey : List Byte
  verifyPublicKey : List Byte
  initArray : List Byte
deriving DecidableEq

namespace SoftwareTpm

def isValidData (tpm : SoftwareTpm) : Bool :=
  tpm.uuid.length = 16 && tpm.key.length = 32

def isValid (tpm : SoftwareTpm) : Bool :=
  tpm.isValidData

def clear (tpm : SoftwareTpm) : SoftwareTpm :=
  { tpm with serial := 0, uuid := [], key := [] }

/-- The bytes of `INIT`, the letters of "dtm". -/
def INIT : List Byte :=
  ['d', 't', 'm'].map fun c => BitVec.ofNat 8 c.toNat

section KeyFiles

variable {Random Text : Type*} (crypto : Crypto Random) (json : JsonLibrary Text)

/-- The digest of a serial in decimal, a uuid and a key. -/
def compiledMessageDigest (serial : BitVec 64) (uuid key : List Byte) :
    List Byte :=
  let serialStr := Nat.toDigits 10 serial.toNat
  crypto.sha256Hash
    (serialStr.map (fun c => BitVec.ofNat 8 c.toNat) ++ uuid ++ key)

def getCompiledMessageDigest (tpm : SoftwareTpm) : List Byte :=
  compiledMessageDigest crypto tpm.serial tpm.uuid tpm.key

/-- The file's data, or none at all where they are not well formed or not
signed; nothing where a value has the wrong type. -/
def readData (files : Files Text) (filename : String) (tpm : SoftwareTpm) :
    Option SoftwareTpm :=
  let document := readJsonFile json files filename
  if document.empty then some tpm
  else do
    let serial ← document.value JsonValue.asInt 0 "serial"
    let uuid ← document.value JsonValue.asString [] "uuid"
    let key ← document.value JsonValue.asString [] "key"
    let tpm := { tpm with
      serial := serial.signExtend 64  -- From `int` to `uint64_t`
      uuid := ofHex uuid
      key := ofHex key }
    if !tpm.isValid then some tpm.clear
    else do
      let signature ← document.value JsonValue.asString [] "signature"
      let tpm := { tpm with key := initializeBytes tpm.key tpm.initArray }
      let digest := getCompiledMessageDigest crypto tpm
      if !crypto.ecdsaVerify tpm.verifyPublicKey digest (ofHex signature) then
        some tpm.clear
      else some tpm

/-- The constructor; `garbage` is what the serial holds before it is set. -/
def create (files : Files Text) (garbage : BitVec 64) (keyFile : String)
    (verifyPublicKey : List Byte) : Option SoftwareTpm :=
  readData crypto json files keyFile
    { serial := garbage
      uuid := []
      key := []
      publicKey := []
      verifyPublicKey := verifyPublicKey
      initArray := crypto.sha256Hash INIT }

/-- The members of a key file. -/
def jsonObj (serial : BitVec 64) (uuid initializedKey signature : List Byte) :
    JsonMembers :=
  (((∅ : JsonMembers).insert "serial" (.numberUnsigned serial)).insert
    "uuid" (.string (hex uuid))).insert
    "key" (.string (hex initializedKey)) |>.insert
    "signature" (.string (hex signature))

def startProvisioning (files : Files Text) (keyRandom signRandom : Random)
    (filename : String) (serial : BitVec 64) (uuid signKey : List Byte)
    (tpm : SoftwareTpm) : Option (Bool × SoftwareTpm × Files Text) :=
  let signKey := initializeBytes signKey tpm.initArray
  let (generated, publicKey, key) := crypto.generateEcdsaKeyPair keyRandom
  let tpm := { tpm with serial, uuid, publicKey, key }
  if !generated then some (false, tpm, files)
  else
    let digest := getCompiledMessageDigest crypto tpm
    match crypto.ecdsaSign signRandom signKey digest with
    | none => some (false, tpm, files)
    | some signature =>
        let initializedKey := initializeBytes tpm.key tpm.initArray
        let (written, files) := writeJsonFile json files filename
          (jsonObj tpm.serial tpm.uuid initializedKey signature)
        if !written then some (false, tpm, files)
        else
          (readData crypto json files filename tpm).map fun tpm =>
            (tpm.isValid, tpm, files)

/-! ## Reading a key file back -/

variable {crypto json}

/-- A TPM that was constructed, and has read and provisioned key files since. -/
inductive Made (crypto : Crypto Random) (json : JsonLibrary Text)
    (verifyPublicKey : List Byte) : SoftwareTpm → Prop
  | created {files garbage keyFile tpm}
      (read : create crypto json files garbage keyFile verifyPublicKey =
        some tpm) : Made crypto json verifyPublicKey tpm
  | reread {files filename before tpm}
      (made : Made crypto json verifyPublicKey before)
      (read : readData crypto json files filename before = some tpm) :
      Made crypto json verifyPublicKey tpm
  | provisioned {files keyRandom signRandom filename serial uuid signKey before
        after}
      (made : Made crypto json verifyPublicKey before)
      (provisioned : startProvisioning crypto json files keyRandom signRandom
        filename serial uuid signKey before = some after) :
      Made crypto json verifyPublicKey after.2.1

/-- The verify key and the mask are those that a TPM was constructed with. -/
structure KeepsKeys (before after : SoftwareTpm) : Prop where
  verifyPublicKey : after.verifyPublicKey = before.verifyPublicKey
  initArray : after.initArray = before.initArray

theorem readData_keepsKeys {files : Files Text} {filename : String}
    {before after : SoftwareTpm}
    (read : readData crypto json files filename before = some after) :
    KeepsKeys before after := by
  simp only [readData] at read
  split at read
  · obtain rfl := Option.some.inj read
    exact ⟨rfl, rfl⟩
  · simp only [Option.bind_eq_bind, Option.bind_eq_some_iff] at read
    obtain ⟨serial, -, uuid, -, key, -, read⟩ := read
    split at read
    · obtain rfl := Option.some.inj read
      exact ⟨rfl, rfl⟩
    · obtain ⟨signature, -, read⟩ := Option.bind_eq_some_iff.mp read
      split at read <;> obtain rfl := Option.some.inj read <;> exact ⟨rfl, rfl⟩

theorem startProvisioning_keepsKeys {files : Files Text}
    {keyRandom signRandom : Random} {filename : String} {serial : BitVec 64}
    {uuid signKey : List Byte} {before : SoftwareTpm}
    {after : Bool × SoftwareTpm × Files Text}
    (provisioned : startProvisioning crypto json files keyRandom signRandom
      filename serial uuid signKey before = some after) :
    KeepsKeys before after.2.1 := by
  simp only [startProvisioning] at provisioned
  split at provisioned
  · obtain rfl := Option.some.inj provisioned
    exact ⟨rfl, rfl⟩
  · split at provisioned
    · obtain rfl := Option.some.inj provisioned
      exact ⟨rfl, rfl⟩
    · split at provisioned
      · obtain rfl := Option.some.inj provisioned
        exact ⟨rfl, rfl⟩
      · obtain ⟨tpm, read, rfl⟩ := Option.map_eq_some_iff.mp provisioned
        have kept := readData_keepsKeys read
        exact ⟨kept.verifyPublicKey, kept.initArray⟩

theorem Made.keys {verifyPublicKey : List Byte} {tpm : SoftwareTpm}
    (made : Made crypto json verifyPublicKey tpm) :
    tpm.verifyPublicKey = verifyPublicKey ∧
      tpm.initArray = crypto.sha256Hash INIT := by
  induction made with
  | created read =>
      have kept := readData_keepsKeys read
      exact ⟨kept.verifyPublicKey, kept.initArray⟩
  | reread _ read ih =>
      have kept := readData_keepsKeys read
      rwa [kept.verifyPublicKey, kept.initArray]
  | provisioned _ provisioned ih =>
      have kept := startProvisioning_keepsKeys provisioned
      rwa [kept.verifyPublicKey, kept.initArray]

/-- The serial as it is read from the file, through an `int`. -/
def rereadSerial (serial : BitVec 64) : BitVec 64 :=
  (serial.setWidth 32).signExtend 64

theorem rereadSerial_eq_iff (serial : BitVec 64) :
    rereadSerial serial = serial ↔
      serial.toNat < 2 ^ 31 ∨ 2 ^ 64 - 2 ^ 31 ≤ serial.toNat := by
  have bound := serial.isLt
  rw [rereadSerial, ← BitVec.toNat_inj, BitVec.toNat_signExtend,
    BitVec.msb_eq_decide, BitVec.toNat_setWidth, BitVec.toNat_setWidth]
  simp only [decide_eq_true_eq, Nat.reducePow, Nat.reduceSub]
  split <;> omega

theorem jsonObj_isPlain {serial : BitVec 64}
    {uuid initializedKey signature : List Byte} (key : String)
    (found : JsonValue)
    (present : (jsonObj serial uuid initializedKey signature).lookup key =
      some found) : found.IsPlain := by
  rcases Finmap.lookup_insert_cases present with ⟨_, rfl⟩ | ⟨_, present⟩
  · trivial
  rcases Finmap.lookup_insert_cases present with ⟨_, rfl⟩ | ⟨_, present⟩
  · trivial
  rcases Finmap.lookup_insert_cases present with ⟨_, rfl⟩ | ⟨_, present⟩
  · trivial
  rcases Finmap.lookup_insert_cases present with ⟨_, rfl⟩ | ⟨_, present⟩
  · trivial
  · simp at present

theorem lookup_jsonObj (serial : BitVec 64)
    (uuid initializedKey signature : List Byte) :
    (jsonObj serial uuid initializedKey signature).lookup "serial" =
        some (.numberUnsigned serial) ∧
      (jsonObj serial uuid initializedKey signature).lookup "uuid" =
        some (.string (hex uuid)) ∧
      (jsonObj serial uuid initializedKey signature).lookup "key" =
        some (.string (hex initializedKey)) ∧
      (jsonObj serial uuid initializedKey signature).lookup "signature" =
        some (.string (hex signature)) := by
  simp [jsonObj, Finmap.lookup_insert_of_ne]

theorem jsonObj_ne_empty (serial : BitVec 64)
    (uuid initializedKey signature : List Byte) :
    (JsonDocument.object
      (jsonObj serial uuid initializedKey signature)).empty = false := by
  have present := (lookup_jsonObj serial uuid initializedKey signature).1
  rw [JsonDocument.empty, decide_eq_false_iff_not]
  intro empty
  rw [empty, Finmap.lookup_empty] at present
  exact Option.some_ne_none _ present.symm

variable (crypto json) in
/-- What is read from a key file with a uuid and a key of the right lengths:
the data with the serial as reread, if the signature is verified for these. -/
theorem readData_jsonObj {files : Files Text} {filename : String}
    {serial : BitVec 64} {uuid key signature : List Byte} (tpm : SoftwareTpm)
    (file : readJsonFile json files filename = .object
      (jsonObj serial uuid (initializeBytes key tpm.initArray) signature))
    (uuidSize : uuid.length = 16) (keySize : key.length = 32) :
    readData crypto json files filename tpm = some
      (if crypto.ecdsaVerify tpm.verifyPublicKey
          (compiledMessageDigest crypto (rereadSerial serial) uuid key)
          signature = true then
        { tpm with serial := rereadSerial serial, uuid, key }
      else tpm.clear) := by
  obtain ⟨readSerial, readUuid, readKey, readSignature⟩ :=
    lookup_jsonObj serial uuid (initializeBytes key tpm.initArray) signature
  have maskedSize : (initializeBytes key tpm.initArray).length = 32 := by
    rw [length_initializeBytes, keySize]
  simp only [readData, file, jsonObj_ne_empty, JsonDocument.value, readSerial,
    readUuid, readKey, readSignature, JsonValue.asInt, JsonValue.asString,
    Option.bind_eq_bind, Option.bind_some, ofHex_hex, isValid, isValidData,
    uuidSize, maskedSize, initializeBytes_initializeBytes, rereadSerial,
    getCompiledMessageDigest, Bool.false_eq_true, if_false, decide_true,
    Bool.and_self, Bool.not_true, clear]
  by_cases verified : crypto.ecdsaVerify tpm.verifyPublicKey
      (compiledMessageDigest crypto ((serial.setWidth 32).signExtend 64) uuid
        key) signature = true
  · simp [verified]
  · simp [verified]

/-- Nothing is read where the uuid or the key has another length. -/
theorem readData_jsonObj_of_sizes {files : Files Text} {filename : String}
    {serial : BitVec 64} {uuid key signature : List Byte} (tpm : SoftwareTpm)
    (file : readJsonFile json files filename = .object
      (jsonObj serial uuid (initializeBytes key tpm.initArray) signature))
    (sizes : ¬(uuid.length = 16 ∧ key.length = 32)) :
    readData crypto json files filename tpm = some tpm.clear := by
  obtain ⟨readSerial, readUuid, readKey, readSignature⟩ :=
    lookup_jsonObj serial uuid (initializeBytes key tpm.initArray) signature
  have invalid :
      (decide (uuid.length = 16) && decide (key.length = 32)) = false := by
    rw [← Bool.decide_and, decide_eq_false_iff_not]
    exact sizes
  simp only [readData, file, jsonObj_ne_empty, JsonDocument.value, readSerial,
    readUuid, readKey, JsonValue.asInt, JsonValue.asString, Option.bind_eq_bind,
    Option.bind_some, ofHex_hex, isValid, isValidData, length_initializeBytes,
    invalid, Bool.false_eq_true, if_false, Bool.not_false, if_true, clear]

end KeyFiles

/-! ## Provisioning -/

section Provisioning

variable {Random Text : Type*} {crypto : Crypto Random} {json : JsonLibrary Text}
  {files : Files Text} (keyRandom signRandom : Random) {filename : String}
  (serial : BitVec 64) (uuid : List Byte) {signKey verifyPublicKey : List Byte}
  {tpm : SoftwareTpm}

/-- What provisioning writes, where a key is generated, a signature is made and
the file can be written: it reads that file at once. -/
theorem startProvisioning_written (roundTrips : json.RoundTrips)
    {publicKey key signature : List Byte}
    (generated : crypto.generateEcdsaKeyPair keyRandom = (true, publicKey, key))
    (signed : crypto.ecdsaSign signRandom
      (initializeBytes signKey tpm.initArray)
      (compiledMessageDigest crypto serial uuid key) = some signature)
    (canWrite : files.canWrite filename = true) :
    ∃ written,
      readJsonFile json written filename = .object (jsonObj serial uuid
        (initializeBytes key tpm.initArray) signature) ∧
      startProvisioning crypto json files keyRandom signRandom filename serial
          uuid signKey tpm =
        (readData crypto json written filename
          { tpm with serial, uuid, publicKey, key }).map fun tpm =>
            (tpm.isValid, tpm, written) := by
  have file := readJsonFile_written json (jsonObj serial uuid
    (initializeBytes key tpm.initArray) signature) canWrite
  rw [roundTrips _ jsonObj_isPlain] at file
  refine ⟨_, file, ?_⟩
  simp only [startProvisioning, generated, getCompiledMessageDigest, signed,
    writeJsonFile, canWrite]
  rfl

/-- What provisioning leaves behind, and what a new TPM reads, if all goes well
up to the file: both read the same file. -/
theorem startProvisioning_eq (roundTrips : json.RoundTrips)
    (made : Made crypto json verifyPublicKey tpm)
    (correct : crypto.Correct
      (initializeBytes signKey (crypto.sha256Hash INIT)) verifyPublicKey)
    (canWrite : files.canWrite filename = true) :
    ∃ key publicKey signature written,
      crypto.generateEcdsaKeyPair keyRandom = (true, publicKey, key) ∧
      key.length = 32 ∧
      crypto.ecdsaVerify verifyPublicKey
        (compiledMessageDigest crypto serial uuid key) signature = true ∧
      readJsonFile json written filename = .object (jsonObj serial uuid
        (initializeBytes key (crypto.sha256Hash INIT)) signature) ∧
      startProvisioning crypto json files keyRandom signRandom filename serial
          uuid signKey tpm =
        (readData crypto json written filename
          { tpm with serial, uuid, publicKey, key }).map fun tpm =>
            (tpm.isValid, tpm, written) := by
  obtain ⟨verifyKey, mask⟩ := made.keys
  obtain ⟨generated, keySize⟩ := correct.generates keyRandom
  obtain ⟨signature, signed, verified⟩ := correct.verifies signRandom
    (compiledMessageDigest crypto serial uuid
      (crypto.generateEcdsaKeyPair keyRandom).2.2) (correct.length_sha256Hash _)
  have pair : crypto.generateEcdsaKeyPair keyRandom =
      (true, (crypto.generateEcdsaKeyPair keyRandom).2) :=
    Prod.ext generated rfl
  rw [← mask] at signed ⊢
  obtain ⟨written, file, provisioning⟩ := startProvisioning_written keyRandom
    signRandom serial uuid roundTrips pair signed canWrite
  exact ⟨_, _, signature, written, pair, keySize, verified, file, provisioning⟩

/-- Provisioning succeeds, and a new TPM is valid and has what was provisioned,
just for the serials that survive the way through an `int`. -/
theorem provisioned_iff (roundTrips : json.RoundTrips)
    (made : Made crypto json verifyPublicKey tpm)
    (correct : crypto.Correct
      (initializeBytes signKey (crypto.sha256Hash INIT)) verifyPublicKey)
    (canWrite : files.canWrite filename = true) (uuidSize : uuid.length = 16)
    (garbage : BitVec 64) :
    (∃ provisioned written reread,
      startProvisioning crypto json files keyRandom signRandom filename serial
        uuid signKey tpm = some (true, provisioned, written) ∧
      create crypto json written garbage filename verifyPublicKey =
        some reread ∧
      reread.isValid = true ∧ reread.serial = serial ∧ reread.uuid = uuid ∧
      reread.key = (crypto.generateEcdsaKeyPair keyRandom).2.2) ↔
      serial.toNat < 2 ^ 31 ∨ 2 ^ 64 - 2 ^ 31 ≤ serial.toNat := by
  obtain ⟨rfl, mask⟩ := made.keys
  obtain ⟨key, publicKey, signature, written, pair, keySize, verified, file,
    provisioning⟩ := startProvisioning_eq keyRandom signRandom serial uuid
      roundTrips made correct canWrite
  have provisioned := readData_jsonObj crypto json
    { tpm with serial, uuid, publicKey, key } (by rwa [mask]) uuidSize keySize
  have created := readData_jsonObj crypto json
    { serial := garbage
      uuid := []
      key := []
      publicKey := []
      verifyPublicKey := tpm.verifyPublicKey
      initArray := crypto.sha256Hash INIT } file uuidSize keySize
  rw [← create] at created
  rw [← rereadSerial_eq_iff, provisioning, provisioned]
  constructor
  · rintro ⟨_, other, reread, done, again, valid, sameSerial, -⟩
    obtain rfl : written = other := congrArg (·.2.2) (Option.some.inj done)
    obtain rfl := Option.some.inj (created.symm.trans again)
    split at valid
    · next accepted => rwa [if_pos accepted] at sameSerial
    · exact absurd valid (by simp [isValid, isValidData, clear])
  · intro same
    rw [same, if_pos verified] at created ⊢
    refine ⟨{ tpm with serial, uuid, publicKey, key }, written, _, ?_, created,
      ?_, rfl, rfl, by rw [pair]⟩
    · simp [isValid, isValidData, uuidSize, keySize]
    · simp [isValid, isValidData, uuidSize, keySize]

end Provisioning

/-! ## A device with a serial of 31 bits, and one with 32 -/

namespace Sample

/-- A number's bytes, the highest one first. -/
def bigEndian (count value : Nat) : List Byte :=
  (List.range count).map fun i => BitVec.ofNat 8 (value >>> (8 * (count - 1 - i)))

def signKey : List Byte := bigEndian 32
  0x4111A6D1EECD017A7321043EAB912320C82FD2721E2EB5B69217ADF24172DE8C

def verifyPublicKey : List Byte :=
  0x04 ::
    bigEndian 32
      0x8DB4F344FE0D50BDB4AF918F2A3F12E82DEED8471157C9758B174BEC8FCA68F1 ++
    bigEndian 32
      0xD859FD7DF3C4E36C69D292361FFDF44C8A2105507D9D224B7F9CB742282F9A8B

def uuid : List Byte := (List.range 16).map fun i => BitVec.ofNat 8 (i + 1)

def key : List Byte := bigEndian 32
  0xe0cb800a5ccda4cb1b2ad7990de082aaa1e40e771898c0bcb28fcb23c261e422

def publicKey : List Byte :=
  0x04 ::
    bigEndian 32
      0xdec244859ac400caff52f05013c7ebb558737cffa49ca59a2aec611e8428c796 ++
    bigEndian 32
      0x4cce4b881cd5a79b4771df8da18510f2a700f99b17fbab0fb46044af7e2b9fa8

/-- The message whose digest is signed, of the device with the key above. -/
def message (serial : String) : List Byte :=
  serial.toList.map (fun c => BitVec.ofNat 8 c.toNat) ++ uuid ++ key

def mask : List Byte := bigEndian 32
  0xc4368dae7f6c11461d549bd36d9f4bf5fec1aadae2a9735b2b6bc9549104c515

def smallDigest : List Byte := bigEndian 32
  0x4af206a03c42772c33b9429241ce9bb845d16e26a4fb8d3a0d672bd0c74c6a97

def largeDigest : List Byte := bigEndian 32
  0x948f258990bdbdf482c8d7d4295a7b6538bb4ac64c91067a6459444c00dc9ba8

def rereadDigest : List Byte := bigEndian 32
  0x6825e20f8a1645d14d32fe18a13b7e5149259245efefa42a3a266b8cb74192f0

def sha256Hash (text : List Byte) : List Byte :=
  if text = INIT then mask
  else if text = message "12345" then smallDigest
  else if text = message "2147483648" then largeDigest
  else if text = message "18446744071562067968" then rereadDigest
  else List.replicate 32 0

/-- The signatures with one and the same nonce, so that their first halves
agree. -/
def signature (hash : List Byte) : List Byte :=
  bigEndian 32
      0x03b163f70c355463a1e7befbe3cce8bfc49d4b8e45da209515ebe300472c59f9 ++
    bigEndian 32
      (if hash = smallDigest then
        0x2e38d0d8f9bd0a824633fd4db5dad831f16ce182ef8c6afd2c0116fe345dc22e
      else if hash = largeDigest then
        0x9a911e113d82b3bb046b184378fa1ef011c13fdd257fa91297638a15ff5ccc35
      else if hash = rereadDigest then
        0xfc86375fdcbe6811d91ffb85db06fa4dfca057b6afea02f6a9a4810e35d1ed0d
      else 0)

/-- The hashes and signatures of these two devices. -/
def crypto : Crypto Unit where
  sha256Hash := sha256Hash
  generateEcdsaKeyPair _ := (true, publicKey, key)
  ecdsaSign _ _ hash := some (signature hash)
  ecdsaVerify _ hash signed := signed = signature hash

def json : JsonLibrary JsonMembers where
  dump := id
  parse := .object

def files : Files JsonMembers where
  content _ := none
  canWrite _ := true

/-- The TPM of the provisioning program, which has no key file. -/
def tpm : SoftwareTpm where
  serial := 0
  uuid := []
  key := []
  publicKey := []
  verifyPublicKey := verifyPublicKey
  initArray := crypto.sha256Hash INIT

theorem correct : crypto.Correct
    (initializeBytes signKey (crypto.sha256Hash INIT)) verifyPublicKey where
  length_sha256Hash text := by
    change (sha256Hash text).length = 32
    unfold sha256Hash
    split_ifs <;> decide +kernel
  generates _ := ⟨rfl, show key.length = 32 by decide +kernel⟩
  verifies _ hash _ := ⟨signature hash, rfl, decide_eq_true rfl⟩

theorem roundTrips : json.RoundTrips :=
  fun _ _ => rfl

theorem made : Made crypto json verifyPublicKey tpm :=
  have read : create crypto json files 0 "none.json" verifyPublicKey =
      some tpm := rfl
  .created read

end Sample

/-- A device with the serial 12345 is provisioned. -/
theorem provisioned_smallSerial :
    ∃ provisioned written reread,
      startProvisioning Sample.crypto Sample.json Sample.files () () "key.json"
        12345 Sample.uuid Sample.signKey Sample.tpm =
          some (true, provisioned, written) ∧
      create Sample.crypto Sample.json written 7 "key.json"
        Sample.verifyPublicKey = some reread ∧
      reread.isValid = true ∧ reread.serial = 12345 ∧
      reread.uuid = Sample.uuid ∧
      reread.key = (Sample.crypto.generateEcdsaKeyPair ()).2.2 :=
  (provisioned_iff () () 12345 Sample.uuid Sample.roundTrips Sample.made
    Sample.correct rfl (by decide) 7).mpr (Or.inl (by decide))

/-- A device with the serial 2147483648 is not: the serial is read back as
another one, for which the signature is not verified. -/
theorem notProvisioned_largeSerial :
    (Sample.json.RoundTrips ∧
      Made Sample.crypto Sample.json Sample.verifyPublicKey Sample.tpm ∧
      Sample.crypto.Correct
        (initializeBytes Sample.signKey (Sample.crypto.sha256Hash INIT))
        Sample.verifyPublicKey ∧
      Sample.files.canWrite "key.json" = true ∧ Sample.uuid.length = 16) ∧
    ¬∃ provisioned written,
      startProvisioning Sample.crypto Sample.json Sample.files () () "key.json"
        2147483648 Sample.uuid Sample.signKey Sample.tpm =
          some (true, provisioned, written) := by
  refine ⟨⟨Sample.roundTrips, Sample.made, Sample.correct, rfl, by decide⟩, ?_⟩
  rintro ⟨provisioned, written, done⟩
  have failed : (startProvisioning Sample.crypto Sample.json Sample.files () ()
      "key.json" 2147483648 Sample.uuid Sample.signKey Sample.tpm).map (·.1) =
        some false := by decide +kernel
  rw [done] at failed
  exact absurd failed (by simp)

end SoftwareTpm

end ScorbitSdk
