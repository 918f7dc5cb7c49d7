import ScorbitSdk.DecimalFields
import ScorbitSdk.JsonNodes
import ScorbitSdk.SecretEncryption
import ScorbitSdk.SoftwareTpm

/-!
# Soft keys

A device key is generated when a device is provisioned.  It is encrypted under
the provider key and handed to the application in a JSON record, which a later
resolver loads instead of provisioning again.
-/

namespace ScorbitSdk

open BoundedMemory ByteArrays

/-! ## The provisioning server -/

structure ProvisioningReply where
  statusCode : Int
  text : List Char

structure ProvisionResult where
  uuid : List Char
  serialNumber : BitVec 64
deriving DecidableEq

namespace ProvisioningClient

/-- `std::stoull`, which throws where no number is read or it is too large. -/
def stoull (text : List Char) : Option (BitVec 64) :=
  let text := text.dropWhile isSpace
  let signed : Bool × List Char :=
    match text with
    | '+' :: rest => (false, rest)
    | '-' :: rest => (true, rest)
    | _ => (false, text)
  let digits := signed.2.takeWhile Char.isDigit
  let value := Nat.ofDigitChars 10 digits 0
  if digits = [] ∨ 2 ^ 64 ≤ value then none
  else some (if signed.1 then -BitVec.ofNat 64 value else BitVec.ofNat 64 value)

section Requests

variable (texts : JsonTexts)

def initiate (reply : ProvisioningReply) : Option ProvisionResult :=
  if reply.statusCode ≠ 200 then none
  else do
    let j ← texts.parse reply.text
    let uuid ← (← j.find? "uuid").getString
    let serialNumber ← (← j.find? "serial_number").getUnsigned64
    some { uuid, serialNumber }

def confirmBody (initiated : ProvisionResult)
    (publicKeyHex deviceSignatureHex : List Char) (timestamp : BitVec 64) :
    JsonNode :=
  .object
    [("key_source", .string "soft_key".toList),
      ("public_key", .string publicKeyHex),
      ("signature", .string deviceSignatureHex),
      ("timestamp", .unsigned timestamp),
      ("uuid", .string initiated.uuid)]

/-- What `confirm` makes of the answer to its request. -/
def readConfirmed (reply : ProvisioningReply) : Option ProvisionResult :=
  if reply.statusCode ≠ 200 ∧ reply.statusCode ≠ 201 then none
  else do
    let j ← texts.parse reply.text
    let uuid ← (← j.find? "uuid").getString
    let serialNumber ← (← j.find? "serial_number").getUnsigned64
    let _status ← j.stringValue "status" []
    some { uuid, serialNumber }

/-- Throws where the time stamp is no number or the body cannot be written. -/
def confirm (initiated : ProvisionResult)
    (publicKeyHex deviceSignatureHex timestamp : List Char)
    (reply : ProvisioningReply) : Option (Option ProvisionResult) := do
  let seconds ← stoull timestamp
  let _bodyStr ←
    texts.dump (confirmBody initiated publicKeyHex deviceSignatureHex seconds)
  some (readConfirmed texts reply)

end Requests

end ProvisioningClient

/-! ## The stored record -/

structure KeyRecord where
  encryptedKey : List Char
  hmac : List Char
  provider : List Char
  serialNumber : BitVec 64
  uuid : List Char
deriving DecidableEq

namespace KeyRecord

def toJson (record : KeyRecord) : JsonNode :=
  .object
    [("encrypted_key", .string record.encryptedKey),
      ("hmac", .string record.hmac),
      ("provider", .string record.provider),
      ("serial_number", .unsigned record.serialNumber),
      ("uuid", .string record.uuid)]

def ofJson (j : JsonNode) : Option KeyRecord := do
  let encryptedKey ← (← j.find? "encrypted_key").getString
  let uuid ← (← j.find? "uuid").getString
  let serialNumber ← (← j.find? "serial_number").getUnsigned64
  let provider ← (← j.find? "provider").getString
  let hmac ← (← j.find? "hmac").getString
  some { encryptedKey, hmac, provider, serialNumber, uuid }

theorem isFlat_toJson (record : KeyRecord) : record.toJson.IsFlat := by
  constructor
  · change ["encrypted_key", "hmac", "provider", "serial_number", "uuid"].Pairwise
      (· < ·)
    decide +kernel
  · intro member isMember
    simp only [List.mem_cons, List.not_mem_nil, or_false] at isMember
    rcases isMember with rfl | rfl | rfl | rfl | rfl <;> trivial

theorem ofJson_toJson (record : KeyRecord) : ofJson record.toJson = some record :=
  rfl

end KeyRecord

/-! ## The resolver -/

/-- What the resolver uses of the device's configuration; the callback for
loading is represented by the text that it returns. -/
structure SoftKeyDeviceInfo where
  provider : List Char
  uuid : List Char
  serialNumber : BitVec 64
  encryptedKey : List Char
  saveKeyCallback : Bool
  loadKeyCallback : Option (List Char)

def SoftKeyDeviceInfo.hasSoftKeyProvisioning (info : SoftKeyDeviceInfo) : Bool :=
  info.encryptedKey ≠ [] && info.saveKeyCallback && info.loadKeyCallback.isSome

structure SoftKeyResolver where
  encryptedDeviceKey : List Char
  deviceKeyPassword : List Char
deriving DecidableEq

/-- A resolver that has just been made. -/
def SoftKeyResolver.fresh : SoftKeyResolver where
  encryptedDeviceKey := []
  deviceKeyPassword := []

/-- The libraries and the secret that is compiled in. -/
structure SoftKeyLibraries (Random : Type*) where
  crypto : Crypto Random
  openSsl : OpenSsl
  texts : JsonTexts
  sdkEncryptSecret : List Char

structure SoftKeyLibraries.Correct {Random : Type*}
    (libraries : SoftKeyLibraries Random) : Prop where
  openSsl : libraries.openSsl.Correct
  texts : libraries.texts.Correct
  length_privateKey : ∀ random,
    (libraries.crypto.generateEcdsaKeyPair random).1 = true →
      (libraries.crypto.generateEcdsaKeyPair random).2.2.length = 32

/-- What one provisioning meets: random bits and the server's answers. -/
structure ProvisioningCalls (Random : Type*) where
  serverTimestamp : List Char
  keyRandom : Random
  initiateReply : ProvisioningReply
  signRandom : Random
  confirmReply : ProvisioningReply
  encryptionRandom : EncryptionRandom

/-- What a call leaves behind: the text that was saved, if one was, and whether
provisioning was begun. -/
structure Resolution where
  success : Bool
  info : SoftKeyDeviceInfo
  resolver : SoftKeyResolver
  saved : Option (List Char)
  provisioned : Bool

def buildHmacMessage (provider uuid : List Char) (serialNumber : BitVec 64)
    (encryptedKey : List Char) : List Char :=
  provider ++ uuid ++ decimal serialNumber.toNat ++ encryptedKey

def removeSymbols (text symbols : List Char) : List Char :=
  text.filter (!symbols.contains ·)

namespace SoftKeyResolver

section Calls

variable {Random : Type*} (libraries : SoftKeyLibraries Random)

/-- `tryLoadKey` behind the parser, nothing where it returns false. -/
def tryLoadDocument (info : SoftKeyDeviceInfo) (resolver : SoftKeyResolver)
    (j : JsonNode) : Option (SoftKeyDeviceInfo × SoftKeyResolver) := do
  let record ← KeyRecord.ofJson j
  if record.provider ≠ info.provider then none
  else
    let expectedHmac := computeHmac libraries.openSsl
      (buildHmacMessage record.provider record.uuid record.serialNumber
        record.encryptedKey) resolver.deviceKeyPassword
    if record.hmac ≠ expectedHmac then none
    else do
      let decrypted ← decryptSecret libraries.openSsl record.encryptedKey
        resolver.deviceKeyPassword
      if decrypted = [] then none
      else if decrypted.length ≠ 32 then none
      else
        some
          ({ info with uuid := record.uuid, serialNumber := record.serialNumber },
            { resolver with encryptedDeviceKey := record.encryptedKey })

def tryLoadKey (info : SoftKeyDeviceInfo) (resolver : SoftKeyResolver) :
    Option (SoftKeyDeviceInfo × SoftKeyResolver) :=
  match info.loadKeyCallback with
  | none => none
  | some keyData =>
      if keyData = [] then none
      else do
        let j ← libraries.texts.parse keyData
        tryLoadDocument libraries info resolver j

/-- Nothing where an exception leaves the call. -/
def provisionNewKey (calls : ProvisioningCalls Random) (info : SoftKeyDeviceInfo)
    (resolver : SoftKeyResolver) : Option Resolution :=
  let refused : Resolution :=
    { success := false, info, resolver, saved := none, provisioned := true }
  let keys := libraries.crypto.generateEcdsaKeyPair calls.keyRandom
  let publicKey := keys.2.1
  let privateKey := keys.2.2
  if !keys.1 then some refused
  else
    match ProvisioningClient.initiate libraries.texts calls.initiateReply with
    | none => some refused
    | some result =>
        let uuidBytes := ofHex (removeSymbols result.uuid "-\x7b\x7d".toList)
        let timestampBytes :=
          calls.serverTimestamp.map fun c => BitVec.ofNat 8 c.toNat
        let digest := libraries.crypto.sha256Hash (uuidBytes ++ timestampBytes)
        match libraries.crypto.ecdsaSign calls.signRandom privateKey digest with
        | none => some refused
        | some deviceSignature => do
            let confirmed ← ProvisioningClient.confirm libraries.texts result
              (hex (publicKey.drop 1)) (hex deviceSignature)
              calls.serverTimestamp calls.confirmReply
            match confirmed with
            | none => some refused
            | some confirmed =>
                let encDevKey := encryptSecret libraries.openSsl
                  calls.encryptionRandom privateKey resolver.deviceKeyPassword
                let resolution : Resolution :=
                  { success := true
                    info := { info with
                      uuid := confirmed.uuid
                      serialNumber := confirmed.serialNumber }
                    resolver := { resolver with encryptedDeviceKey := encDevKey }
                    saved := none
                    provisioned := true }
                if info.saveKeyCallback then do
                  let hmac := computeHmac libraries.openSsl
                    (buildHmacMessage info.provider confirmed.uuid
                      confirmed.serialNumber encDevKey)
                    resolver.deviceKeyPassword
                  let keyJson : KeyRecord :=
                    { encryptedKey := encDevKey
                      hmac
                      provider := info.provider
                      serialNumber := confirmed.serialNumber
                      uuid := confirmed.uuid }
                  let text ← libraries.texts.dump keyJson.toJson
                  some { resolution with saved := some text }
                else some resolution

def tryResolve (calls : ProvisioningCalls Random) (info : SoftKeyDeviceInfo)
    (resolver : SoftKeyResolver) : Option Resolution :=
  let refused : Resolution :=
    { success := false, info, resolver, saved := none, provisioned := false }
  if !info.hasSoftKeyProvisioning then some refused
  else do
    let providerKey ← decryptSecret libraries.openSsl info.encryptedKey
      (info.provider ++ libraries.sdkEncryptSecret)
    if providerKey = [] then some refused
    else
      let resolver := { resolver with deviceKeyPassword := hex providerKey }
      match tryLoadKey libraries info resolver with
      | some (info, resolver) =>
          some { success := true, info, resolver, saved := none,
                 provisioned := false }
      | none => do
          let result ← provisionNewKey libraries calls info resolver
          if result.success then some result
          else
            some { result with
              resolver := { result.resolver with deviceKeyPassword := [] } }

/-- A signature, or none at all where the key cannot be decrypted; nothing where
an exception leaves the signer. -/
def createSigner (resolver : SoftKeyResolver) (random : Random)
    (digest : List Byte) : Option (List Byte) := do
  let decrypted ← decryptSecret libraries.openSsl resolver.encryptedDeviceKey
    resolver.deviceKeyPassword
  if decrypted = [] then some []
  else
    some ((libraries.crypto.ecdsaSign random decrypted digest).getD [])

/-! ## What a call does -/

/-- What is stored for a confirmed device. -/
def savedRecord (calls : ProvisioningCalls Random) (info : SoftKeyDeviceInfo)
    (password : List Char) (confirmed : ProvisionResult) : KeyRecord :=
  let privateKey :=
    (libraries.crypto.generateEcdsaKeyPair calls.keyRandom).2.2
  let encryptedKey :=
    encryptSecret libraries.openSsl calls.encryptionRandom privateKey password
  { encryptedKey
    hmac := computeHmac libraries.openSsl
      (buildHmacMessage info.provider confirmed.uuid confirmed.serialNumber
        encryptedKey) password
    provider := info.provider
    serialNumber := confirmed.serialNumber
    uuid := confirmed.uuid }

/-- What provisioning has done where it succeeds. -/
structure Provisioned (calls : ProvisioningCalls Random) (info : SoftKeyDeviceInfo)
    (resolver : SoftKeyResolver) (confirmed : ProvisionResult)
    (result : Resolution) : Prop where
  generated : (libraries.crypto.generateEcdsaKeyPair calls.keyRandom).1 = true
  isConfirmed : ProvisioningClient.readConfirmed libraries.texts
    calls.confirmReply = some confirmed
  success : result.success = true
  infoSet : result.info = { info with
    uuid := confirmed.uuid, serialNumber := confirmed.serialNumber }
  resolverSet : result.resolver = { resolver with
    encryptedDeviceKey := (savedRecord libraries calls info
      resolver.deviceKeyPassword confirmed).encryptedKey }
  saved : ∀ text, result.saved = some text →
    libraries.texts.dump (savedRecord libraries calls info
      resolver.deviceKeyPassword confirmed).toJson = some text

/-- The records that are loaded. -/
structure Accepts (provider password : List Char) (record : KeyRecord) : Prop where
  provider : record.provider = provider
  hmac : record.hmac = computeHmac libraries.openSsl
    (buildHmacMessage record.provider record.uuid record.serialNumber
      record.encryptedKey) password
  decrypts : ∃ decrypted,
    decryptSecret libraries.openSsl record.encryptedKey password =
      some decrypted ∧ decrypted.length = 32

/-- The password that both ways of resolving a key have. -/
def PasswordOf (info : SoftKeyDeviceInfo) (password : List Char) : Prop :=
  ∃ providerKey, providerKey ≠ [] ∧ password = hex providerKey ∧
    decryptSecret libraries.openSsl info.encryptedKey
      (info.provider ++ libraries.sdkEncryptSecret) = some providerKey

variable {libraries}
variable {calls : ProvisioningCalls Random} {info : SoftKeyDeviceInfo}
variable {resolver : SoftKeyResolver} {result : Resolution}

/-- Provisioning changes nothing, or all that there is to change. -/
theorem provisionNewKey_cases
    (returned : provisionNewKey libraries calls info resolver = some result) :
    result = { success := false, info, resolver, saved := none,
               provisioned := true } ∨
      ∃ confirmed,
        Provisioned libraries calls info resolver confirmed result := by
  unfold provisionNewKey at returned
  dsimp only at returned
  split at returned
  · cases returned
    exact .inl rfl
  next generated =>
  split at returned
  · cases returned
    exact .inl rfl
  next initiated _ =>
  split at returned
  · cases returned
    exact .inl rfl
  next deviceSignature _ =>
  obtain ⟨answer, isAnswer, rest⟩ := Option.bind_eq_some_iff.mp returned
  unfold ProvisioningClient.confirm at isAnswer
  obtain ⟨seconds, _, isAnswer⟩ := Option.bind_eq_some_iff.mp isAnswer
  obtain ⟨body, _, isAnswer⟩ := Option.bind_eq_some_iff.mp isAnswer
  cases isAnswer
  split at rest
  · cases rest
    exact .inl rfl
  next confirmed isConfirmed =>
  refine .inr ⟨confirmed, ?_⟩
  have generated : (libraries.crypto.generateEcdsaKeyPair calls.keyRandom).1 =
      true := by
    simpa using generated
  split at rest
  · obtain ⟨text, written, rest⟩ := Option.bind_eq_some_iff.mp rest
    cases rest
    exact
      { generated, isConfirmed, success := rfl, infoSet := rfl, resolverSet := rfl
        saved := fun other isText => by
          cases isText
          exact written }
  · cases rest
    exact
      { generated, isConfirmed, success := rfl, infoSet := rfl, resolverSet := rfl
        saved := fun other isText => nomatch isText }

theorem tryLoadDocument_eq_some_iff {j : JsonNode}
    {loaded : SoftKeyDeviceInfo × SoftKeyResolver} :
    tryLoadDocument libraries info resolver j = some loaded ↔
      ∃ record, KeyRecord.ofJson j = some record ∧
        Accepts libraries info.provider resolver.deviceKeyPassword record ∧
        loaded =
          ({ info with uuid := record.uuid, serialNumber := record.serialNumber },
            { resolver with encryptedDeviceKey := record.encryptedKey }) := by
  constructor
  · intro isLoaded
    obtain ⟨record, isRecord, rest⟩ := Option.bind_eq_some_iff.mp isLoaded
    split at rest
    · cases rest
    next provider =>
    dsimp only at rest
    split at rest
    · cases rest
    next hmac =>
    obtain ⟨decrypted, isDecrypted, rest⟩ := Option.bind_eq_some_iff.mp rest
    split at rest
    · cases rest
    split at rest
    · cases rest
    next _ length =>
    cases rest
    exact ⟨record, isRecord,
      ⟨not_not.mp provider, not_not.mp hmac, decrypted, isDecrypted,
        not_not.mp length⟩, rfl⟩
  · rintro ⟨record, isRecord, ⟨provider, hmac, decrypted, isDecrypted, length⟩,
      rfl⟩
    have nonempty : decrypted ≠ [] := by
      rintro rfl
      cases length
    unfold tryLoadDocument
    rw [isRecord, Option.bind_eq_bind, Option.bind_some,
      if_neg (not_not.mpr provider)]
    dsimp only
    rw [if_neg (not_not.mpr hmac), isDecrypted, Option.bind_eq_bind,
      Option.bind_some, if_neg nonempty, if_neg (not_not.mpr length)]

/-- What is saved is accepted under the same password. -/
theorem accepts_savedRecord (correct : libraries.Correct)
    (generated : (libraries.crypto.generateEcdsaKeyPair calls.keyRandom).1 = true)
    (password : List Char) (confirmed : ProvisionResult) :
    Accepts libraries info.provider password
      (savedRecord libraries calls info password confirmed) where
  provider := rfl
  hmac := rfl
  decrypts :=
    ⟨(libraries.crypto.generateEcdsaKeyPair calls.keyRandom).2.2,
      decryptSecret_encryptSecret correct.openSsl _ _ _,
      correct.length_privateKey _ generated⟩

/-- The signer signs with the key that was generated. -/
theorem createSigner_savedRecord (correct : libraries.Correct)
    (generated : (libraries.crypto.generateEcdsaKeyPair calls.keyRandom).1 = true)
    (info : SoftKeyDeviceInfo) (password : List Char)
    (confirmed : ProvisionResult) (random : Random) (digest : List Byte) :
    createSigner libraries
        { encryptedDeviceKey :=
            (savedRecord libraries calls info password confirmed).encryptedKey
          deviceKeyPassword := password } random digest =
      some ((libraries.crypto.ecdsaSign random
        (libraries.crypto.generateEcdsaKeyPair calls.keyRandom).2.2
        digest).getD []) := by
  have length := correct.length_privateKey _ generated
  have nonempty :
      (libraries.crypto.generateEcdsaKeyPair calls.keyRandom).2.2 ≠ [] := by
    intro isEmpty
    rw [isEmpty] at length
    cases length
  have decrypted := decryptSecret_encryptSecret correct.openSsl
    calls.encryptionRandom
    (libraries.crypto.generateEcdsaKeyPair calls.keyRandom).2.2 password
  unfold createSigner
  dsimp only [savedRecord]
  rw [decrypted, Option.bind_eq_bind, Option.bind_some, if_neg nonempty]

/-- What has been saved has been provisioned. -/
theorem tryResolve_saved {text : List Char}
    (returned : tryResolve libraries calls info resolver = some result)
    (saved : result.saved = some text) :
    info.encryptedKey ≠ [] ∧ ∃ password confirmed,
      PasswordOf libraries info password ∧
        Provisioned libraries calls info
          { resolver with deviceKeyPassword := password } confirmed result := by
  unfold tryResolve at returned
  dsimp only at returned
  split at returned
  · cases returned
    cases saved
  next ready =>
  obtain ⟨providerKey, isDecrypted, rest⟩ := Option.bind_eq_some_iff.mp returned
  split at rest
  · cases rest
    cases saved
  next nonempty =>
  split at rest
  · cases rest
    cases saved
  obtain ⟨provisioned, isProvisioned, rest⟩ := Option.bind_eq_some_iff.mp rest
  have hasKey : info.encryptedKey ≠ [] := by
    rintro isEmpty
    simp [SoftKeyDeviceInfo.hasSoftKeyProvisioning, isEmpty] at ready
  rcases provisionNewKey_cases isProvisioned with rfl | ⟨confirmed, isConfirmed⟩
  · cases rest
    cases saved
  · rw [if_pos isConfirmed.success] at rest
    cases rest
    exact ⟨hasKey, hex providerKey, confirmed,
      ⟨providerKey, nonempty, rfl, isDecrypted⟩, isConfirmed⟩

/-- A record that is accepted is loaded without provisioning. -/
theorem tryResolve_accepted {password text : List Char} {record : KeyRecord}
    (hasKey : info.encryptedKey ≠ []) (canSave : info.saveKeyCallback = true)
    (isPassword : PasswordOf libraries info password)
    (stored : info.loadKeyCallback = some text) (nonempty : text ≠ [])
    (parsed : libraries.texts.parse text = some record.toJson)
    (accepts : Accepts libraries info.provider password record) :
    tryResolve libraries calls info resolver =
      some
        { success := true
          info := { info with
            uuid := record.uuid, serialNumber := record.serialNumber }
          resolver :=
            { encryptedDeviceKey := record.encryptedKey
              deviceKeyPassword := password }
          saved := none
          provisioned := false } := by
  obtain ⟨providerKey, hasProviderKey, rfl, isDecrypted⟩ := isPassword
  have ready : info.hasSoftKeyProvisioning = true := by
    simp [SoftKeyDeviceInfo.hasSoftKeyProvisioning, hasKey, canSave, stored]
  have loaded : tryLoadKey libraries info
      { resolver with deviceKeyPassword := hex providerKey } =
        some
          ({ info with uuid := record.uuid, serialNumber := record.serialNumber },
            { encryptedDeviceKey := record.encryptedKey
              deviceKeyPassword := hex providerKey }) := by
    unfold tryLoadKey
    rw [stored]
    dsimp only
    rw [if_neg nonempty, parsed, Option.bind_eq_bind, Option.bind_some]
    refine tryLoadDocument_eq_some_iff.mpr
      ⟨record, record.ofJson_toJson, accepts, ?_⟩
    rw [stored]
  unfold tryResolve
  simp only [ready, isDecrypted, if_neg hasProviderKey, loaded,
    Option.bind_eq_bind, Option.bind_some, Bool.not_true, Bool.false_eq_true,
    if_false]

/-- What a call that returns false has changed. -/
theorem tryResolve_failed
    (returned : tryResolve libraries calls info resolver = some result)
    (failed : result.success = false) :
    result.info = info ∧ result.saved = none ∧
      (result.resolver = resolver ∨ result.resolver.deviceKeyPassword = []) := by
  unfold tryResolve at returned
  dsimp only at returned
  split at returned
  · cases returned
    exact ⟨rfl, rfl, .inl rfl⟩
  obtain ⟨providerKey, _, rest⟩ := Option.bind_eq_some_iff.mp returned
  split at rest
  · cases rest
    exact ⟨rfl, rfl, .inl rfl⟩
  split at rest
  · cases rest
    cases failed
  obtain ⟨provisioned, isProvisioned, rest⟩ := Option.bind_eq_some_iff.mp rest
  rcases provisionNewKey_cases isProvisioned with rfl | ⟨confirmed, isConfirmed⟩
  · cases rest
    exact ⟨rfl, rfl, .inr rfl⟩
  · rw [if_pos isConfirmed.success] at rest
    cases rest
    rw [isConfirmed.success] at failed
    cases failed

end Calls

/-! ## The round trip, and what failures leave -/

section Runs

variable {Random : Type*} {libraries : SoftKeyLibraries Random}

/-- The resolvers that are asked again: no call on them has succeeded. -/
inductive Unresolved (libraries : SoftKeyLibraries Random) :
    SoftKeyResolver → Prop
  | fresh : Unresolved libraries .fresh
  | failed {calls : ProvisioningCalls Random} {info : SoftKeyDeviceInfo}
      {resolver : SoftKeyResolver} {result : Resolution} :
      Unresolved libraries resolver →
        tryResolve libraries calls info resolver = some result →
          result.success = false → Unresolved libraries result.resolver

theorem Unresolved.password_eq_nil {resolver : SoftKeyResolver}
    (unresolved : Unresolved libraries resolver) :
    resolver.deviceKeyPassword = [] := by
  induction unresolved with
  | fresh => rfl
  | failed _ returned failed ih =>
      rcases (tryResolve_failed returned failed).2.2 with same | cleared
      · rw [same]
        exact ih
      · exact cleared

/-- A saved record brings back the device and its key without provisioning, and
a call that fails leaves nothing behind.  That the password is empty then is said
of a resolver of which no call has succeeded: the first exits leave a password
that an earlier success has set. -/
theorem restored_or_unchanged (correct : libraries.Correct) :
    (∀ (calls : ProvisioningCalls Random) (info : SoftKeyDeviceInfo)
      (resolver : SoftKeyResolver) (result : Resolution) (text : List Char),
      tryResolve libraries calls info resolver = some result →
        result.saved = some text →
          ∃ confirmed, ProvisioningClient.readConfirmed libraries.texts
              calls.confirmReply = some confirmed ∧
            ∀ (laterCalls : ProvisioningCalls Random)
              (later : SoftKeyDeviceInfo),
              later.provider = info.provider →
              later.encryptedKey = info.encryptedKey →
              later.saveKeyCallback = true →
              later.loadKeyCallback = some text →
                ∃ loaded,
                  tryResolve libraries laterCalls later .fresh = some loaded ∧
                  loaded.success = true ∧ loaded.provisioned = false ∧
                  loaded.saved = none ∧
                  loaded.info.uuid = confirmed.uuid ∧
                  loaded.info.serialNumber = confirmed.serialNumber ∧
                  ∀ random digest,
                    createSigner libraries loaded.resolver random digest =
                      some ((libraries.crypto.ecdsaSign random
                        (libraries.crypto.generateEcdsaKeyPair
                          calls.keyRandom).2.2 digest).getD [])) ∧
      ∀ (calls : ProvisioningCalls Random) (info : SoftKeyDeviceInfo)
        (resolver : SoftKeyResolver) (result : Resolution),
        tryResolve libraries calls info resolver = some result →
          result.success = false →
            result.info.uuid = info.uuid ∧
              result.info.serialNumber = info.serialNumber ∧
              result.saved = none ∧
              (Unresolved libraries resolver →
                result.resolver.deviceKeyPassword = []) := by
  constructor
  · intro calls info resolver result text returned saved
    obtain ⟨hasKey, password, confirmed, isPassword, provisioned⟩ :=
      tryResolve_saved returned saved
    refine ⟨confirmed, provisioned.isConfirmed, ?_⟩
    intro laterCalls later sameProvider sameKey canSave stored
    let record := savedRecord libraries calls info password confirmed
    have written : libraries.texts.dump record.toJson = some text :=
      provisioned.saved text saved
    have laterPassword : PasswordOf libraries later password := by
      unfold PasswordOf
      rw [sameProvider, sameKey]
      exact isPassword
    have accepts : Accepts libraries later.provider password record := by
      rw [sameProvider]
      exact accepts_savedRecord correct provisioned.generated password confirmed
    refine ⟨_, tryResolve_accepted (sameKey ▸ hasKey) canSave laterPassword stored
      (correct.texts.ne_nil record.isFlat_toJson written)
      (correct.texts.parse_dump _ _ record.isFlat_toJson written) accepts,
      rfl, rfl, rfl, rfl, rfl, ?_⟩
    exact createSigner_savedRecord correct provisioned.generated info password
      confirmed
  · intro calls info resolver result returned failed
    obtain ⟨sameInfo, notSaved, password⟩ := tryResolve_failed returned failed
    refine ⟨by rw [sameInfo], by rw [sameInfo], notSaved, ?_⟩
    intro unresolved
    exact (Unresolved.failed unresolved returned failed).password_eq_nil

end Runs

end SoftKeyResolver

/-! ## A device that is provisioned and loaded -/

namespace SoftKeySample

def byteChar (byte : Byte) : Char :=
  Char.ofNat byte.toNat

def charByte (c : Char) : Byte :=
  BitVec.ofNat 8 c.toNat

theorem charByte_byteChar : ∀ byte : Byte, charByte (byteChar byte) = byte := by
  decide +kernel

/-- Groups of four characters for three bytes, the last one the number of bytes. -/
def writeGroups : List Byte → List Char
  | first :: second :: third :: rest =>
      byteChar first :: byteChar second :: byteChar third :: '3' ::
        writeGroups rest
  | [first, second] => [byteChar first, byteChar second, '=', '2']
  | [first] => [byteChar first, '=', '=', '1']
  | [] => []

def readGroups : List Char → List Byte
  | first :: second :: third :: count :: rest =>
      if count = '3' then
        charByte first :: charByte second :: charByte third :: readGroups rest
      else if count = '2' then [charByte first, charByte second]
      else [charByte first]
  | _ => []

theorem readGroups_writeGroups (data : List Byte) :
    readGroups (writeGroups data) = data := by
  induction data using writeGroups.induct with
  | case1 first second third rest ih =>
      simp [writeGroups, readGroups, charByte_byteChar, ih]
  | case2 first second => simp [writeGroups, readGroups, charByte_byteChar]
  | case3 first => simp [writeGroups, readGroups, charByte_byteChar]
  | case4 => rfl

theorem length_writeGroups (data : List Byte) :
    (writeGroups data).length = 4 * ((data.length + 2) / 3) := by
  induction data using writeGroups.induct with
  | case1 first second third rest ih =>
      simp only [writeGroups, List.length_cons, ih]
      omega
  | case2 first second => simp [writeGroups]
  | case3 first => simp [writeGroups]
  | case4 => rfl

theorem length_readGroups_le (text : List Char) :
    (readGroups text).length ≤ 3 * (text.length / 4) := by
  induction text using readGroups.induct with
  | case1 first second third rest ih =>
      simp only [readGroups, if_true, List.length_cons]
      omega
  | case2 first second third rest notThree =>
      simp only [readGroups, if_neg notThree, if_true, List.length_cons,
        List.length_nil]
      omega
  | case3 first second third count rest notThree notTwo =>
      simp only [readGroups, if_neg notThree, if_neg notTwo, List.length_cons,
        List.length_nil]
      omega
  | case4 text short =>
      rw [readGroups.eq_2 text short]
      exact Nat.zero_le _

/-- The tag of every text is zero, and the HMAC of a message the message. -/
def openSsl : OpenSsl where
  readBase64 text := some (readGroups text)
  writeBase64 := writeGroups
  pbkdf2 password salt := password.map charByte ++ salt
  gcmEncrypt _ _ data := (data, List.replicate 16 0)
  gcmDecrypt _ _ tag data := if tag = List.replicate 16 0 then some data else none
  hmacSha256 _ message :=
    message.flatMap fun c =>
      [BitVec.ofNat 8 (c.toNat / 65536), BitVec.ofNat 8 (c.toNat / 256),
        BitVec.ofNat 8 c.toNat]

theorem openSsl_correct : openSsl.Correct where
  read_written data := congrArg some (readGroups_writeGroups data)
  length_written := length_writeGroups
  length_read := by
    intro text data isRead
    cases isRead
    exact length_readGroups_le text
  length_encrypted _ _ _ := ⟨rfl, rfl⟩
  length_decrypted := by
    intro key iv tag data plain decrypted
    simp only [openSsl] at decrypted
    split at decrypted
    · cases decrypted
      rfl
    · cases decrypted
  decrypt_encrypted _ _ _ := rfl

def crypto : Crypto Unit where
  sha256Hash message := message
  generateEcdsaKeyPair _ :=
    (true, List.replicate 65 4, List.replicate 32 7)
  ecdsaSign _ key hash := some (key ++ hash)
  ecdsaVerify key hash signature := signature = key ++ hash

def random : EncryptionRandom where
  salt := List.replicate 16 1
  iv := List.replicate 12 2
  length_salt := rfl
  length_iv := rfl

def info : SoftKeyDeviceInfo where
  provider := "maker".toList
  uuid := []
  serialNumber := 0
  encryptedKey := encryptSecret openSsl random [171] "makersecret".toList
  saveKeyCallback := true
  loadKeyCallback := some []

/-- What the server answers to both requests. -/
def answer : ProvisionResult where
  uuid := "ab".toList
  serialNumber := 42

def encryptedKey : List Char :=
  encryptSecret openSsl random (List.replicate 32 7) (hex [171])

def record : KeyRecord where
  encryptedKey
  hmac := computeHmac openSsl
    (buildHmacMessage info.provider answer.uuid answer.serialNumber encryptedKey)
    (hex [171])
  provider := info.provider
  serialNumber := answer.serialNumber
  uuid := answer.uuid

def confirmation : JsonNode :=
  ProvisioningClient.confirmBody answer (hex (List.replicate 64 4))
    (hex (List.replicate 32 7 ++ [171, 49])) 1

/-- Writes the two documents that the device writes. -/
def texts : JsonTexts where
  dump
    | .object [(first, .string a), (second, .string b), (third, .string c),
        (fourth, .unsigned n), (fifth, .string d)] =>
        if [first, second, third, fourth, fifth] =
            ["encrypted_key", "hmac", "provider", "serial_number", "uuid"] ∧
          (a, b, c, n, d) = (record.encryptedKey, record.hmac, record.provider,
            record.serialNumber, record.uuid) then some "record".toList
        else if [first, second, third, fourth, fifth] =
            ["key_source", "public_key", "signature", "timestamp", "uuid"] ∧
          (a, b, c, n, d) = ("soft_key".toList, hex (List.replicate 64 4),
            hex (List.replicate 32 7 ++ [171, 49]), 1, answer.uuid) then
          some "confirmation".toList
        else none
    | _ => none
  parse text :=
    if text = "record".toList then some record.toJson
    else if text = "confirmation".toList then some confirmation
    else if text = "answer".toList then
      some (.object [("serial_number", .unsigned answer.serialNumber),
        ("uuid", .string answer.uuid)])
    else none

theorem texts_correct : texts.Correct where
  parse_nil := rfl
  parse_dump := by
    intro node text isFlat written
    simp only [texts] at written
    split at written
    · split at written
      · next isRecord =>
        obtain ⟨keys, values⟩ := isRecord
        simp only [List.cons.injEq, and_true, Prod.mk.injEq] at keys values
        obtain ⟨rfl, rfl, rfl, rfl, rfl⟩ := keys
        obtain ⟨rfl, rfl, rfl, rfl, rfl⟩ := values
        cases written
        rfl
      · split at written
        · next isConfirmation =>
          obtain ⟨keys, values⟩ := isConfirmation
          simp only [List.cons.injEq, and_true, Prod.mk.injEq] at keys values
          obtain ⟨rfl, rfl, rfl, rfl, rfl⟩ := keys
          obtain ⟨rfl, rfl, rfl, rfl, rfl⟩ := values
          cases written
          rfl
        · cases written
    · cases written

def libraries : SoftKeyLibraries Unit where
  crypto
  openSsl
  texts
  sdkEncryptSecret := "secret".toList

theorem libraries_correct : libraries.Correct where
  openSsl := openSsl_correct
  texts := texts_correct
  length_privateKey _ _ := rfl

def calls : ProvisioningCalls Unit where
  serverTimestamp := "1".toList
  keyRandom := ()
  initiateReply := { statusCode := 200, text := "answer".toList }
  signRandom := ()
  confirmReply := { statusCode := 201, text := "answer".toList }
  encryptionRandom := random

end SoftKeySample

open SoftKeySample in
/-- What the sample's provisioning saves, and the password it is saved under. -/
theorem SoftKeyResolver.record_saved :
    ∃ result, tryResolve libraries calls info .fresh = some result ∧
      result.saved = some "record".toList ∧
      result.resolver.deviceKeyPassword = hex [171] := by
  have evaluated : ((tryResolve libraries calls info .fresh).any fun result =>
      result.saved = some "record".toList &&
        result.resolver.deviceKeyPassword = hex [171]) = true := by
    decide +kernel
  obtain ⟨result, returned, holds⟩ := (Option.any_eq_true _ _).mp evaluated
  obtain ⟨isSaved, password⟩ := (Bool.and_eq_true _ _).mp holds
  exact ⟨result, returned, of_decide_eq_true isSaved, of_decide_eq_true password⟩

open SoftKeySample in
theorem SoftKeyResolver.restored_provisioned :
    ∃ result, tryResolve libraries calls info .fresh = some result ∧
      ∃ loaded, tryResolve libraries calls
          { info with loadKeyCallback := some "record".toList } .fresh =
            some loaded ∧
        loaded.provisioned = false ∧ loaded.info.uuid = "ab".toList ∧
        loaded.info.serialNumber = 42 := by
  obtain ⟨result, returned, isSaved, _⟩ := record_saved
  obtain ⟨confirmed, isConfirmed, restores⟩ :=
    (restored_or_unchanged libraries_correct).1 calls info .fresh result
      "record".toList returned isSaved
  obtain ⟨loaded, isLoaded, _, notProvisioned, _, uuid, serialNumber, _⟩ :=
    restores calls { info with loadKeyCallback := some "record".toList } rfl rfl
      rfl rfl
  have isAnswer : ProvisioningClient.readConfirmed libraries.texts
      calls.confirmReply = some answer := by
    decide +kernel
  cases isConfirmed.symm.trans isAnswer
  exact ⟨result, returned, loaded, isLoaded, notProvisioned, uuid, serialNumber⟩

end ScorbitSdk
