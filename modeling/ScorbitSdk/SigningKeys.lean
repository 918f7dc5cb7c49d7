import ScorbitSdk.SoftKeys

/-!
# Keys to sign with

A device asks its resolvers for a key, one after another, and keeps the first
signer that it gets.  A soft key is loaded from what the application has stored,
or provisioned and then stored; it is provisioned anew where the server does not
know the device any more.
-/

namespace ScorbitSdk

open BoundedMemory ByteArrays

/-- The callback of the application, the NFC TPM, or a soft key. -/
inductive Signer
  | callback
  | tpm
  | softKey (resolver : SoftKeyResolver)

inductive KeyResolver
  | signer
  | nfcTpm
  | softKey (resolver : SoftKeyResolver)

/-- What the resolvers meet: the TPM that is found, with the UUID and the serial
number it holds, and what provisioning meets. -/
structure KeyCalls (Random : Type*) where
  tpm : Option (List Char × BitVec 64)
  provisioning : ProvisioningCalls Random

/-- What resolvers leave behind: the signer, if one has been made, the text that
the application stores, and whether a key has been provisioned. -/
structure Resolved where
  info : SoftKeyDeviceInfo
  store : List Char
  signer : Option Signer := none
  provisioned : Bool := false

/-- The callback for loading returns what has been stored last. -/
def SoftKeyDeviceInfo.loading (info : SoftKeyDeviceInfo) (store : List Char) :
    SoftKeyDeviceInfo :=
  { info with loadKeyCallback := info.loadKeyCallback.map fun _ => store }

/-- The part of `Net` that resolves keys. -/
structure SigningKeys where
  m_deviceInfo : SoftKeyDeviceInfo
  m_keyResolvers : List KeyResolver
  m_signer : Option Signer := none

/-- What a call leaves behind, and whether it returns true. -/
structure KeyOutcome where
  returned : Bool
  keys : SigningKeys
  store : List Char
  provisioned : Bool

section Calls

variable {Random : Type*} (libraries : SoftKeyLibraries Random)

-- `boost::uuids` reads a UUID and writes it again; a text that is none becomes
-- the empty one.
variable (parseUuid : List Char → List Char)

/-- `tryResolve` and, where it returns true, `createSigner`; nothing where an
exception leaves the call. -/
def KeyResolver.tryResolve (calls : KeyCalls Random) (info : SoftKeyDeviceInfo)
    (store : List Char) : KeyResolver → Option Resolved
  | .signer =>
      if info.uuid = [] then some { info, store }
      else
        let info := { info with uuid := parseUuid info.uuid }
        if info.uuid = [] then some { info, store }
        else some { info, store, signer := some .callback }
  | .nfcTpm =>
      match calls.tpm with
      | none => some { info, store }
      | some (uuid, serialNumber) =>
          some
            { info := { info with uuid, serialNumber }
              store
              signer := some .tpm }
  | .softKey resolver => do
      let result ← SoftKeyResolver.tryResolve libraries calls.provisioning
        (info.loading store) resolver
      some
        { info := result.info
          store := result.saved.getD store
          signer :=
            if result.success then some (.softKey result.resolver) else none
          provisioned := result.provisioned && result.success }

/-- The loop of `resolveKeys`. -/
def tryResolvers (calls : KeyCalls Random) :
    SoftKeyDeviceInfo → List Char → List KeyResolver → Option Resolved
  | info, store, [] => some { info, store }
  | info, store, resolver :: resolvers => do
      let result ← resolver.tryResolve libraries parseUuid calls info store
      if result.signer.isSome then some result
      else tryResolvers calls result.info result.store resolvers

/-- An empty UUID stays as it is. -/
def normalizeUuid (uuid : List Char) : List Char :=
  if uuid = [] then [] else parseUuid uuid

/-- The UUID that a resolver has set is no UUID. -/
def isInvalidUuid (uuid : List Char) : Bool :=
  uuid ≠ [] && parseUuid uuid = []

namespace SigningKeys

def resolveKeys (calls : KeyCalls Random) (keys : SigningKeys)
    (store : List Char) : Option KeyOutcome := do
  let result ← tryResolvers libraries parseUuid calls keys.m_deviceInfo store
    keys.m_keyResolvers
  match result.signer with
  | none =>
      some
        { returned := false
          keys := { keys with m_deviceInfo := result.info, m_keyResolvers := [] }
          store := result.store
          provisioned := result.provisioned }
  | some signer =>
      let uuid := result.info.uuid
      some
        { returned := !isInvalidUuid parseUuid uuid
          keys :=
            { m_deviceInfo :=
                { result.info with uuid := normalizeUuid parseUuid uuid }
              m_keyResolvers := []
              m_signer := some signer }
          store := result.store
          provisioned := result.provisioned }

/-- `reprovisionSoftKey` behind the statements that clear the stored key and the
signer. -/
def reprovisionSoftKey (calls : KeyCalls Random) (keys : SigningKeys)
    (store : List Char) : Option KeyOutcome := do
  let result ← KeyResolver.tryResolve libraries parseUuid calls keys.m_deviceInfo
    store (.softKey .fresh)
  match result.signer with
  | none =>
      some
        { returned := false
          keys := { keys with m_deviceInfo := result.info }
          store := result.store
          provisioned := result.provisioned }
  | some signer =>
      let uuid := result.info.uuid
      let keys := { keys with
        m_deviceInfo :=
          { result.info with uuid := normalizeUuid parseUuid uuid } }
      if isInvalidUuid parseUuid uuid then
        some
          { returned := false
            keys
            store := result.store
            provisioned := result.provisioned }
      else
        some
          { returned := true
            keys := { keys with m_signer := some signer }
            store := result.store
            provisioned := result.provisioned }

end SigningKeys

/-- What a signature is made over: the bytes of a UUID, and the time. -/
def signedDigest (uuid timestamp : List Char) : List Byte :=
  let message := ofHex (removeSymbols uuid "-\x7b\x7d".toList)
  let timestampBytes := timestamp.map fun c => BitVec.ofNat 8 c.toNat
  libraries.crypto.sha256Hash (message ++ timestampBytes)

/-- The application and the TPM answer with `external`, which is empty where they
do not sign. -/
def Signer.sign (random : Random) (external : List Byte) (digest : List Byte) :
    Signer → Option (List Byte)
  | .callback => some external
  | .tpm => some external
  | .softKey resolver => resolver.createSigner libraries random digest

def getSignature (random : Random) (external : List Byte) (signer : Signer)
    (uuid timestamp : List Char) : Option (List Char) := do
  let signature ←
    signer.sign libraries random external (signedDigest libraries uuid timestamp)
  some (hex signature)

end Calls

/-! ## Soft keys that are stored -/

namespace SoftKeyResolver

section Cases

variable {Random : Type*} {libraries : SoftKeyLibraries Random}
variable {calls : ProvisioningCalls Random} {info : SoftKeyDeviceInfo}
variable {resolver : SoftKeyResolver} {result : Resolution}

/-- A key that is provisioned is saved, where it can be. -/
theorem saved_provisionNewKey
    (returned : provisionNewKey libraries calls info resolver = some result)
    (success : result.success = true) (canSave : info.saveKeyCallback = true) :
    result.provisioned = true ∧ ∃ text, result.saved = some text := by
  unfold provisionNewKey at returned
  dsimp only at returned
  split at returned
  · cases returned
    cases success
  split at returned
  · cases returned
    cases success
  split at returned
  · cases returned
    cases success
  obtain ⟨answer, -, rest⟩ := Option.bind_eq_some_iff.mp returned
  split at rest
  · cases rest
    cases success
  obtain ⟨text, -, rest⟩ := Option.bind_eq_some_iff.mp rest
  cases rest
  exact ⟨rfl, text, rfl⟩

/-- A key is loaded, or else provisioned. -/
theorem tryResolve_success
    (returned : tryResolve libraries calls info resolver = some result)
    (success : result.success = true) :
    info.hasSoftKeyProvisioning = true ∧ ∃ password,
      PasswordOf libraries info password ∧
        ((result.provisioned = false ∧ result.saved = none ∧
            tryLoadKey libraries info
              { resolver with deviceKeyPassword := password } =
                some (result.info, result.resolver)) ∨
          (tryLoadKey libraries info
              { resolver with deviceKeyPassword := password } = none ∧
            provisionNewKey libraries calls info
              { resolver with deviceKeyPassword := password } = some result)) := by
  unfold tryResolve at returned
  dsimp only at returned
  split at returned
  · cases returned
    cases success
  next ready =>
  obtain ⟨providerKey, isDecrypted, rest⟩ := Option.bind_eq_some_iff.mp returned
  split at rest
  · cases rest
    cases success
  next nonempty =>
  refine ⟨by simpa using ready, hex providerKey,
    ⟨providerKey, nonempty, rfl, isDecrypted⟩, ?_⟩
  split at rest
  next loadedInfo loadedResolver isLoaded =>
    cases rest
    exact Or.inl ⟨rfl, rfl, isLoaded⟩
  next notLoaded =>
    obtain ⟨provisioned, isProvisioned, rest⟩ := Option.bind_eq_some_iff.mp rest
    split at rest
    · cases rest
      exact Or.inr ⟨notLoaded, isProvisioned⟩
    · cases rest
      next failed => exact absurd success failed

end Cases

end SoftKeyResolver

/-- What no resolver changes of the device's configuration. -/
structure SameConfig (config info : SoftKeyDeviceInfo) : Prop where
  provider : info.provider = config.provider
  encryptedKey : info.encryptedKey = config.encryptedKey
  saveKeyCallback : info.saveKeyCallback = config.saveKeyCallback
  loadKeyCallback : info.loadKeyCallback.isSome = config.loadKeyCallback.isSome

namespace SameConfig

variable {Random : Type*} {libraries : SoftKeyLibraries Random}
variable {config info : SoftKeyDeviceInfo}

theorem loading (same : SameConfig config info) (store : List Char) :
    SameConfig config (info.loading store) where
  provider := same.provider
  encryptedKey := same.encryptedKey
  saveKeyCallback := same.saveKeyCallback
  loadKeyCallback := by
    rw [← same.loadKeyCallback]
    exact Option.isSome_map

/-- The identity is no part of the configuration. -/
theorem identify (same : SameConfig config info) (uuid : List Char)
    (serialNumber : BitVec 64) :
    SameConfig config { info with uuid, serialNumber } where
  provider := same.provider
  encryptedKey := same.encryptedKey
  saveKeyCallback := same.saveKeyCallback
  loadKeyCallback := same.loadKeyCallback

theorem hasSoftKeyProvisioning (same : SameConfig config info) :
    info.hasSoftKeyProvisioning = config.hasSoftKeyProvisioning := by
  unfold SoftKeyDeviceInfo.hasSoftKeyProvisioning
  rw [same.encryptedKey, same.saveKeyCallback, same.loadKeyCallback]

theorem passwordOf_iff (same : SameConfig config info) {password : List Char} :
    SoftKeyResolver.PasswordOf libraries info password ↔
      SoftKeyResolver.PasswordOf libraries config password := by
  unfold SoftKeyResolver.PasswordOf
  rw [same.encryptedKey, same.provider]

theorem savedRecord (same : SameConfig config info)
    (calls : ProvisioningCalls Random) (password : List Char)
    (confirmed : ProvisionResult) :
    SoftKeyResolver.savedRecord libraries calls info password confirmed =
      SoftKeyResolver.savedRecord libraries calls config password confirmed := by
  unfold SoftKeyResolver.savedRecord
  rw [same.provider]

end SameConfig

section Stored

variable {Random : Type*} (libraries : SoftKeyLibraries Random)

/-- The text that is stored has been written for a key that the server has
confirmed in one of the provisionings. -/
structure StoredKey (config : SoftKeyDeviceInfo)
    (provisionings : List (ProvisioningCalls Random)) (store : List Char)
    (calls : ProvisioningCalls Random) (confirmed : ProvisionResult)
    (password : List Char) : Prop where
  provisioned : calls ∈ provisionings
  ready : config.hasSoftKeyProvisioning = true
  isPassword : SoftKeyResolver.PasswordOf libraries config password
  generated : (libraries.crypto.generateEcdsaKeyPair calls.keyRandom).1 = true
  isConfirmed : ProvisioningClient.readConfirmed libraries.texts
    calls.confirmReply = some confirmed
  written : libraries.texts.dump (SoftKeyResolver.savedRecord libraries calls
    config password confirmed).toJson = some store

/-- The resolver holds the stored key, and the UUID is the one it is for. -/
def IsStored (config : SoftKeyDeviceInfo)
    (provisionings : List (ProvisioningCalls Random)) (store : List Char)
    (resolver : SoftKeyResolver) (uuid : List Char) : Prop :=
  ∃ calls confirmed password,
    StoredKey libraries config provisionings store calls confirmed password ∧
      resolver =
        { encryptedDeviceKey := (SoftKeyResolver.savedRecord libraries calls
            config password confirmed).encryptedKey
          deviceKeyPassword := password } ∧
      uuid = confirmed.uuid

/-- There is nothing stored, or a key that the server has confirmed. -/
def StoreSound (config : SoftKeyDeviceInfo)
    (provisionings : List (ProvisioningCalls Random)) (store : List Char) : Prop :=
  store = [] ∨ ∃ resolver uuid,
    IsStored libraries config provisionings store resolver uuid

variable {libraries}
variable {config info : SoftKeyDeviceInfo}
variable {provisionings : List (ProvisioningCalls Random)} {store : List Char}
variable {resolver other : SoftKeyResolver} {uuid otherUuid : List Char}

theorem IsStored.mono {more : List (ProvisioningCalls Random)}
    (isStored : IsStored libraries config provisionings store resolver uuid)
    (subset : provisionings ⊆ more) :
    IsStored libraries config more store resolver uuid := by
  obtain ⟨calls, confirmed, password, stored, rest⟩ := isStored
  exact ⟨calls, confirmed, password,
    { stored with provisioned := subset stored.provisioned }, rest⟩

theorem IsStored.ne_nil (correct : libraries.Correct)
    (isStored : IsStored libraries config provisionings store resolver uuid) :
    store ≠ [] := by
  obtain ⟨calls, confirmed, password, stored, -⟩ := isStored
  exact correct.texts.ne_nil (KeyRecord.isFlat_toJson _) stored.written

theorem passwordOf_unique {first second : List Char}
    (isFirst : SoftKeyResolver.PasswordOf libraries config first)
    (isSecond : SoftKeyResolver.PasswordOf libraries config second) :
    first = second := by
  obtain ⟨firstKey, -, rfl, firstDecrypted⟩ := isFirst
  obtain ⟨secondKey, -, rfl, secondDecrypted⟩ := isSecond
  rw [firstDecrypted, Option.some.injEq] at secondDecrypted
  rw [secondDecrypted]

/-- There is one key in one text. -/
theorem IsStored.unique {others : List (ProvisioningCalls Random)}
    (correct : libraries.Correct)
    (isStored : IsStored libraries config provisionings store resolver uuid)
    (isOther : IsStored libraries config others store other otherUuid) :
    resolver = other ∧ uuid = otherUuid := by
  obtain ⟨calls, confirmed, password, stored, rfl, rfl⟩ := isStored
  obtain ⟨otherCalls, otherConfirmed, otherPassword, otherStored, rfl, rfl⟩ :=
    isOther
  have first := correct.texts.parse_dump _ _ (KeyRecord.isFlat_toJson _)
    stored.written
  have second := correct.texts.parse_dump _ _ (KeyRecord.isFlat_toJson _)
    otherStored.written
  rw [first, Option.some.injEq] at second
  have sameRecord := congrArg KeyRecord.ofJson second
  rw [KeyRecord.ofJson_toJson, KeyRecord.ofJson_toJson, Option.some.injEq]
    at sameRecord
  have samePassword := passwordOf_unique stored.isPassword otherStored.isPassword
  constructor
  · rw [sameRecord, samePassword]
  · exact congrArg KeyRecord.uuid sameRecord

/-- The stored key is loaded. -/
theorem IsStored.tryResolve (correct : libraries.Correct)
    (isStored : IsStored libraries config provisionings store resolver uuid)
    (same : SameConfig config info) (calls : ProvisioningCalls Random)
    (asked : SoftKeyResolver) :
    ∃ result, SoftKeyResolver.tryResolve libraries calls (info.loading store)
        asked = some result ∧
      result.success = true ∧ result.provisioned = false ∧
      result.saved = none ∧ result.resolver = resolver ∧
      result.info.uuid = uuid ∧ SameConfig config result.info := by
  have nonempty := isStored.ne_nil correct
  obtain ⟨saved, confirmed, password, stored, rfl, rfl⟩ := isStored
  have loads := same.loading store
  have ready := stored.ready
  rw [← loads.hasSoftKeyProvisioning] at ready
  simp only [SoftKeyDeviceInfo.hasSoftKeyProvisioning, Bool.and_eq_true,
    decide_eq_true_eq] at ready
  obtain ⟨⟨hasKey, canSave⟩, canLoad⟩ := ready
  have loaded : (info.loading store).loadKeyCallback = some store := by
    obtain ⟨before, isBefore, isText⟩ :=
      Option.map_eq_some_iff.mp (Option.eq_some_of_isSome canLoad)
    simp [SoftKeyDeviceInfo.loading, isBefore]
  have accepts : SoftKeyResolver.Accepts libraries (info.loading store).provider
      password (SoftKeyResolver.savedRecord libraries saved config password
        confirmed) := by
    rw [loads.provider]
    exact SoftKeyResolver.accepts_savedRecord correct stored.generated password
      confirmed
  refine ⟨_, SoftKeyResolver.tryResolve_accepted hasKey canSave
    (loads.passwordOf_iff.mpr stored.isPassword) loaded nonempty
    (correct.texts.parse_dump _ _ (KeyRecord.isFlat_toJson _) stored.written)
    accepts, rfl, rfl, rfl, rfl, rfl, loads.identify _ _⟩

/-- With nothing stored, the key has to be provisioned. -/
theorem IsStored.provisioned
    (provisionings : List (ProvisioningCalls Random))
    (same : SameConfig config info)
    {calls : ProvisioningCalls Random} {asked : SoftKeyResolver}
    {result : Resolution}
    (returned : SoftKeyResolver.tryResolve libraries calls (info.loading [])
      asked = some result)
    (success : result.success = true) :
    result.provisioned = true ∧ SameConfig config result.info ∧
      ∃ text, result.saved = some text ∧
        IsStored libraries config (calls :: provisionings) text result.resolver
          result.info.uuid := by
  have loads := same.loading []
  obtain ⟨ready, password, isPassword, cases⟩ :=
    SoftKeyResolver.tryResolve_success returned success
  rcases cases with ⟨-, -, isLoaded⟩ | ⟨-, isProvisioned⟩
  · -- The empty text is no key.
    unfold SoftKeyResolver.tryLoadKey SoftKeyDeviceInfo.loading at isLoaded
    cases isNone : info.loadKeyCallback <;> simp [isNone] at isLoaded
  · have canSave : (info.loading []).saveKeyCallback = true := by
      simp only [SoftKeyDeviceInfo.hasSoftKeyProvisioning, Bool.and_eq_true]
        at ready
      exact ready.1.2
    obtain ⟨isNew, text, saved⟩ :=
      SoftKeyResolver.saved_provisionNewKey isProvisioned success canSave
    rcases SoftKeyResolver.provisionNewKey_cases isProvisioned with
      rfl | ⟨confirmed, provisioned⟩
    · cases success
    · have written := provisioned.saved text saved
      rw [loads.savedRecord] at written
      have resolverSet := provisioned.resolverSet
      rw [loads.savedRecord] at resolverSet
      have stored : StoredKey libraries config (calls :: provisionings) text
          calls confirmed password :=
        { provisioned := List.mem_cons_self
          ready := loads.hasSoftKeyProvisioning ▸ ready
          isPassword := loads.passwordOf_iff.mp isPassword
          generated := provisioned.generated
          isConfirmed := provisioned.isConfirmed
          written }
      refine ⟨isNew, ?_, text, saved, calls, confirmed, password, stored,
        resolverSet, ?_⟩
      · rw [provisioned.infoSet]
        exact loads.identify _ _
      · rw [provisioned.infoSet]

/-- The provisionings that the server has confirmed when a call has returned. -/
def confirmedBy (calls : ProvisioningCalls Random) (provisioned : Bool)
    (provisionings : List (ProvisioningCalls Random)) :
    List (ProvisioningCalls Random) :=
  if provisioned then calls :: provisionings else provisionings

theorem subset_confirmedBy (calls : ProvisioningCalls Random)
    (provisioned : Bool) (provisionings : List (ProvisioningCalls Random)) :
    provisionings ⊆ confirmedBy calls provisioned provisionings := by
  unfold confirmedBy
  split_ifs
  · exact List.subset_cons_self _ _
  · exact List.Subset.refl _

/-- What resolvers do to the key that is stored: a soft key that signs is the
stored one, and what has been stored is written over by no other key. -/
structure Resolves (libraries : SoftKeyLibraries Random)
    (config : SoftKeyDeviceInfo) (provisionings : List (ProvisioningCalls Random))
    (store : List Char) (calls : ProvisioningCalls Random) (result : Resolved) :
    Prop where
  sameConfig : SameConfig config result.info
  softKey : ∀ resolver, result.signer = some (.softKey resolver) →
    (result.store = store ∨ store = []) ∧
      IsStored libraries config
        (confirmedBy calls result.provisioned provisionings) result.store
        resolver result.info.uuid
  other : (∀ resolver, result.signer ≠ some (.softKey resolver)) →
    result.store = store ∧ result.provisioned = false

variable {parseUuid : List Char → List Char} {calls : KeyCalls Random}
variable {result : Resolved}

theorem resolves_unchanged {signer : Option Signer}
    (same : SameConfig config info)
    (notSoft : ∀ resolver, signer ≠ some (.softKey resolver)) :
    Resolves libraries config provisionings store calls.provisioning
      { info, store, signer } where
  sameConfig := same
  softKey resolver isSoft := absurd isSoft (notSoft resolver)
  other _ := ⟨rfl, rfl⟩

/-- The stored key is loaded, and only where there is none is one provisioned. -/
theorem resolves_softKey (correct : libraries.Correct)
    (same : SameConfig config info)
    (stored : StoreSound libraries config provisionings store)
    (returned : KeyResolver.tryResolve libraries parseUuid calls info store
      (.softKey resolver) = some result) :
    Resolves libraries config provisionings store calls.provisioning result ∧
      (result.signer = none → result.info.uuid = info.uuid) := by
  obtain ⟨resolution, isResolution, isResult⟩ :=
    Option.bind_eq_some_iff.mp returned
  obtain rfl := Option.some.inj isResult
  cases success : resolution.success with
  | false =>
      obtain ⟨sameInfo, notSaved, -⟩ :=
        SoftKeyResolver.tryResolve_failed isResolution success
      simp only [sameInfo, notSaved, Option.getD_none, Bool.and_false,
        Bool.false_eq_true, if_false]
      exact ⟨resolves_unchanged (same.loading store) nofun, fun _ => rfl⟩
  | true =>
      simp only [Bool.and_true, if_true]
      refine ⟨?_, nofun⟩
      rcases stored with rfl | ⟨held, uuid, isStored⟩
      · obtain ⟨isNew, sameConfig, text, saved, isStored⟩ :=
          IsStored.provisioned provisionings same isResolution success
        refine ⟨sameConfig, ?_, fun notSoft => absurd rfl (notSoft _)⟩
        intro resolver isSoft
        obtain rfl := Signer.softKey.inj (Option.some.inj isSoft)
        simp only [isNew, saved, Option.getD_some]
        exact ⟨Or.inr trivial, isStored⟩
      · obtain ⟨loaded, isLoaded, -, notNew, notSaved, isHeld, isUuid,
          sameConfig⟩ := isStored.tryResolve correct same calls.provisioning
            resolver
        rw [isResolution, Option.some.injEq] at isLoaded
        subst isLoaded
        refine ⟨sameConfig, ?_, fun notSoft => absurd rfl (notSoft _)⟩
        intro resolver isSoft
        obtain rfl := Signer.softKey.inj (Option.some.inj isSoft)
        simp only [notNew, notSaved, isHeld, isUuid, Option.getD_none]
        exact ⟨Or.inl trivial, isStored⟩

theorem signer_tryResolve_softKey {signer : Signer}
    (returned : KeyResolver.tryResolve libraries parseUuid calls info store
      (.softKey resolver) = some result)
    (isSigner : result.signer = some signer) :
    ∃ held, signer = .softKey held := by
  obtain ⟨resolution, -, isResult⟩ := Option.bind_eq_some_iff.mp returned
  obtain rfl := Option.some.inj isResult
  dsimp only at isSigner
  split_ifs at isSigner
  exact ⟨resolution.resolver, (Option.some.inj isSigner).symm⟩

theorem resolves_resolver (correct : libraries.Correct)
    (same : SameConfig config info)
    (stored : StoreSound libraries config provisionings store)
    {asked : KeyResolver}
    (returned : asked.tryResolve libraries parseUuid calls info store =
      some result) :
    Resolves libraries config provisionings store calls.provisioning result := by
  cases asked with
  | signer =>
      simp only [KeyResolver.tryResolve] at returned
      have parsed := same.identify (parseUuid info.uuid) info.serialNumber
      split_ifs at returned <;> obtain rfl := Option.some.inj returned
      · exact resolves_unchanged same nofun
      · exact resolves_unchanged parsed nofun
      · exact resolves_unchanged parsed nofun
  | nfcTpm =>
      simp only [KeyResolver.tryResolve] at returned
      split at returned <;> obtain rfl := Option.some.inj returned
      · exact resolves_unchanged same nofun
      · exact resolves_unchanged (same.identify _ _) nofun
  | softKey resolver => exact (resolves_softKey correct same stored returned).1

theorem resolves_tryResolvers (correct : libraries.Correct)
    {resolvers : List KeyResolver} (same : SameConfig config info)
    (stored : StoreSound libraries config provisionings store)
    (returned : tryResolvers libraries parseUuid calls info store resolvers =
      some result) :
    Resolves libraries config provisionings store calls.provisioning result := by
  induction resolvers generalizing info with
  | nil =>
      obtain rfl := Option.some.inj returned
      exact resolves_unchanged same nofun
  | cons asked resolvers ih =>
      obtain ⟨first, isFirst, rest⟩ := Option.bind_eq_some_iff.mp returned
      have resolves := resolves_resolver correct same stored isFirst
      split_ifs at rest with isSigner
      · obtain rfl := Option.some.inj rest
        exact resolves
      · have noSigner : first.signer = none := by simpa using isSigner
        have unchanged := (resolves.other fun resolver isSoft => by
          rw [noSigner] at isSoft
          cases isSoft).1
        rw [unchanged] at rest
        exact ih resolves.sameConfig rest

/-! ## The signer and what is stored -/

/-- A soft key that signs is the one that is stored, and the device's UUID is
the one it is for. -/
def SigningKeys.InStep (libraries : SoftKeyLibraries Random)
    (parseUuid : List Char → List Char) (config : SoftKeyDeviceInfo)
    (provisionings : List (ProvisioningCalls Random)) (store : List Char)
    (keys : SigningKeys) : Prop :=
  ∀ resolver, keys.m_signer = some (.softKey resolver) → ∃ uuid,
    IsStored libraries config provisionings store resolver uuid ∧
      keys.m_deviceInfo.uuid = normalizeUuid parseUuid uuid

/-- What a call on the keys leaves. -/
structure KeyOutcome.Sound (libraries : SoftKeyLibraries Random)
    (parseUuid : List Char → List Char) (config : SoftKeyDeviceInfo)
    (provisionings : List (ProvisioningCalls Random)) (store : List Char)
    (outcome : KeyOutcome) : Prop where
  sameConfig : SameConfig config outcome.keys.m_deviceInfo
  kept : outcome.store = store ∨ store = []
  storeSound : StoreSound libraries config provisionings outcome.store
  inStep : outcome.keys.InStep libraries parseUuid config provisionings
    outcome.store

variable {keys : SigningKeys} {outcome : KeyOutcome}

theorem Resolves.kept
    (resolves : Resolves libraries config provisionings store calls.provisioning
      result) :
    result.store = store ∨ store = [] := by
  by_cases isSoft : ∃ resolver, result.signer = some (.softKey resolver)
  · obtain ⟨resolver, isSoft⟩ := isSoft
    exact (resolves.softKey resolver isSoft).1
  · exact Or.inl (resolves.other fun resolver isOther =>
      isSoft ⟨resolver, isOther⟩).1

theorem Resolves.storeSound
    (resolves : Resolves libraries config provisionings store calls.provisioning
      result)
    (sound : StoreSound libraries config provisionings store) :
    StoreSound libraries config
      (confirmedBy calls.provisioning result.provisioned provisionings)
      result.store := by
  by_cases isSoft : ∃ resolver, result.signer = some (.softKey resolver)
  · obtain ⟨resolver, isSoft⟩ := isSoft
    exact Or.inr ⟨resolver, _, (resolves.softKey resolver isSoft).2⟩
  · obtain ⟨unchanged, notNew⟩ := resolves.other fun resolver isOther =>
      isSoft ⟨resolver, isOther⟩
    rw [unchanged, notNew]
    exact sound

/-- The first keys. -/
theorem SigningKeys.resolveKeys_sound (correct : libraries.Correct)
    (same : SameConfig config keys.m_deviceInfo)
    (sound : StoreSound libraries config provisionings store)
    (noSigner : keys.m_signer = none)
    (returned : keys.resolveKeys libraries parseUuid calls store = some outcome) :
    outcome.Sound libraries parseUuid config
      (confirmedBy calls.provisioning outcome.provisioned provisionings) store := by
  obtain ⟨result, isResult, rest⟩ := Option.bind_eq_some_iff.mp returned
  have resolves := resolves_tryResolvers correct same sound isResult
  split at rest
  next isNone =>
    obtain rfl := Option.some.inj rest
    exact
      { sameConfig := resolves.sameConfig
        kept := resolves.kept
        storeSound := resolves.storeSound sound
        inStep := fun resolver isSoft => by
          rw [noSigner] at isSoft
          cases isSoft }
  next signer isSigner =>
    obtain rfl := Option.some.inj rest
    exact
      { sameConfig := resolves.sameConfig.identify _ _
        kept := resolves.kept
        storeSound := resolves.storeSound sound
        inStep := fun resolver isSoft => by
          rw [← isSigner] at isSoft
          exact ⟨_, (resolves.softKey resolver isSoft).2, rfl⟩ }

/-- Another task may have set a signer again meanwhile. -/
theorem SigningKeys.reprovisionSoftKey_sound (correct : libraries.Correct)
    (same : SameConfig config keys.m_deviceInfo)
    (sound : StoreSound libraries config provisionings store)
    (inStep : keys.InStep libraries parseUuid config provisionings store)
    (returned : keys.reprovisionSoftKey libraries parseUuid calls store =
      some outcome) :
    outcome.Sound libraries parseUuid config
      (confirmedBy calls.provisioning outcome.provisioned provisionings) store := by
  obtain ⟨result, isResult, rest⟩ := Option.bind_eq_some_iff.mp returned
  obtain ⟨resolves, sameUuid⟩ := resolves_softKey correct same sound isResult
  split at rest
  next isNone =>
    obtain rfl := Option.some.inj rest
    obtain ⟨unchanged, notNew⟩ := resolves.other fun resolver isSoft => by
      rw [isNone] at isSoft
      cases isSoft
    refine ⟨resolves.sameConfig, resolves.kept, resolves.storeSound sound, ?_⟩
    intro resolver isSoft
    rw [unchanged, notNew]
    obtain ⟨uuid, isStored, isUuid⟩ := inStep resolver isSoft
    exact ⟨uuid, isStored, (sameUuid isNone).trans isUuid⟩
  next signer isSigner =>
    -- Nothing but a soft key has been asked for.
    obtain ⟨held, rfl⟩ := signer_tryResolve_softKey isResult isSigner
    obtain ⟨kept, isStored⟩ := resolves.softKey held isSigner
    dsimp only at rest
    split_ifs at rest with invalid <;> obtain rfl := Option.some.inj rest
    · refine ⟨resolves.sameConfig.identify _ _, resolves.kept,
        resolves.storeSound sound, ?_⟩
      intro resolver isOther
      obtain ⟨uuid, wasStored, isUuid⟩ := inStep resolver isOther
      rcases kept with unchanged | empty
      · have now := wasStored.mono
          (subset_confirmedBy calls.provisioning result.provisioned provisionings)
        rw [← unchanged] at now
        obtain ⟨-, rfl⟩ := isStored.unique correct now
        exact ⟨_, now, rfl⟩
      · exact absurd empty (wasStored.ne_nil correct)
    · refine ⟨resolves.sameConfig.identify _ _, resolves.kept,
        resolves.storeSound sound, ?_⟩
      intro resolver isOther
      obtain rfl := Signer.softKey.inj (Option.some.inj isOther)
      exact ⟨_, isStored, rfl⟩

end Stored

end ScorbitSdk
