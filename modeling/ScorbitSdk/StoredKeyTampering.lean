import ScorbitSdk.SoftKeys

/-!
# Tampering with a stored key

The HMAC of a stored record is taken of its fields one behind another, with
nothing between them.  A character that is moved from one field to the next
leaves the HMAC as it is.
-/

namespace ScorbitSdk

open BoundedMemory ByteArrays DecimalFields

namespace SoftKeyResolver

section Tampering

variable {Random : Type*} (libraries : SoftKeyLibraries Random)

/-- No record with the HMAC of the saved one is loaded for another device. -/
def TamperEvident (provider password : List Char) (saved : KeyRecord) : Prop :=
  ∀ (info : SoftKeyDeviceInfo) (resolver : SoftKeyResolver) (j : JsonNode)
    (modified : KeyRecord) (loaded : SoftKeyDeviceInfo × SoftKeyResolver),
    info.provider = provider → resolver.deviceKeyPassword = password →
      KeyRecord.ofJson j = some modified → modified.hmac = saved.hmac →
        tryLoadDocument libraries info resolver j = some loaded →
          modified.provider = saved.provider ∧ modified.uuid = saved.uuid ∧
            modified.serialNumber = saved.serialNumber

/-- The texts that are decrypted to a device key. -/
def DecryptsToKey (password encryptedKey : List Char) : Prop :=
  ∃ decrypted, decryptSecret libraries.openSsl encryptedKey password =
    some decrypted ∧ decrypted.length = 32

/-- No part of the uuid that follows a decimal makes an encrypted key with the
rest of the message. -/
def NoLongerKey (password : List Char) (saved : KeyRecord) : Prop :=
  ∀ (uuid part : List Char) (serialNumber : BitVec 64),
    saved.uuid = uuid ++ decimal serialNumber.toNat ++ part →
      ¬DecryptsToKey libraries password
        (part ++ decimal saved.serialNumber.toNat ++ saved.encryptedKey)

variable {libraries} {provider password : List Char} {saved : KeyRecord}

/-- Tampering is noticed if no other fields give the same text. -/
theorem tamperEvident_iff_fields
    (injective : ∀ key, Function.Injective (libraries.openSsl.hmacSha256 key))
    (accepted : Accepts libraries provider password saved) :
    TamperEvident libraries provider password saved ↔
      ∀ (uuid encryptedKey : List Char) (serialNumber : BitVec 64),
        (uuid ++ decimal serialNumber.toNat) ++ encryptedKey =
            (saved.uuid ++ decimal saved.serialNumber.toNat) ++
              saved.encryptedKey →
          DecryptsToKey libraries password encryptedKey →
            uuid = saved.uuid ∧ serialNumber = saved.serialNumber := by
  constructor
  · intro evident uuid encryptedKey serialNumber same decrypts
    let modified : KeyRecord :=
      { saved with uuid, serialNumber, encryptedKey }
    have sameMessage :
        buildHmacMessage saved.provider uuid serialNumber encryptedKey =
          buildHmacMessage saved.provider saved.uuid saved.serialNumber
            saved.encryptedKey := by
      simp only [buildHmacMessage, List.append_assoc] at same ⊢
      rw [same]
    have accepts : Accepts libraries provider password modified :=
      { provider := accepted.provider
        hmac := by
          rw [sameMessage]
          exact accepted.hmac
        decrypts }
    let info : SoftKeyDeviceInfo :=
      { provider, uuid := [], serialNumber := 0, encryptedKey := []
        saveKeyCallback := true, loadKeyCallback := none }
    exact (evident info { SoftKeyResolver.fresh with deviceKeyPassword := password }
      modified.toJson modified _ rfl rfl modified.ofJson_toJson rfl
      (tryLoadDocument_eq_some_iff.mpr
        ⟨modified, modified.ofJson_toJson, accepts, rfl⟩)).2
  · rintro once info resolver j modified loaded rfl rfl isModified sameHmac
      isLoaded
    obtain ⟨record, isRecord, accepts, _⟩ :=
      tryLoadDocument_eq_some_iff.mp isLoaded
    cases isModified.symm.trans isRecord
    have sameProvider : modified.provider = saved.provider :=
      accepts.provider.trans accepted.provider.symm
    have sameMessage := (computeHmac_inj (injective _)).mp
      (accepts.hmac.symm.trans (sameHmac.trans accepted.hmac))
    simp only [buildHmacMessage, List.append_assoc] at sameMessage
    rw [sameProvider] at sameMessage
    have sameFields := List.append_cancel_left sameMessage
    refine ⟨sameProvider, once modified.uuid modified.encryptedKey
      modified.serialNumber ?_ accepts.decrypts⟩
    simpa only [List.append_assoc] using sameFields

/-- An encrypted key has as many characters as one that is saved. -/
theorem DecryptsToKey.le_length (correct : libraries.Correct)
    {encryptedKey : List Char}
    (decrypts : DecryptsToKey libraries password encryptedKey) :
    104 ≤ encryptedKey.length := by
  obtain ⟨decrypted, isDecrypted, length⟩ := decrypts
  have nonempty : decrypted ≠ [] := by
    rintro rfl
    cases length
  have bound := length_decryptSecret_le correct.openSsl isDecrypted nonempty
  omega

/-- The fields of a record that no other record can have the text of. -/
structure FieldsFixed (libraries : SoftKeyLibraries Random)
    (password : List Char) (saved : KeyRecord) : Prop where
  oneDigit : saved.serialNumber.toNat < 10
  noLongerDecimal :
    NoLongerDecimal (2 ^ 64) saved.uuid saved.serialNumber.toNat
  noLongerKey : NoLongerKey libraries password saved

theorem FieldsFixed.of_fields
    (accepted : Accepts libraries provider password saved)
    (once : ∀ (uuid encryptedKey : List Char) (serialNumber : BitVec 64),
      (uuid ++ decimal serialNumber.toNat) ++ encryptedKey =
          (saved.uuid ++ decimal saved.serialNumber.toNat) ++
            saved.encryptedKey →
        DecryptsToKey libraries password encryptedKey →
          uuid = saved.uuid ∧ serialNumber = saved.serialNumber) :
    FieldsFixed libraries password saved := by
  have splitsOnce :
      SplitsOnce (2 ^ 64) saved.uuid saved.serialNumber.toNat := by
    intro uuid number bounded same
    have value : (BitVec.ofNat 64 number).toNat = number := by
      rw [BitVec.toNat_ofNat, Nat.mod_eq_of_lt bounded]
    obtain ⟨sameUuid, sameNumber⟩ :=
      once uuid saved.encryptedKey (BitVec.ofNat 64 number)
        (by rw [value, same]) accepted.decrypts
    refine ⟨sameUuid, ?_⟩
    rw [← sameNumber, value]
  obtain ⟨oneDigit, noLongerDecimal⟩ :=
    (splitsOnce_iff saved.serialNumber.isLt).mp splitsOnce
  refine ⟨oneDigit, noLongerDecimal, ?_⟩
  intro uuid part serialNumber split decrypts
  have moved := (once uuid _ serialNumber (by
    rw [split]
    simp only [List.append_assoc]) decrypts).1
  rw [moved, List.append_assoc] at split
  have nothing := List.append_right_eq_self.mp split.symm
  exact decimal_ne_nil _ (List.append_eq_nil_iff.mp nothing).1

theorem FieldsFixed.fields (correct : libraries.Correct)
    (length : saved.encryptedKey.length = 104)
    (fixed : FieldsFixed libraries password saved)
    {uuid encryptedKey : List Char} {serialNumber : BitVec 64}
    (same : (uuid ++ decimal serialNumber.toNat) ++ encryptedKey =
      (saved.uuid ++ decimal saved.serialNumber.toNat) ++ saved.encryptedKey)
    (decrypts : DecryptsToKey libraries password encryptedKey) :
    uuid = saved.uuid ∧ serialNumber = saved.serialNumber := by
  have splitsOnce := fixed.noLongerDecimal.splitsOnce fixed.oneDigit
  have longEnough := decrypts.le_length correct
  have fromFront : uuid ++ decimal serialNumber.toNat =
      saved.uuid ++ decimal saved.serialNumber.toNat →
        uuid = saved.uuid ∧ serialNumber = saved.serialNumber := by
    intro sameFront
    obtain ⟨sameUuid, sameNumber⟩ :=
      splitsOnce uuid serialNumber.toNat serialNumber.isLt sameFront
    exact ⟨sameUuid, BitVec.eq_of_toNat_eq sameNumber⟩
  rcases List.append_eq_append_iff.mp same with
    ⟨part, front, longer⟩ | ⟨part, front, shorter⟩
  · rcases List.eq_nil_or_concat part with rfl | ⟨rest, last, rfl⟩
    · exact fromFront (by simpa using front.symm)
    · -- The number is the last character that the encrypted key has gained.
      have oneDigit := length_decimal_of_lt fixed.oneDigit
      rw [List.concat_eq_append, ← List.append_assoc] at front
      obtain ⟨split, digit⟩ := List.append_inj' front oneDigit
      subst longer
      rw [List.concat_eq_append, ← digit] at decrypts
      exact absurd decrypts (fixed.noLongerKey uuid rest serialNumber split)
  · have lengths := congrArg List.length shorter
    rw [List.length_append] at lengths
    have isEmpty : part = [] := List.length_eq_zero_iff.mp (by omega)
    subst isEmpty
    exact fromFront (by simpa using front)

/-- When tampering with the record that a provisioning has saved is noticed. -/
theorem tamperEvident_iff (correct : libraries.Correct)
    (injective : ∀ key, Function.Injective (libraries.openSsl.hmacSha256 key))
    {calls : ProvisioningCalls Random} {info : SoftKeyDeviceInfo}
    {resolver : SoftKeyResolver} {result : Resolution} {text : List Char}
    (returned : tryResolve libraries calls info resolver = some result)
    (isSaved : result.saved = some text)
    (isRecord : (libraries.texts.parse text).bind KeyRecord.ofJson = some saved) :
    TamperEvident libraries info.provider result.resolver.deviceKeyPassword
        saved ↔
      FieldsFixed libraries result.resolver.deviceKeyPassword saved := by
  obtain ⟨_, password, confirmed, _, provisioned⟩ :=
    tryResolve_saved returned isSaved
  have isPassword : result.resolver.deviceKeyPassword = password := by
    rw [provisioned.resolverSet]
  have parsed := correct.texts.parse_dump _ _ (KeyRecord.isFlat_toJson _)
    (provisioned.saved text isSaved)
  rw [parsed, Option.bind_some, KeyRecord.ofJson_toJson] at isRecord
  cases isRecord
  have accepted : Accepts libraries info.provider password
      (savedRecord libraries calls info password confirmed) :=
    accepts_savedRecord correct provisioned.generated password confirmed
  have length : (savedRecord libraries calls info password
      confirmed).encryptedKey.length = 104 := by
    have lengthKey := correct.length_privateKey _ provisioned.generated
    simp only [savedRecord, length_encryptSecret correct.openSsl, lengthKey]
  rw [isPassword, tamperEvident_iff_fields injective accepted]
  constructor
  · exact FieldsFixed.of_fields accepted
  · intro fixed uuid encryptedKey serialNumber same decrypts
    exact fixed.fields correct length same decrypts

end Tampering

end SoftKeyResolver

/-! ## A serial of two digits -/

namespace SoftKeySample

theorem toNat_lt (c : Char) : c.toNat < 0x110000 := by
  rcases c.valid with low | ⟨_, high⟩
  · exact Nat.lt_trans low (by decide)
  · exact high

theorem hmacSha256_injective (key : List Char) :
    Function.Injective (openSsl.hmacSha256 key) := by
  intro first second same
  simp only [openSsl] at same
  induction first generalizing second with
  | nil =>
      cases second with
      | nil => rfl
      | cons => simp at same
  | cons c first ih =>
      cases second with
      | nil => simp at same
      | cons d second =>
          simp only [List.flatMap_cons, List.cons_append, List.nil_append,
            List.cons.injEq] at same
          obtain ⟨high, middle, low, rest⟩ := same
          have boundC : c.toNat < 0x110000 := toNat_lt c
          have boundD : d.toNat < 0x110000 := toNat_lt d
          have values := congrArg BitVec.toNat high
          have values' := congrArg BitVec.toNat middle
          have values'' := congrArg BitVec.toNat low
          simp only [BitVec.toNat_ofNat] at values values' values''
          have sameChar : c.toNat = d.toNat := by omega
          rw [Char.toNat_inj.mp sameChar, ih rest]

end SoftKeySample

open SoftKeySample

namespace SoftKeyResolver

theorem tamperEvident_iff_sample :
    ∃ result, tryResolve libraries calls info .fresh = some result ∧
      (TamperEvident libraries info.provider
          result.resolver.deviceKeyPassword record ↔
        FieldsFixed libraries result.resolver.deviceKeyPassword record) := by
  obtain ⟨result, returned, isSaved, _⟩ := record_saved
  exact ⟨result, returned,
    tamperEvident_iff libraries_correct hmacSha256_injective returned isSaved rfl⟩

/-- The digit 4 of the serial number 42 is moved to the end of the uuid. -/
theorem not_tamperEvident_movedDigit :
    libraries.Correct ∧
      (∀ key, Function.Injective (libraries.openSsl.hmacSha256 key)) ∧
      ∃ result, tryResolve libraries calls info .fresh = some result ∧
        result.saved = some "record".toList ∧
        (libraries.texts.parse "record".toList).bind KeyRecord.ofJson =
          some record ∧
        ¬TamperEvident libraries info.provider
          result.resolver.deviceKeyPassword record := by
  obtain ⟨result, returned, isSaved, password⟩ := record_saved
  refine ⟨libraries_correct, hmacSha256_injective, result, returned, isSaved, rfl,
    ?_⟩
  rw [password]
  intro evident
  let modified : KeyRecord :=
    { record with uuid := "ab4".toList, serialNumber := 2 }
  let loading : SoftKeyResolver :=
    { SoftKeyResolver.fresh with deviceKeyPassword := hex [171] }
  have evaluated : (tryLoadDocument libraries info loading
      modified.toJson).isSome = true := by
    decide +kernel
  obtain ⟨loaded, isLoaded⟩ := Option.isSome_iff_exists.mp evaluated
  have same := evident info loading modified.toJson modified loaded rfl rfl
    modified.ofJson_toJson rfl isLoaded
  exact absurd same.2.1 (by decide +kernel)

end SoftKeyResolver

end ScorbitSdk
