import ScorbitSdk.ByteArrays

/-!
# Secrets encrypted with a password

A secret is encrypted under a key that is derived from the password and a random
salt, and written in base64 with the salt, the initialisation vector and the tag
around it.  OpenSSL is a parameter.
-/

namespace ScorbitSdk

open BoundedMemory ByteArrays

/-- The functions of OpenSSL that secrets are encrypted with.  A text that cannot
be read has no decoding, and one with another tag no plain text. -/
structure OpenSsl where
  readBase64 : List Char → Option (List Byte)
  writeBase64 : List Byte → List Char
  pbkdf2 : List Char → List Byte → List Byte
  gcmEncrypt : List Byte → List Byte → List Byte → List Byte × List Byte
  gcmDecrypt : List Byte → List Byte → List Byte → List Byte →
    Option (List Byte)
  hmacSha256 : List Char → List Char → List Byte

/-- Base64 has four characters for each three bytes, AES-GCM keeps the length of
a text, and both are undone by their counterparts. -/
structure OpenSsl.Correct (openSsl : OpenSsl) : Prop where
  read_written : ∀ data, openSsl.readBase64 (openSsl.writeBase64 data) = some data
  length_written : ∀ data,
    (openSsl.writeBase64 data).length = 4 * ((data.length + 2) / 3)
  length_read : ∀ text data, openSsl.readBase64 text = some data →
    data.length ≤ 3 * (text.length / 4)
  length_encrypted : ∀ key iv data,
    (openSsl.gcmEncrypt key iv data).1.length = data.length ∧
      (openSsl.gcmEncrypt key iv data).2.length = 16
  length_decrypted : ∀ key iv tag data plain,
    openSsl.gcmDecrypt key iv tag data = some plain →
      plain.length = data.length
  decrypt_encrypted : ∀ key iv data,
    openSsl.gcmDecrypt key iv (openSsl.gcmEncrypt key iv data).2
      (openSsl.gcmEncrypt key iv data).1 = some data

/-- The random bytes that one encryption asks for. -/
structure EncryptionRandom where
  salt : List Byte
  iv : List Byte
  length_salt : salt.length = 16
  length_iv : iv.length = 12

section Secrets

variable (openSsl : OpenSsl)

/-- Throws where the text cannot be read, since no vector has such a size. -/
def base64Decode (encoded : List Char) : Option (List Byte) :=
  openSsl.readBase64 encoded

def base64Encode (data : List Byte) : List Char :=
  openSsl.writeBase64 data

def decryptSecret (encryptedData password : List Char) : Option (List Byte) := do
  let data ← base64Decode openSsl encryptedData
  if data.length < 16 + 12 + 16 then some []
  else
    let salt := data.take 16
    let iv := (data.drop 16).take 12
    let tag := data.drop (data.length - 16)
    let ciphertext := (data.take (data.length - 16)).drop (16 + 12)
    let key := openSsl.pbkdf2 password salt
    match openSsl.gcmDecrypt key iv tag ciphertext with
    | some result => some result
    | none => some []

def encryptSecret (random : EncryptionRandom) (data : List Byte)
    (password : List Char) : List Char :=
  let key := openSsl.pbkdf2 password random.salt
  let encrypted := openSsl.gcmEncrypt key random.iv data
  base64Encode openSsl (random.salt ++ random.iv ++ encrypted.1 ++ encrypted.2)

def computeHmac (message key : List Char) : List Char :=
  hex (openSsl.hmacSha256 key message)

/-- Where the parts of what is written lie. -/
theorem cut_joined {salt iv tag : List Byte} (ciphertext : List Byte)
    (lengthSalt : salt.length = 16) (lengthIv : iv.length = 12)
    (lengthTag : tag.length = 16) :
    let data := salt ++ iv ++ ciphertext ++ tag
    data.length = 44 + ciphertext.length ∧
      data.take 16 = salt ∧ (data.drop 16).take 12 = iv ∧
      data.drop (data.length - 16) = tag ∧
      (data.take (data.length - 16)).drop (16 + 12) = ciphertext := by
  intro data
  have joined : data = salt ++ (iv ++ (ciphertext ++ tag)) := by
    simp [data]
  have total : data.length = 44 + ciphertext.length := by
    simp only [joined, List.length_append]
    omega
  have front : data.length - 16 = (salt ++ iv ++ ciphertext).length := by
    simp only [total, List.length_append]
    omega
  refine ⟨total, ?_, ?_, ?_, ?_⟩
  · rw [joined, ← lengthSalt, List.take_left']
    rfl
  · rw [joined, ← lengthSalt, List.drop_left' rfl, ← lengthIv,
      List.take_left' rfl]
  · rw [front, List.drop_left' rfl]
  · rw [front, List.take_left' rfl]
    have behind : 16 + 12 = (salt ++ iv).length := by
      rw [List.length_append]
      omega
    rw [behind, List.drop_left' rfl]

variable {openSsl}

/-- What has been encrypted is decrypted with the same password. -/
theorem decryptSecret_encryptSecret (correct : openSsl.Correct)
    (random : EncryptionRandom) (data : List Byte) (password : List Char) :
    decryptSecret openSsl (encryptSecret openSsl random data password) password =
      some data := by
  obtain ⟨salt, iv, lengthSalt, lengthIv⟩ := random
  obtain ⟨_, lengthTag⟩ :=
    correct.length_encrypted (openSsl.pbkdf2 password salt) iv data
  have decrypted :=
    correct.decrypt_encrypted (openSsl.pbkdf2 password salt) iv data
  simp only [decryptSecret, encryptSecret, base64Decode, base64Encode]
  generalize openSsl.gcmEncrypt (openSsl.pbkdf2 password salt) iv data =
    encrypted at lengthTag decrypted ⊢
  obtain ⟨ciphertext, tag⟩ := encrypted
  obtain ⟨total, saltCut, ivCut, tagCut, ciphertextCut⟩ :=
    cut_joined ciphertext lengthSalt lengthIv lengthTag
  have longEnough : ¬(salt ++ iv ++ ciphertext ++ tag).length < 16 + 12 + 16 := by
    rw [total]
    omega
  rw [correct.read_written, Option.bind_eq_bind, Option.bind_some,
    if_neg longEnough, saltCut, ivCut, tagCut, ciphertextCut, decrypted]

/-- The length of an encrypted secret. -/
theorem length_encryptSecret (correct : openSsl.Correct)
    (random : EncryptionRandom) (data : List Byte) (password : List Char) :
    (encryptSecret openSsl random data password).length =
      4 * ((data.length + 46) / 3) := by
  obtain ⟨lengthCiphertext, lengthTag⟩ := correct.length_encrypted
    (openSsl.pbkdf2 password random.salt) random.iv data
  simp only [encryptSecret, base64Encode, correct.length_written,
    List.length_append, random.length_salt, random.length_iv, lengthCiphertext,
    lengthTag]
  omega

/-- A secret of a length needs as many characters. -/
theorem length_decryptSecret_le (correct : openSsl.Correct)
    {encryptedData password : List Char} {result : List Byte}
    (decrypted : decryptSecret openSsl encryptedData password = some result)
    (nonempty : result ≠ []) :
    result.length + 44 ≤ 3 * (encryptedData.length / 4) := by
  unfold decryptSecret base64Decode at decrypted
  obtain ⟨data, isRead, rest⟩ := Option.bind_eq_some_iff.mp decrypted
  have bound := correct.length_read _ _ isRead
  dsimp only at rest
  split at rest
  · cases rest
    exact absurd rfl nonempty
  · split at rest
    · next plain opened =>
      cases rest
      have lengths := correct.length_decrypted _ _ _ _ _ opened
      simp only [List.length_drop, List.length_take] at lengths
      omega
    · cases rest
      exact absurd rfl nonempty

theorem hex_inj {first second : List Byte} : hex first = hex second ↔
    first = second := by
  constructor
  · intro same
    rw [← ofHex_hex first, same, ofHex_hex]
  · rintro rfl
    rfl

/-- Where the HMAC tells messages apart, so does its text. -/
theorem computeHmac_inj {key : List Char}
    (injective : Function.Injective (openSsl.hmacSha256 key))
    {first second : List Char} :
    computeHmac openSsl first key = computeHmac openSsl second key ↔
      first = second := by
  rw [computeHmac, computeHmac, hex_inj, injective.eq_iff]

end Secrets

end ScorbitSdk
