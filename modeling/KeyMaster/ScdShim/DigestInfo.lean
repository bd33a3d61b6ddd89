import KeyMaster.ScdShim.HexArguments
import KeyMaster.ScdShim.SignRequests

namespace KeyMaster.ScdShim

/-! Digests in their PKCS#1 wrapping, from SETDATA to the sign request. -/

inductive DigestAlgorithm where
  | sha1 | sha224 | sha256 | sha384 | sha512
deriving DecidableEq, Repr

namespace DigestAlgorithm

def digestLength : DigestAlgorithm → Nat
  | sha1 => 20
  | sha224 => 28
  | sha256 => 32
  | sha384 => 48
  | sha512 => 64

/-- The content of the algorithm's object identifier. -/
def oid : DigestAlgorithm → List UInt8
  | sha1 => [0x2B, 0x0E, 0x03, 0x02, 0x1A]
  | sha224 => [0x60, 0x86, 0x48, 0x01, 0x65, 0x03, 0x04, 0x02, 0x04]
  | sha256 => [0x60, 0x86, 0x48, 0x01, 0x65, 0x03, 0x04, 0x02, 0x01]
  | sha384 => [0x60, 0x86, 0x48, 0x01, 0x65, 0x03, 0x04, 0x02, 0x02]
  | sha512 => [0x60, 0x86, 0x48, 0x01, 0x65, 0x03, 0x04, 0x02, 0x03]

/-- The algorithms whose wrapping `stripDigestInfo` knows. -/
def Stripped (algorithm : DigestAlgorithm) : Prop := algorithm = sha256 ∨ algorithm = sha512

end DigestAlgorithm

/-- A DER element whose length fits in one byte. -/
def derElement (tag : UInt8) (content : List UInt8) : List UInt8 :=
  tag :: UInt8.ofNat content.length :: content

/-- `SEQUENCE { SEQUENCE { OID, NULL }, OCTET STRING }`. -/
def digestInfo (algorithm : DigestAlgorithm) (digest : List UInt8) : List UInt8 :=
  derElement 0x30 (derElement 0x30 (derElement 0x06 algorithm.oid ++ derElement 0x05 []) ++
    derElement 0x04 digest)

def digestInfoPrefix : DigestAlgorithm → List UInt8
  | .sha1 => [0x30, 0x21, 0x30, 0x09, 0x06, 0x05, 0x2B, 0x0E, 0x03, 0x02, 0x1A, 0x05, 0x00, 0x04, 0x14]
  | .sha224 => [0x30, 0x2D, 0x30, 0x0D, 0x06, 0x09, 0x60, 0x86, 0x48, 0x01, 0x65, 0x03, 0x04, 0x02, 0x04,
      0x05, 0x00, 0x04, 0x1C]
  | .sha256 => sha256Prefix
  | .sha384 => [0x30, 0x41, 0x30, 0x0D, 0x06, 0x09, 0x60, 0x86, 0x48, 0x01, 0x65, 0x03, 0x04, 0x02, 0x02,
      0x05, 0x00, 0x04, 0x30]
  | .sha512 => sha512Prefix

section Wrapping

variable {algorithm : DigestAlgorithm} {data digest : List UInt8}

theorem digestInfo_eq (algorithm : DigestAlgorithm) (length : digest.length = algorithm.digestLength) :
    digestInfo algorithm digest = digestInfoPrefix algorithm ++ digest := by
  cases algorithm <;>
    simp only [DigestAlgorithm.digestLength] at length <;>
    simp [digestInfo, derElement, DigestAlgorithm.oid, digestInfoPrefix, sha256Prefix, sha512Prefix,
      length]

/-- The digest that a signature of the data is to be over. -/
inductive RawDigest (data : List UInt8) : List UInt8 → Prop where
  | wrapped (algorithm : DigestAlgorithm) (digest : List UInt8)
      (length : digest.length = algorithm.digestLength) (whole : data = digestInfo algorithm digest) :
      RawDigest data digest
  | raw (unwrapped : ∀ algorithm digest, digest.length = DigestAlgorithm.digestLength algorithm →
      data ≠ digestInfo algorithm digest) : RawDigest data data

/-- The data is a wrapped digest of an algorithm that `stripDigestInfo` does not
know: SHA-1, SHA-224 or SHA-384. -/
def OtherDigestInfo (data : List UInt8) : Prop :=
  ∃ algorithm digest, ¬ DigestAlgorithm.Stripped algorithm ∧
    digest.length = algorithm.digestLength ∧ data = digestInfo algorithm digest

theorem stripDigestInfo_stripped (known : algorithm.Stripped)
    (length : digest.length = algorithm.digestLength) :
    stripDigestInfo (digestInfo algorithm digest) = digest := by
  rw [digestInfo_eq _ length]
  rcases known with rfl | rfl <;>
    simp only [DigestAlgorithm.digestLength] at length <;>
    simp [stripDigestInfo, digestInfoPrefix, sha256Prefix, sha512Prefix, length]

theorem stripDigestInfo_other (unknown : ¬ algorithm.Stripped)
    (length : digest.length = algorithm.digestLength) :
    stripDigestInfo (digestInfo algorithm digest) = digestInfo algorithm digest := by
  rw [digestInfo_eq _ length]
  cases algorithm <;>
    simp [DigestAlgorithm.Stripped] at unknown <;>
    simp only [DigestAlgorithm.digestLength] at length <;>
    simp [stripDigestInfo, digestInfoPrefix, length]

/-- What `stripDigestInfo` takes off is the wrapping of a digest. -/
theorem stripDigestInfo_raw
    (unwrapped : ∀ algorithm digest, digest.length = DigestAlgorithm.digestLength algorithm →
      data ≠ digestInfo algorithm digest) : stripDigestInfo data = data := by
  unfold stripDigestInfo
  split
  · rename_i sha256
    obtain ⟨length, digest, rfl⟩ := sha256
    have digestLength : digest.length = 32 := by
      simp [sha256Prefix] at length
      omega
    exact absurd (digestInfo_eq .sha256 digestLength).symm
      (unwrapped .sha256 digest digestLength)
  · split
    · rename_i sha512
      obtain ⟨length, digest, rfl⟩ := sha512
      have digestLength : digest.length = 64 := by
        simp [sha512Prefix] at length
        omega
      exact absurd (digestInfo_eq .sha512 digestLength).symm
        (unwrapped .sha512 digest digestLength)
    · rfl

/-- The code strips every wrapping but the ones it does not know. -/
theorem rawDigest_stripDigestInfo_iff :
    (∀ digest, RawDigest data digest → stripDigestInfo data = digest) ↔ ¬ OtherDigestInfo data := by
  constructor
  · intro strips
    rintro ⟨algorithm, digest, unknown, length, rfl⟩
    have stripped := strips digest (.wrapped algorithm digest length rfl)
    rw [stripDigestInfo_other unknown length] at stripped
    have lengths := congrArg List.length stripped
    simp [digestInfo, derElement] at lengths
    omega
  · intro none digest raw
    cases raw with
    | wrapped algorithm digest length whole =>
        by_cases known : algorithm.Stripped
        · rw [whole, stripDigestInfo_stripped known length]
        · exact absurd ⟨algorithm, digest, known, length, whole⟩ none
    | raw unwrapped => exact stripDigestInfo_raw unwrapped

end Wrapping

variable {codecs : Codecs} {state : ScdState codecs} {setArgs signArgs : List Char} {io : RequestIo}
  {data : List UInt8}

/-- After SETDATA, PKSIGN sends a request for a signature of the digest. -/
def SignsRawDigest (state : ScdState codecs) (setArgs signArgs : List Char) (io : RequestIo)
    (data : List UInt8) : Prop :=
  ∃ after, handleSetdata state setArgs = some (after, sendOk "") ∧
    ∀ digest, RawDigest data digest → SignsData after signArgs io digest

theorem signsRawDigest_strips (lossless : codecs.Lossless)
    (hex : fromHexDigits (withoutWhiteSpace setArgs) = some data) (given : data ≠ [])
    (known : (namedIdentity state signArgs).isSome) :
    SignsRawDigest state setArgs signArgs io data ↔
      ∀ digest, RawDigest data digest → stripDigestInfo data = digest := by
  obtain ⟨id, named⟩ := Option.isSome_iff_exists.mp known
  have sameKey : namedIdentity { state with storedData := data } signArgs = some id := named
  have requested : pksignRequest { state with storedData := data } signArgs =
      .ok (id, stripDigestInfo data) := by
    rw [pksignRequest_eq_ok given, sameKey, Option.some_or]
    exact ⟨rfl, rfl⟩
  simp only [SignsRawDigest, handleSetdata_hex hex, Option.some.injEq, Prod.mk.injEq, and_true,
    exists_eq_left', signsData_requested lossless requested]

/-- PKSIGN signs the raw digest of what SETDATA was given unless that is the
wrapped digest of another algorithm than SHA-256 and SHA-512. -/
theorem signsRawDigest_iff (lossless : codecs.Lossless)
    (hex : fromHexDigits (withoutWhiteSpace setArgs) = some data) (given : data ≠ [])
    (known : (namedIdentity state signArgs).isSome) :
    SignsRawDigest state setArgs signArgs io data ↔ ¬ OtherDigestInfo data := by
  rw [signsRawDigest_strips lossless hex given known, rawDigest_stripDigestInfo_iff]

/-! Digests of one repeated byte. -/

namespace Sample

theorem shortStart_namedIdentity : (namedIdentity shortStart "OPENPGP.1".toList).isSome = true := by
  obtain ⟨key, one⟩ := identities_rawIdentity shortAnswer
  have names : String.ofList (trim (skipOptions "OPENPGP.1".toList)) = "OPENPGP.1" := by decide
  have first : (Identity.ofKey (answerCodecs shortAnswer) key 0 0).keyref = "OPENPGP.1" := rfl
  rw [namedIdentity, names, shortStart, ScdState.start, shortCodecs, one,
    List.find?_cons_of_pos (by simp [first])]
  rfl

def sha1Data : List UInt8 := digestInfo .sha1 (List.replicate 20 0xAB)

def sha256Data : List UInt8 := digestInfo .sha256 (List.replicate 32 0xAB)

end Sample

open Sample in
theorem signsRawDigest_sha256 :
    SignsRawDigest shortStart ("30 31 " ++ (toHex sha256Data).drop 4).toList
        "OPENPGP.1".toList (.line "") sha256Data ↔ ¬ OtherDigestInfo sha256Data :=
  signsRawDigest_iff shortCodecs_lossless (by decide +kernel) (by decide) shortStart_namedIdentity

open Sample in
/-- The wrapped SHA-1 digest is sent for signing as it is. -/
theorem sha1_signs_wrapping :
    ¬ SignsRawDigest shortStart (toHex sha1Data).toList "OPENPGP.1".toList (.line "") sha1Data := by
  intro signs
  have strips := (signsRawDigest_strips shortCodecs_lossless (by decide +kernel) (by decide)
    shortStart_namedIdentity).mp signs
  exact rawDigest_stripDigestInfo_iff.mp strips
    ⟨.sha1, _, by simp [DigestAlgorithm.Stripped], rfl, rfl⟩

end KeyMaster.ScdShim
