import KeyMaster.Data.Der
import KeyMaster.Pkcs11.LocalClient
import KeyMaster.Pkcs11.Module

namespace KeyMaster.Pkcs11

open Data

/-! The certificates as a reader of DER sees them. -/

def ed25519Element : Der.Element := .constructed 0x30 [.primitive 0x06 [0x2B, 0x65, 0x70]]

def bitsElement (bytes : List UInt8) : Der.Element := .primitive 0x03 (0x00 :: bytes)

/-- A name of one attribute, the common name. -/
def nameElement (commonName : List UInt8) : Der.Element :=
  .constructed 0x30 [.constructed 0x31 [.constructed 0x30
    [.primitive 0x06 [0x55, 0x04, 0x03], .primitive 0x0C commonName]]]

def HasCommonName (name : Der.Element) (label : String) : Prop :=
  ∃ commonName, name = nameElement commonName ∧ Utf8.decode commonName = some label.toList

/-- The bytes are one certificate, of this key, that names the label as its
issuer and its subject. -/
def WellFormedCertificate (bytes publicKey : List UInt8) (label : String) : Prop :=
  ∃ version serial issuer validity subject signature,
    Der.parse bytes = some (.constructed 0x30
      [.constructed 0x30 [version, serial, ed25519Element, issuer, validity, subject,
        .constructed 0x30 [ed25519Element, bitsElement publicKey]],
       ed25519Element, bitsElement signature]) ∧
    HasCommonName issuer label ∧ HasCommonName subject label

/-! ### Lengths -/

variable {tag : UInt8} {contents : List UInt8}

theorem length_derLen_le (length : Nat) : (derLen length).length ≤ 3 := by
  unfold derLen
  split_ifs <;> simp

theorem length_derTag_le (tag : UInt8) (contents : List UInt8) :
    (derTag tag contents).length ≤ contents.length + 4 := by
  have prefixed := length_derLen_le contents.length
  rw [derTag, List.length_append, List.length_cons]
  omega

theorem length_derTag_short (tag : UInt8) (short : contents.length < 128) :
    (derTag tag contents).length = contents.length + 2 := by
  rw [derTag, derLen, if_pos short]
  simp only [List.length_append, List.length_cons, List.length_nil]
  omega

theorem length_derTag_long (tag : UInt8) {length : Nat} (isLength : contents.length = length)
    (long : 256 ≤ length) : (derTag tag contents).length = length + 4 := by
  rw [derTag, derLen, isLength, if_neg (by omega), if_neg (by omega)]
  simp only [List.length_append, List.length_cons, List.length_nil]
  omega

theorem derLen_eq {length : Nat} (small : length < 65536) : derLen length = Der.encodeLength length := by
  unfold derLen Der.encodeLength
  split_ifs with one two
  · rfl
  · have digits : Nat.digits 256 length = [length] := Nat.digits_of_lt 256 length (by omega) two
    rw [Octets.encode, digits]
    rfl
  · have high : Nat.digits 256 (length / 256) = [length / 256] :=
      Nat.digits_of_lt 256 _ (by omega) (by omega)
    have digits : Nat.digits 256 length = [length % 256, length / 256] := by
      rw [Nat.digits_def' (by decide) (by omega), high]
    have low : UInt8.ofNat (length % 256) = UInt8.ofNat length := UInt8.toNat_inj.mp (Nat.mod_mod _ _)
    rw [Octets.encode, digits]
    simp only [List.reverse_cons, List.reverse_nil, List.nil_append, List.singleton_append, List.map_cons,
      List.map_nil, low]
    rfl

/-! ### Elements of less than 65536 bytes -/

/-- The bytes are the encoding of the element, and no more than the bound. -/
structure Encodes (element : Der.Element) (bytes : List UInt8) (bound : Nat) : Prop where
  encoded : bytes = Der.encode element
  encodable : Der.Encodable element
  within : bytes.length ≤ bound

structure EncodesAll (elements : List Der.Element) (bytes : List UInt8) (bound : Nat) : Prop where
  encoded : bytes = Der.encodeAll elements
  encodable : Der.AllEncodable elements
  within : bytes.length ≤ bound

section Encodes

variable {element : Der.Element} {elements : List Der.Element} {bytes more : List UInt8}
  {bound other : Nat}

theorem derTag_eq (small : contents.length < 65536) : derTag tag contents = Der.frame tag contents := by
  rw [derTag, Der.frame, derLen_eq small]

theorem lt_maxLength {length : Nat} (small : length < 65536) : length < Der.maxLength :=
  Nat.lt_of_lt_of_le small
    (show 256 ^ 2 ≤ 256 ^ 126 from Nat.pow_le_pow_right (by decide) (by decide))

theorem encodes_primitive (isForm : Der.form tag = some .primitive) (within : contents.length ≤ bound)
    (small : bound < 65536) :
    Encodes (.primitive tag contents) (derTag tag contents) (bound + 4) where
  encoded := derTag_eq (by omega)
  encodable := ⟨isForm, lt_maxLength (by omega)⟩
  within := (length_derTag_le tag contents).trans (by omega)

theorem encodes_constructed (isForm : Der.form tag = some .constructed)
    (all : EncodesAll elements contents bound) (small : bound < 65536) :
    Encodes (.constructed tag elements) (derTag tag contents) (bound + 4) := by
  obtain ⟨rfl, encodable, within⟩ := all
  exact ⟨derTag_eq (by omega), ⟨isForm, lt_maxLength (by omega), encodable⟩,
    (length_derTag_le tag _).trans (by omega)⟩

theorem encodesAll_nil : EncodesAll [] [] 0 := ⟨rfl, trivial, Nat.le_refl 0⟩

theorem EncodesAll.cons (first : Encodes element bytes bound) (rest : EncodesAll elements more other) :
    EncodesAll (element :: elements) (bytes ++ more) (bound + other) := by
  obtain ⟨rfl, encodable, within⟩ := first
  obtain ⟨rfl, allEncodable, restWithin⟩ := rest
  refine ⟨rfl, ⟨encodable, allEncodable⟩, ?_⟩
  rw [List.length_append]
  omega

theorem Encodes.single (only : Encodes element bytes bound) : EncodesAll [element] bytes bound := by
  have all := EncodesAll.cons only encodesAll_nil
  rwa [List.append_nil, Nat.add_zero] at all

theorem Encodes.of_length (encodes : Encodes element bytes bound) (exact : bytes.length = other) :
    Encodes element bytes other :=
  ⟨encodes.encoded, encodes.encodable, Nat.le_of_eq exact⟩

end Encodes

/-! ### Labels that fit -/

def labelBytes (label : String) : List UInt8 := Utf8.encode label.toList

/-- With a label of this length the contents of the certificate have 65535 bytes. -/
def maxLabelLength : Nat := 32662

theorem encodes_ed25519Algo : Encodes ed25519Element ed25519Algo 7 := by
  have oid : Encodes (.primitive 0x06 [0x2B, 0x65, 0x70]) ed25519Oid 7 :=
    encodes_primitive (by decide) (Nat.le_refl 3) (by decide)
  exact (encodes_constructed (by decide) (.cons oid encodesAll_nil) (by decide)).of_length rfl

theorem encodes_bitString {bytes : List UInt8} {count : Nat} (length : bytes.length = count)
    (small : count < 127) : Encodes (bitsElement bytes) (bitString bytes) (count + 3) := by
  have contents : (0x00 :: bytes).length = count + 1 := by rw [List.length_cons, length]
  refine (encodes_primitive (by decide) (Nat.le_of_eq contents) (by omega)).of_length ?_
  rw [length_derTag_short _ (by omega), contents]

theorem encodes_certName {label : String} {length : Nat} (within : (labelBytes label).length ≤ length)
    (small : length ≤ maxLabelLength) :
    Encodes (nameElement (labelBytes label)) (certName label) (length + 21) := by
  rw [maxLabelLength] at small
  have oid : Encodes (.primitive 0x06 [0x55, 0x04, 0x03]) [0x06, 0x03, 0x55, 0x04, 0x03] 5 :=
    (encodes_primitive (by decide) (Nat.le_refl 3) (by decide)).of_length rfl
  have value : Encodes (.primitive 0x0C (labelBytes label)) (derTag 0x0C (labelBytes label)) (length + 4) :=
    encodes_primitive (by decide) within (by omega)
  have attr : Encodes (.constructed 0x30 [_, _]) (derSeq [_, _]) _ :=
    encodes_constructed (by decide) (.cons oid (.cons value encodesAll_nil)) (by omega)
  have set : Encodes (.constructed 0x31 [_]) (derTag 0x31 _) _ :=
    encodes_constructed (by decide) attr.single (by omega)
  have name : Encodes (.constructed 0x30 [_]) (derSeq [_]) _ :=
    encodes_constructed (by decide) (.cons set encodesAll_nil) (by omega)
  rw [show length + 21 = 5 + (length + 4 + 0) + 4 + 4 + 0 + 4 by omega]
  exact name

theorem length_spki {publicKey : List UInt8} (length : publicKey.length = 32) :
    (derSeq [ed25519Algo, bitString publicKey]).length = 44 := by
  have contents : [ed25519Algo, bitString publicKey].flatten.length = 42 := by
    have size : (bitString publicKey).length = 35 := by
      rw [bitString, length_derTag_short _ (by rw [List.length_cons]; omega), List.length_cons, length]
    rw [List.flatten_cons, List.flatten_cons, List.flatten_nil, List.append_nil, List.length_append, size]
    rfl
  rw [derSeq, length_derTag_short _ (by omega), contents]

theorem encodes_spki {publicKey : List UInt8} (length : publicKey.length = 32) :
    Encodes (.constructed 0x30 [ed25519Element, bitsElement publicKey])
      (derSeq [ed25519Algo, bitString publicKey]) 44 :=
  (encodes_constructed (by decide) (.cons encodes_ed25519Algo
    (.cons (encodes_bitString length (by decide)) encodesAll_nil)) (by decide)).of_length
    (length_spki length)

theorem wellFormedCertificate_of_le {publicKey : List UInt8} {label : String}
    (length : publicKey.length = 32) (small : (labelBytes label).length ≤ maxLabelLength) :
    WellFormedCertificate (createSelfSignedCert publicKey label) publicKey label := by
  have name := encodes_certName (Nat.le_refl _) small
  rw [maxLabelLength] at small
  have two : Encodes (.primitive 0x02 [2]) (derTag 0x02 [2]) 3 :=
    (encodes_primitive (by decide) (Nat.le_refl 1) (by decide)).of_length rfl
  have version : Encodes (.constructed 0xA0 [_]) (derTag 0xA0 (derTag 0x02 [2])) 5 :=
    (encodes_constructed (by decide) two.single (by decide)).of_length rfl
  have serial : Encodes (.primitive 0x02 [1]) (derTag 0x02 [1]) 3 :=
    (encodes_primitive (by decide) (Nat.le_refl 1) (by decide)).of_length rfl
  have notBefore : Encodes (.primitive 0x17 _) (derTag 0x17 (Utf8.encode "700101000000Z".toList)) 17 :=
    encodes_primitive (by decide) (show _ ≤ 13 by decide) (by decide)
  have notAfter : Encodes (.primitive 0x17 _) (derTag 0x17 (Utf8.encode "491231235959Z".toList)) 17 :=
    encodes_primitive (by decide) (show _ ≤ 13 by decide) (by decide)
  have validity : Encodes (.constructed 0x30 [_, _]) certValidity 32 :=
    (encodes_constructed (by decide) (.cons notBefore (.cons notAfter encodesAll_nil))
      (by decide)).of_length (by decide)
  have tbs : Encodes (.constructed 0x30 [_, _, _, _, _, _, _]) (tbsCert publicKey label) _ :=
    encodes_constructed (by decide) (.cons version (.cons serial (.cons encodes_ed25519Algo (.cons name
      (.cons validity (.cons name (.cons (encodes_spki length) encodesAll_nil))))))) (by omega)
  have length : (List.replicate 64 (0 : UInt8)).length = 64 := List.length_replicate
  have signature := encodes_bitString length (by decide)
  have certificate : Encodes (.constructed 0x30 [_, _, _]) (createSelfSignedCert publicKey label) _ :=
    encodes_constructed (by decide)
      (.cons tbs (.cons encodes_ed25519Algo (.cons signature encodesAll_nil))) (by omega)
  have named : HasCommonName (nameElement (labelBytes label)) label :=
    ⟨_, rfl, Utf8.decode_encode label.toList⟩
  exact ⟨_, _, _, _, _, _, Der.parse_eq_some.mpr ⟨certificate.encoded, certificate.encodable⟩, named, named⟩

/-! ### Labels that do not -/

theorem length_of_encodeLength {length : Nat} {high low : UInt8} {rest more : List UInt8}
    (bound : length < Der.maxLength)
    (same : 0x82 :: high :: low :: rest = Der.encodeLength length ++ more) :
    length < 65536 ∧ rest = more := by
  have few := Der.length_octets_lt bound
  rw [Der.encodeLength] at same
  split at same
  · rename_i short
    have first := congrArg UInt8.toNat (List.cons.inj same).1
    have byte : (UInt8.ofNat length).toNat = length := Nat.mod_eq_of_lt (by omega)
    rw [byte] at first
    exact absurd first (by rw [show (0x82 : UInt8).toNat = 130 from rfl]; omega)
  · obtain ⟨first, others⟩ := List.cons.inj same
    have number := congrArg UInt8.toNat first
    have byte : (UInt8.ofNat (128 + (Octets.encode length).length)).toNat =
        128 + (Octets.encode length).length := Nat.mod_eq_of_lt (by omega)
    rw [byte, show (0x82 : UInt8).toNat = 130 from rfl] at number
    have two : (Octets.encode length).length = 2 := by omega
    have small : length < 256 ^ 2 := Octets.length_encode_le_iff.mp (Nat.le_of_eq two)
    have split : [high, low] ++ rest = Octets.encode length ++ more := others
    exact ⟨small, List.append_inj_right split two.symm⟩

/-- Of a length of three bytes the first is lost, and the other two are another
length. -/
theorem parse_derTag_of_le (tag : UInt8) (large : 65536 ≤ contents.length) :
    Der.parse (derTag tag contents) = none := by
  cases parsed : Der.parse (derTag tag contents) with
  | none => rfl
  | some element =>
      obtain ⟨encoded, encodable⟩ := Der.parse_eq_some.mp parsed
      obtain ⟨other, inner, bound, framed⟩ : ∃ other inner, inner.length < Der.maxLength ∧
          Der.encode element = Der.frame other inner := by
        cases element with
        | primitive other inner => exact ⟨other, inner, encodable.2, by rw [Der.encode]⟩
        | constructed other parts => exact ⟨other, _, encodable.2.1, by rw [Der.encode]⟩
      rw [framed, derTag, derLen, if_neg (by omega), if_neg (by omega), Der.frame] at encoded
      obtain ⟨small, same⟩ := length_of_encodeLength bound (List.cons.inj encoded).2
      have whole : contents = inner := same
      rw [whole] at large
      omega

theorem length_certName {label : String} {length : Nat} (isLength : (labelBytes label).length = length)
    (long : 256 ≤ length) : (certName label).length = length + 21 := by
  have value := length_derTag_long 0x0C isLength long
  have attrContents : ([0x06, 0x03, 0x55, 0x04, 0x03] ++ derTag 0x0C (labelBytes label)).length =
      length + 9 := by
    rw [List.length_append, value]
    simp only [List.length_cons, List.length_nil]
    omega
  have attr := length_derTag_long 0x30 attrContents (by omega)
  have set := length_derTag_long 0x31 attr (by omega)
  have name := length_derTag_long 0x30 set (by omega)
  have whole : certName label = derTag 0x30 (derTag 0x31 (derTag 0x30
      ([0x06, 0x03, 0x55, 0x04, 0x03] ++ derTag 0x0C (labelBytes label)))) := by
    simp only [certName, derSeq, List.flatten_cons, List.flatten_nil, List.append_nil, labelBytes]
  rw [whole, name]

theorem length_tbsCert {publicKey : List UInt8} {label : String} {length : Nat}
    (isKey : publicKey.length = 32) (isLength : (labelBytes label).length = length)
    (long : 256 ≤ length) : (tbsCert publicKey label).length = 2 * length + 137 := by
  have version : (derTag 0xA0 (derTag 0x02 [2])).length = 5 := rfl
  have serial : (derTag 0x02 [1]).length = 3 := rfl
  have algo : ed25519Algo.length = 7 := rfl
  have validity : certValidity.length = 32 := by decide
  have contents : [derTag 0xA0 (derTag 0x02 [2]), derTag 0x02 [1], ed25519Algo, certName label,
      certValidity, certName label, derSeq [ed25519Algo, bitString publicKey]].flatten.length =
      2 * length + 133 := by
    simp only [List.flatten_cons, List.flatten_nil, List.length_append, List.length_nil, version, serial,
      algo, validity, length_certName isLength long, length_spki isKey]
    omega
  exact length_derTag_long 0x30 contents (by omega)

theorem parse_createSelfSignedCert {publicKey : List UInt8} {label : String}
    (isKey : publicKey.length = 32) (large : maxLabelLength < (labelBytes label).length) :
    Der.parse (createSelfSignedCert publicKey label) = none := by
  rw [maxLabelLength] at large
  have tbs := length_tbsCert isKey rfl (show 256 ≤ (labelBytes label).length by omega)
  have algo : ed25519Algo.length = 7 := rfl
  have signature : (bitString (List.replicate 64 0)).length = 67 := rfl
  apply parse_derTag_of_le
  simp only [List.flatten_cons, List.flatten_nil, List.length_append, List.length_nil, tbs, algo, signature]
  omega

theorem not_wellFormedCertificate {publicKey : List UInt8} {label : String} (isKey : publicKey.length = 32)
    (large : maxLabelLength < (labelBytes label).length) :
    ¬ WellFormedCertificate (createSelfSignedCert publicKey label) publicKey label := by
  intro ⟨_, _, _, _, _, _, parsed, _, _⟩
  rw [parse_createSelfSignedCert isKey large] at parsed
  cases parsed

theorem wellFormedCertificate_iff {publicKey : List UInt8} (isKey : publicKey.length = 32)
    (label : String) :
    WellFormedCertificate (createSelfSignedCert publicKey label) publicKey label ↔
      (labelBytes label).length ≤ maxLabelLength := by
  constructor
  · intro wellFormed
    by_contra long
    exact not_wellFormedCertificate isKey (Nat.lt_of_not_le long) wellFormed
  · exact wellFormedCertificate_of_le isKey

theorem alice_wellFormedCertificate_iff :
    WellFormedCertificate (createSelfSignedCert (List.replicate 32 0x11) "alice / certification")
        (List.replicate 32 0x11) "alice / certification" ↔
      (labelBytes "alice / certification").length ≤ maxLabelLength :=
  wellFormedCertificate_iff (by decide) "alice / certification"

namespace Sample

open Transparent

/-- The avatar's answer with one identity. -/
def identityResponse (raw : RawIdentity) : Value :=
  .object [("payload", .object [("identities", .array [.object [("key_type", .string raw.keyType),
      ("label", .string raw.label), ("public_key", .string raw.publicKey)]])]),
    ("request_id", .number (.posInt 1)), ("status", .string "ok")]

theorem toJson_identityResponse (raw : RawIdentity) :
    (identityResponse raw).toJson.toList =
      "\x7b\"payload\":\x7b\"identities\":[\x7b\"key_type\":".toList ++
        (quote raw.keyType).toList ++ ",\"label\":".toList ++ (quote raw.label).toList ++
        ",\"public_key\":".toList ++ (quote raw.publicKey).toList ++
      "\x7d]\x7d,\"request_id\":1,\"status\":\"ok\"\x7d".toList := by
  simp only [identityResponse, Value.toJson, membersToJson, itemsToJson, String.intercalate_cons_cons,
    String.intercalate_singleton, String.toList_append, Number.toJson, List.append_assoc]
  rfl

/-- A label of this many letters. -/
def letters (count : Nat) : String := String.ofList (List.replicate count 'a')

theorem length_letters (count : Nat) : (Utf8.encode (letters count).toList).length = count := by
  have one : Char.utf8Size 'a' = 1 := by decide
  simp [letters, Utf8.encode, List.length_flatMap, one]

theorem quote_letters (count : Nat) :
    (quote (letters count)).toList = ['"'] ++ (letters count).toList ++ ['"'] := by
  have plain : ∀ char ∈ (letters count).toList, escapeChar char = [char] := by
    intro char member
    rw [letters, String.toList_ofList] at member
    rw [List.eq_of_mem_replicate member]
    decide
  rw [JsonText.toList_quote, List.flatMap_congr plain]
  simp

def zeroKey (count : Nat) : RawIdentity :=
  ⟨"ed25519", String.ofList (toBase64 (List.replicate 32 0)), letters count⟩

theorem length_identityResponse_le (count : Nat) :
    (Utf8.encode (identityResponse (zeroKey count)).toJson.toList).length ≤ count + 200 := by
  have label : (Utf8.encode (quote (letters count)).toList).length = count + 2 := by
    rw [quote_letters, Utf8.encode_append, Utf8.encode_append, List.length_append, List.length_append,
      length_letters, show (Utf8.encode ['"']).length = 1 by decide]
    omega
  have before : (Utf8.encode ("\x7b\"payload\":\x7b\"identities\":[\x7b\"key_type\":".toList ++
      (quote "ed25519").toList ++ ",\"label\":".toList)).length ≤ 64 := by decide
  have after : (Utf8.encode (",\"public_key\":".toList ++
      (quote (String.ofList (toBase64 (List.replicate 32 0)))).toList ++
      "\x7d]\x7d,\"request_id\":1,\"status\":\"ok\"\x7d".toList)).length ≤ 128 := by decide
  rw [toJson_identityResponse]
  simp only [zeroKey, Utf8.encode_append, List.length_append] at *
  omega

end Sample

open Transparent Sample in
/-- An identity that the client can receive, with a label of one byte more. -/
theorem letters_not_wellFormedCertificate :
    (Utf8.encode (identityResponse (zeroKey 32663)).toJson.toList).length ≤ maxResponseLength ∧
      (simpleCodecs []).base64Decode (zeroKey 32663).publicKey = .ok (List.replicate 32 0) ∧
      ¬ WellFormedCertificate (createSelfSignedCert (List.replicate 32 0) (letters 32663))
        (List.replicate 32 0) (letters 32663) := by
  refine ⟨(length_identityResponse_le 32663).trans (by decide), simpleCodecs_lossless [] _, ?_⟩
  apply not_wellFormedCertificate (by decide)
  rw [labelBytes, length_letters]
  decide

end KeyMaster.Pkcs11
