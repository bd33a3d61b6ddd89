import KeyMaster.Codecs
import KeyMaster.JsonSize
import KeyMaster.SshSa.Agent

namespace KeyMaster.SshSa

open Data

/-! The answers to an SSH agent client, from what the avatar returns. -/

structure AgentSignReply where
  signature : Option (List UInt8)
  keyType : String

/-! ### The main loop -/

section Translation

variable (codecs : Codecs)

/-- A member of an entry as a string; any other is empty. -/
def memberText (ident : Value) (field : String) : String :=
  ((ident.get field).bind Value.asStr).getD ""

/-- The loop over the entries of `identities`. -/
def pushIdentities (identities : List (List UInt8 × String)) : List Value → List (List UInt8 × String)
  | [] => identities
  | ident :: rest =>
      match codecs.base64Decode (memberText ident "key_blob") with
      | .ok keyBlob => pushIdentities (identities ++ [(keyBlob, memberText ident "comment")]) rest
      | .error _ => pushIdentities identities rest

/-- The reply to `RequestIdentities`; the response is missing if the exchange
with the avatar fails. -/
def identitiesReply (resp : Option JsonRpcResponse) : List (List UInt8 × String) :=
  match resp with
  | none => []
  | some resp =>
      if resp.error.isSome then []
      else
        match (resp.result.bind fun result => result.get "identities").bind Value.asArray with
        | some idents => pushIdentities codecs [] idents
        | none => []

/-- The reply to `SignRequest`. -/
def signReply (resp : Option JsonRpcResponse) : AgentSignReply :=
  match resp with
  | none => ⟨none, "ssh-ed25519"⟩
  | some resp =>
      if resp.error.isSome then ⟨none, "ssh-ed25519"⟩
      else
        { signature := ((resp.result.bind fun result => result.get "signature").bind Value.asStr).bind
            fun text => (codecs.base64Decode text).toOption
          keyType := ((resp.result.bind fun result => result.get "key_type").bind Value.asStr).getD
            "ssh-ed25519" }

end Translation

/-! ### The agent -/

def buildIdentitiesAnswer (identities : List (List UInt8 × String)) : List UInt8 :=
  let nkeys := UInt32.ofNat identities.length
  sshAgentIdentitiesAnswer :: (LengthPrefixed.beBytes nkeys ++ identities.flatMap fun (keyBlob, comment) =>
    LengthPrefixed.string keyBlob ++ LengthPrefixed.string (Utf8.encode comment.toList))

def buildSignResponse (rawSignature : List UInt8) (keyType : String) : List UInt8 :=
  let sigBlob :=
    LengthPrefixed.string (Utf8.encode keyType.toList) ++ LengthPrefixed.string rawSignature
  sshAgentSignResponse :: LengthPrefixed.string sigBlob

/-- What the client is answered; without a reply in time it is a failure. -/
def identitiesAnswer (reply : Option (List (List UInt8 × String))) : List UInt8 :=
  match reply with
  | some identities => buildIdentitiesAnswer identities
  | none => [sshAgentFailure]

def signAnswer (reply : Option AgentSignReply) : List UInt8 :=
  match reply.bind fun reply => reply.signature.map fun sig => (sig, reply.keyType) with
  | some (sig, keyType) => buildSignResponse sig keyType
  | none => [sshAgentFailure]

/-! ### The wire format -/

def readEntry (bytes : List UInt8) : Option ((List UInt8 × List UInt8) × List UInt8) :=
  (LengthPrefixed.readString bytes).bind fun (keyBlob, more) =>
    (LengthPrefixed.readString more).map fun (comment, rest) => ((keyBlob, comment), rest)

/-- The key count of an identities answer and its keys, which end it. -/
def decodeIdentities : List UInt8 → Option (UInt32 × List (List UInt8 × List UInt8))
  | [] => none
  | kind :: body =>
      if kind ≠ sshAgentIdentitiesAnswer then none
      else
        (LengthPrefixed.readNumber body).bind fun (nkeys, more) =>
          match LengthPrefixed.readMany readEntry nkeys.toNat more with
          | some (entries, []) => some (nkeys, entries)
          | _ => none

/-- The string that all of the bytes are. -/
def wholeString (bytes : List UInt8) : Option (List UInt8) :=
  match LengthPrefixed.readString bytes with
  | some (value, []) => some value
  | _ => none

/-- The key type and the signature of a sign response. -/
def decodeSignature : List UInt8 → Option (List UInt8 × List UInt8)
  | [] => none
  | kind :: body =>
      if kind ≠ sshAgentSignResponse then none
      else
        (wholeString body).bind fun sigBlob =>
          (LengthPrefixed.readString sigBlob).bind fun (keyType, more) =>
            (wholeString more).map fun signature => (keyType, signature)

/-- The entries that the avatar lists, without those whose key blob is no base64. -/
def listedEntries (codecs : Codecs) (result : Value) : List (List UInt8 × String) :=
  (((result.get "identities").bind Value.asArray).getD []).filterMap fun entry =>
    (codecs.base64Decode (memberText entry "key_blob")).toOption.map fun keyBlob =>
      (keyBlob, memberText entry "comment")

/-! ### Sizes -/

variable {codecs : Codecs} {resp : JsonRpcResponse} {result : Value}

/-- Decoding base64 does not lengthen. -/
def Shortens (codecs : Codecs) : Prop :=
  ∀ text bytes, codecs.base64Decode text = .ok bytes → bytes.length ≤ textSize text

theorem Shortens.length_le (shortens : Shortens codecs) {text : String} {bytes : List UInt8}
    (decoded : (codecs.base64Decode text).toOption = some bytes) : bytes.length ≤ textSize text := by
  cases decode : codecs.base64Decode text with
  | ok found =>
      rw [decode] at decoded
      cases decoded
      exact shortens text bytes decode
  | error error =>
      rw [decode] at decoded
      cases decoded

theorem memberText_le (entry : Value) (field : String) :
    textSize (memberText entry field) ≤ entry.size := by
  rw [memberText]
  cases found : (entry.get field).bind Value.asStr with
  | none => exact Nat.zero_le _
  | some text => exact Value.textSize_le_of_member found

theorem listedEntries_le (shortens : Shortens codecs) (result : Value) :
    (listedEntries codecs result).length ≤ result.size ∧
      ∀ entry ∈ listedEntries codecs result,
        entry.1.length ≤ result.size ∧ textSize entry.2 ≤ result.size := by
  rw [listedEntries]
  cases found : (result.get "identities").bind Value.asArray with
  | none => simp
  | some idents =>
      obtain ⟨item, isItem, isArray⟩ := Option.bind_eq_some_iff.mp found
      have within := Value.size_le_of_get isItem
      rw [Option.getD_some]
      refine ⟨(List.length_filterMap_le _ _).trans ((Value.length_le_of_asArray isArray).trans within), ?_⟩
      intro entry member
      obtain ⟨ident, isIdent, decoded⟩ := List.mem_filterMap.mp member
      obtain ⟨keyBlob, isBlob, rfl⟩ := Option.map_eq_some_iff.mp decoded
      have inner := (Value.size_le_of_asArray isArray isIdent).trans within
      exact ⟨(shortens.length_le isBlob).trans ((memberText_le ident _).trans inner),
        (memberText_le ident _).trans inner⟩

/-! ### Identities -/

theorem pushIdentities_eq (identities : List (List UInt8 × String)) (idents : List Value) :
    pushIdentities codecs identities idents = identities ++ idents.filterMap fun entry =>
      (codecs.base64Decode (memberText entry "key_blob")).toOption.map fun keyBlob =>
        (keyBlob, memberText entry "comment") := by
  induction idents generalizing identities with
  | nil => exact (List.append_nil _).symm
  | cons ident rest ih =>
      cases decode : codecs.base64Decode (memberText ident "key_blob") with
      | ok keyBlob =>
          simp only [pushIdentities, decode, ih, List.filterMap_cons, Except.toOption, Option.map_some,
            List.append_assoc, List.cons_append, List.nil_append]
      | error error =>
          simp only [pushIdentities, decode, ih, List.filterMap_cons, Except.toOption, Option.map_none]

theorem identitiesReply_eq (succeeded : resp.error = none) (holds : resp.result = some result) :
    identitiesReply codecs (some resp) = listedEntries codecs result := by
  simp only [identitiesReply, listedEntries, succeeded, holds, Option.isSome_none, Bool.false_eq_true,
    if_false, Option.bind_some]
  cases found : (result.get "identities").bind Value.asArray with
  | none => rfl
  | some idents =>
      simp only [pushIdentities_eq, List.nil_append, Option.getD_some]

theorem readEntry_append {keyBlob : List UInt8} {comment : String} (blob : keyBlob.length < 2 ^ 32)
    (text : textSize comment < 2 ^ 32) (rest : List UInt8) :
    readEntry
        (LengthPrefixed.string keyBlob ++ LengthPrefixed.string (Utf8.encode comment.toList) ++ rest) =
      some ((keyBlob, Utf8.encode comment.toList), rest) := by
  rw [readEntry, List.append_assoc, LengthPrefixed.readString_string blob, Option.bind_some]
  simp only [LengthPrefixed.readString_string text, Option.map_some]

theorem decodeIdentities_build {identities : List (List UInt8 × String)}
    (count : identities.length < 2 ^ 32)
    (sizes : ∀ entry ∈ identities, entry.1.length < 2 ^ 32 ∧ textSize entry.2 < 2 ^ 32) :
    decodeIdentities (buildIdentitiesAnswer identities) =
      some (UInt32.ofNat identities.length,
        identities.map fun entry => (entry.1, Utf8.encode entry.2.toList)) := by
  have read : LengthPrefixed.readMany readEntry identities.length (identities.flatMap fun entry =>
      LengthPrefixed.string entry.1 ++ LengthPrefixed.string (Utf8.encode entry.2.toList)) =
      some (identities.map fun entry => (entry.1, Utf8.encode entry.2.toList), []) := by
    have reads : ∀ item ∈ identities.map fun entry => (entry.1, Utf8.encode entry.2.toList), ∀ rest,
        readEntry (LengthPrefixed.string item.1 ++ LengthPrefixed.string item.2 ++ rest) =
          some (item, rest) := by
      intro item member rest
      obtain ⟨entry, isEntry, rfl⟩ := List.mem_map.mp member
      exact readEntry_append (sizes entry isEntry).1 (sizes entry isEntry).2 rest
    have entries := LengthPrefixed.readMany_flatMap reads []
    rw [List.append_nil, List.length_map, List.flatMap_map] at entries
    exact entries
  rw [buildIdentitiesAnswer, decodeIdentities, if_neg (not_not_intro rfl),
    LengthPrefixed.readNumber_beBytes, Option.bind_some]
  simp only [Nat.mod_eq_of_lt count, UInt32.toNat_ofNat', read]

/-! ### Signatures -/

theorem wholeString_string {bytes : List UInt8} (fits : bytes.length < 2 ^ 32) :
    wholeString (LengthPrefixed.string bytes) = some bytes := by
  have read := LengthPrefixed.readString_string fits []
  rw [List.append_nil] at read
  rw [wholeString, read]

theorem decodeSignature_build {signature : List UInt8} {keyType : String}
    (fits : signature.length + textSize keyType + 8 < 2 ^ 32) :
    decodeSignature (buildSignResponse signature keyType) =
      some (Utf8.encode keyType.toList, signature) := by
  have blob : (LengthPrefixed.string (Utf8.encode keyType.toList) ++
      LengthPrefixed.string signature).length < 2 ^ 32 := by
    simp only [LengthPrefixed.string, List.length_append, LengthPrefixed.length_beBytes]
    rw [textSize] at fits
    omega
  have algorithm : (Utf8.encode keyType.toList).length < 2 ^ 32 := by
    rw [textSize] at fits
    omega
  rw [buildSignResponse, decodeSignature, if_neg (not_not_intro rfl), wholeString_string blob,
    Option.bind_some, LengthPrefixed.readString_string algorithm, Option.bind_some]
  simp only [wholeString_string (show signature.length < 2 ^ 32 by omega), Option.map_some]

/-- What a result says about its signature. -/
def signedWith (codecs : Codecs) (result : Value) : Option (List UInt8) × String :=
  (((result.get "signature").bind Value.asStr).bind fun text => (codecs.base64Decode text).toOption,
    ((result.get "key_type").bind Value.asStr).getD "ssh-ed25519")

theorem signReply_eq (succeeded : resp.error = none) (holds : resp.result = some result) :
    signReply codecs (some resp) = ⟨(signedWith codecs result).1, (signedWith codecs result).2⟩ := by
  simp only [signReply, signedWith, succeeded, holds, Option.isSome_none, Bool.false_eq_true, if_false,
    Option.bind_some]

theorem signedWith_le (shortens : Shortens codecs) {signature : List UInt8}
    (signed : (signedWith codecs result).1 = some signature) :
    signature.length ≤ result.size ∧ textSize (signedWith codecs result).2 ≤ result.size + 11 := by
  constructor
  · obtain ⟨text, isText, decoded⟩ := Option.bind_eq_some_iff.mp signed
    exact (shortens.length_le decoded).trans (Value.textSize_le_of_member isText)
  · rw [signedWith]
    cases found : (result.get "key_type").bind Value.asStr with
    | none =>
        have default : textSize "ssh-ed25519" = 11 := by decide
        rw [Option.getD_none, default]
        omega
    | some text =>
        have within := Value.textSize_le_of_member found
        simp only [Option.getD_some]
        omega

/-! ### Results that fit a line -/

/-- The answers made from a result decode to what the result says. -/
theorem answers_decode (shortens : Shortens codecs) (succeeded : resp.error = none)
    (holds : resp.result = some result)
    (fits : (writeLineMessage resp.serialize).utf8ByteSize ≤ maxLineSize) :
    (∃ nkeys, decodeIdentities (identitiesAnswer (some (identitiesReply codecs (some resp)))) =
        some (nkeys, (listedEntries codecs result).map fun entry => (entry.1, Utf8.encode entry.2.toList)) ∧
      nkeys.toNat = (listedEntries codecs result).length) ∧
    (∀ signature, (signedWith codecs result).1 = some signature →
      decodeSignature (signAnswer (some (signReply codecs (some resp)))) =
        some (Utf8.encode (signedWith codecs result).2.toList, signature)) ∧
    ∀ signature keyType, signature.length + textSize keyType + 8 < 2 ^ 32 →
      decodeSignature (signAnswer (some ⟨some signature, keyType⟩)) =
        some (Utf8.encode keyType.toList, signature) := by
  have size := (size_result_le holds).trans fits
  rw [maxLineSize] at size
  refine ⟨⟨UInt32.ofNat (listedEntries codecs result).length, ?_, ?_⟩, ?_, ?_⟩
  · obtain ⟨count, sizes⟩ := listedEntries_le shortens result
    rw [identitiesReply_eq succeeded holds]
    exact decodeIdentities_build (by omega) fun entry member => by
      have within := sizes entry member
      omega
  · exact Nat.mod_eq_of_lt (by have := (listedEntries_le shortens result).1; omega)
  · intro signature signed
    have within := signedWith_le shortens signed
    have short : signature.length + textSize (signedWith codecs result).2 + 8 < 2 ^ 32 := by omega
    rw [signReply_eq succeeded holds, signed]
    exact decodeSignature_build short
  · intro signature keyType short
    exact decodeSignature_build short

namespace Sample

open Transparent

theorem simpleCodecs_shortens (texts : List (String × Value)) : Shortens (simpleCodecs texts) := by
  intro text bytes decoded
  cases found : ofBase64 text.toList with
  | none =>
      simp only [simpleCodecs, found] at decoded
      cases decoded
  | some later =>
      simp only [simpleCodecs, found] at decoded
      cases decoded
      exact (length_ofBase64_le found).trans (Utf8.length_le_encode text.toList)

/-- An entry whose key blob is no base64 stands between two others, the last of
them without a comment. -/
def agentResult : Value :=
  .object [("identities", .array [
      .object [("comment", .string "alice"), ("key_blob", .string "ASNF")],
      .object [("comment", .string "bob"), ("key_blob", .string "!")],
      .object [("key_blob", .string "Zw==")]]),
    ("key_type", .string "ssh-ed25519"), ("signature", .string "q80=")]

def agentResponse : JsonRpcResponse := .success (.number (.posInt 1)) agentResult

theorem agentResponse_decode :
    listedEntries (simpleCodecs []) agentResult = [([0x01, 0x23, 0x45], "alice"), ([0x67], "")] ∧
      (∃ nkeys, decodeIdentities
            (identitiesAnswer (some (identitiesReply (simpleCodecs []) (some agentResponse)))) =
          some (nkeys, (listedEntries (simpleCodecs []) agentResult).map fun entry =>
            (entry.1, Utf8.encode entry.2.toList)) ∧
        nkeys.toNat = (listedEntries (simpleCodecs []) agentResult).length) ∧
      (∀ signature, (signedWith (simpleCodecs []) agentResult).1 = some signature →
        decodeSignature (signAnswer (some (signReply (simpleCodecs []) (some agentResponse)))) =
          some (Utf8.encode (signedWith (simpleCodecs []) agentResult).2.toList, signature)) ∧
      ∀ signature keyType, signature.length + textSize keyType + 8 < 2 ^ 32 →
        decodeSignature (signAnswer (some ⟨some signature, keyType⟩)) =
          some (Utf8.encode keyType.toList, signature) :=
  ⟨by decide, answers_decode (simpleCodecs_shortens []) rfl rfl (by decide +kernel)⟩

end Sample

end KeyMaster.SshSa
