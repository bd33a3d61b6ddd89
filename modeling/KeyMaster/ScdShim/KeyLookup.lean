import KeyMaster.ScdShim.Framing
import KeyMaster.ScdShim.SignRequests

namespace KeyMaster.ScdShim

open Data

/-! Which key READKEY, PKSIGN and LEARN mean by an argument. -/

/-! ### Reading an answer back -/

theorem escape_injective {left right : List UInt8}
    (same : left.flatMap escapeByte = right.flatMap escapeByte) : left = right := by
  have decoded := congrArg Percent.decode same
  rw [decode_escape, decode_escape] at decoded
  exact Option.some.inj decoded

theorem publicKeySexp_injective {left right : List UInt8}
    (same : publicKeySexp left = publicKeySexp right) : left = right := by
  unfold publicKeySexp at same
  rw [List.append_left_inj, List.append_right_inj, List.cons.injEq] at same
  exact same.2

/-- What READKEY answers for a key. -/
def keyAnswer (key : List UInt8) : List UInt8 := sendData (publicKeySexp key) ++ sendOk ""

def noSuchKey : List UInt8 := sendErr 69 "No such key"

theorem keyAnswer_injective {left right : List UInt8} (same : keyAnswer left = keyAnswer right) :
    left = right := by
  unfold keyAnswer sendData at same
  rw [List.append_left_inj, List.append_left_inj, List.append_right_inj] at same
  exact publicKeySexp_injective (escape_injective same)

theorem keyAnswer_ne_noSuchKey (key : List UInt8) : keyAnswer key ≠ noSuchKey := by
  have data : (keyAnswer key).head? = some 0x44 := rfl
  have error : noSuchKey.head? = some 0x45 := by decide
  intro same
  rw [same, error] at data
  cases data

variable {codecs : Codecs} {state : ScdState codecs} {args : List Char} {io : RequestIo}
  {key : List UInt8}

theorem handleReadkey_eq :
    handleReadkey state args =
      match namedIdentity state args with
      | some id => keyAnswer id.publicKey.toList
      | none => noSuchKey := rfl

theorem handleReadkey_eq_keyAnswer :
    handleReadkey state args = keyAnswer key ↔
      ∃ id, namedIdentity state args = some id ∧ id.publicKey.toList = key := by
  rw [handleReadkey_eq]
  cases namedIdentity state args with
  | none => simpa using (keyAnswer_ne_noSuchKey key).symm
  | some id =>
      simp only [Option.some.injEq, exists_eq_left']
      exact ⟨keyAnswer_injective, congrArg keyAnswer⟩

theorem handleReadkey_eq_noSuchKey :
    handleReadkey state args = noSuchKey ↔ namedIdentity state args = none := by
  rw [handleReadkey_eq]
  cases namedIdentity state args with
  | none => simp
  | some id => simpa using keyAnswer_ne_noSuchKey id.publicKey.toList

/-! ### PKSIGN and READKEY -/

theorem keygrip_forall (predicate : Char → Bool)
    (digits : ∀ value < 16, predicate ("0123456789ABCDEF".toList.getD value '0') = true)
    (key : List UInt8) : ∀ char ∈ (computeKeygrip codecs key).toList, predicate char = true := by
  intro char member
  rw [computeKeygrip, String.toList_ofList, List.mem_flatMap] at member
  obtain ⟨byte, _, isDigit⟩ := member
  have bound := byte.toNat_lt
  simp only [upperHex, List.mem_cons, List.not_mem_nil, or_false] at isDigit
  rcases isDigit with rfl | rfl
  · exact digits _ (by omega)
  · exact digits _ (by omega)

/-- PKSIGN and READKEY mean the same key by the argument. -/
structure KeysAgree (state : ScdState codecs) (args : List Char) (io : RequestIo) : Prop where
  sameKey : ∀ key, SignsFor state args io key ↔ handleReadkey state args = keyAnswer key
  unknown : handleReadkey state args = noSuchKey → pksignSent state args io = [] ∧
    ∃ code message, (handlePksign state args io).2 = sendErr code message

theorem signsFor_iff (lossless : codecs.Lossless) (stored : state.storedData ≠ []) :
    SignsFor state args io key ↔
      ((namedIdentity state args).or (fallbackIdentity state)).map (·.publicKey.toList) =
        some key := by
  cases requested : pksignRequest state args with
  | ok request =>
      obtain ⟨id, data⟩ := request
      rw [signsFor_requested lossless requested, ((pksignRequest_eq_ok stored).mp requested).1]
      simp
  | error failure =>
      have none : (namedIdentity state args).or (fallbackIdentity state) = none := by
        rw [Option.eq_none_iff_forall_ne_some]
        intro id named
        rw [(pksignRequest_eq_ok stored).mpr ⟨named, rfl⟩] at requested
        cases requested
      rw [none]
      simpa [SignsFor] using not_sendsField_refused requested

/-- PKSIGN signs for the key that READKEY answers with, or, where READKEY knows
none, for the first key under `OPENPGP.3`.  Without either it refuses. -/
theorem pksign_key (lossless : codecs.Lossless) (stored : state.storedData ≠ [])
    (args : List Char) (io : RequestIo) :
    (∀ key, SignsFor state args io key ↔ handleReadkey state args = keyAnswer key ∨
      handleReadkey state args = noSuchKey ∧
        (fallbackIdentity state).map (·.publicKey.toList) = some key) ∧
    (handleReadkey state args = noSuchKey → fallbackIdentity state = none →
      pksignSent state args io = [] ∧
        ∃ code message, (handlePksign state args io).2 = sendErr code message) := by
  constructor
  · intro key
    rw [signsFor_iff lossless stored, handleReadkey_eq_keyAnswer, handleReadkey_eq_noSuchKey]
    cases namedIdentity state args <;> simp
  · intro unknown noFallback
    rw [handleReadkey_eq_noSuchKey] at unknown
    have refused : pksignRequest state args = .error (69, "No matching key found") := by
      rw [pksignRequest_eq, unknown, noFallback]
      rfl
    exact ⟨pksignSent_refused refused, _, _, by rw [handlePksign_refused refused]⟩

/-! Keys of one repeated byte. -/

namespace Sample

def rawKey (byte : UInt8) : RawIdentity :=
  ⟨"ed25519", String.ofList (Transparent.toBase64 (List.replicate 32 byte)), "key"⟩

def keyOf (byte : UInt8) : Vector UInt8 32 := .replicate 32 byte

theorem decodeKey_rawKey (byte : UInt8) : decodeKey shortCodecs (rawKey byte) = some (keyOf byte) := by
  have decoded : shortCodecs.base64Decode (rawKey byte).publicKey = .ok (List.replicate 32 byte) :=
    shortCodecs_lossless _
  unfold decodeKey
  rw [if_neg fun other => other rfl, decoded]
  rfl

def keyed (raw : List RawIdentity) : ScdState shortCodecs :=
  { ScdState.start shortCodecs raw .connect 42 with storedData := [1] }

theorem fallbackIdentity_twoKeys (first second : UInt8) :
    (fallbackIdentity (keyed [rawKey first, rawKey second])).map (·.publicKey.toList) =
      some (List.replicate 32 second) := by
  have listed : decodedIdentities shortCodecs [rawKey first, rawKey second] =
      [(keyOf first, 0), (keyOf second, 1)] := by
    simp [decodedIdentities, decodeKey_rawKey]
  rw [fallbackIdentity, keyed, ScdState.start, identities, listed]
  rfl

end Sample

open Sample in
theorem pksign_key_sample :
    (∀ key, SignsFor (keyed [rawKey 1]) "OPENPGP.1".toList (.line "") key ↔
      handleReadkey (keyed [rawKey 1]) "OPENPGP.1".toList = keyAnswer key ∨
        handleReadkey (keyed [rawKey 1]) "OPENPGP.1".toList = noSuchKey ∧
          (fallbackIdentity (keyed [rawKey 1])).map (·.publicKey.toList) = some key) ∧
    (handleReadkey (keyed [rawKey 1]) "OPENPGP.1".toList = noSuchKey →
      fallbackIdentity (keyed [rawKey 1]) = none →
      pksignSent (keyed [rawKey 1]) "OPENPGP.1".toList (.line "") = [] ∧
        ∃ code message, (handlePksign (keyed [rawKey 1]) "OPENPGP.1".toList (.line "")).2 =
          sendErr code message) :=
  pksign_key shortCodecs_lossless (by decide) _ _

open Sample in
/-- READKEY knows no `OPENPGP.2`, and PKSIGN signs with the second key. -/
theorem unknown_key_signed :
    ¬ KeysAgree (keyed [rawKey 1, rawKey 2]) "OPENPGP.2".toList (.line "") := by
  intro agree
  have unknown : namedIdentity (keyed [rawKey 1, rawKey 2]) "OPENPGP.2".toList = none := by
    apply List.find?_eq_none.mpr
    intro id member
    rw [show String.ofList (trim (skipOptions "OPENPGP.2".toList)) = "OPENPGP.2" by decide]
    have otherGrip : id.keygrip ≠ "OPENPGP.2" := by
      intro same
      have letter : 'O' ∈ id.keygrip.toList := by
        rw [same]
        decide
      rw [id.keygrip_eq] at letter
      simpa using keygrip_forall (fun char => char != 'O') (by decide) _ _ letter
    rcases id.keyref_eq with isRef | isRef <;> simp [isRef, otherGrip]
  have signs : SignsFor (keyed [rawKey 1, rawKey 2]) "OPENPGP.2".toList (.line "")
      (List.replicate 32 2) := by
    rw [signsFor_iff shortCodecs_lossless (by decide), unknown, Option.none_or]
    exact fallbackIdentity_twoKeys 1 2
  rw [agree.sameKey, handleReadkey_eq_noSuchKey.mpr unknown] at signs
  exact keyAnswer_ne_noSuchKey _ signs.symm

/-! ### LEARN and READKEY -/

/-- LEARN reports the keygrip under the keyref, on a line of its own. -/
def Reports (state : ScdState codecs) (grip ref : String) : Prop :=
  textBytes ("S KEYPAIRINFO " ++ grip ++ " " ++ ref) ∈ (handleLearn state).splitOn lineFeed

def learnLines (state : ScdState codecs) : List String :=
  ["S SERIALNO " ++ serial, "S APPTYPE OPENPGP"] ++
    state.identities.map (fun id => "S KEYPAIRINFO " ++ id.keygrip ++ " " ++ id.keyref) ++ ["OK"]

/-- Both names of each key that LEARN reports lead READKEY to that key. -/
def LearnCoherent (state : ScdState codecs) : Prop :=
  ∀ grip ref, Reports state grip ref →
    ∃ key, handleReadkey state grip.toList = keyAnswer key ∧
      handleReadkey state ref.toList = keyAnswer key ∧ grip = computeKeygrip codecs key

theorem handleLearn_eq : handleLearn state =
    ((learnLines state).map textBytes).flatMap (· ++ [lineFeed]) := by
  have apptype : textBytes "S APPTYPE OPENPGP\n" = textBytes "S APPTYPE OPENPGP" ++ [lineFeed] := by
    decide
  have ok : textBytes "OK\n" = textBytes "OK" ++ [lineFeed] := by decide
  simp [handleLearn, learnLines, sendStatus, sendOk, List.flatMap_map, textBytes_lineFeed,
    List.flatMap_append, apptype, ok]

theorem textBytes_injective {left right : String} (same : textBytes left = textBytes right) :
    left = right :=
  String.toList_inj.mp (Utf8.encode_injective same)

theorem space_not_mem_keygrip (id : Identity codecs) : ' ' ∉ id.keygrip.toList := by
  intro member
  rw [id.keygrip_eq] at member
  have other := keygrip_forall (fun char => char != ' ') (by decide) _ _ member
  simp at other

theorem space_not_mem_keyref (id : Identity codecs) : ' ' ∉ id.keyref.toList := by
  rcases id.keyref_eq with same | same <;> rw [same] <;> decide

theorem learnLines_oneLine : ∀ line ∈ (learnLines state).map textBytes, lineFeed ∉ line := by
  intro line member
  obtain ⟨text, inLines, rfl⟩ := List.mem_map.mp member
  rw [lineFeed_mem_textBytes]
  simp only [learnLines, List.mem_append, List.mem_cons, List.not_mem_nil, or_false, List.mem_map]
    at inLines
  rcases inLines with ((rfl | rfl) | ⟨id, _, rfl⟩) | rfl
  · decide
  · decide
  · have grip := newline_not_mem_keygrip id
    have ref := newline_not_mem_keyref id
    simp [grip, ref]
  · decide

theorem keypairinfo_injective (id : Identity codecs) {grip ref : String}
    (same : "S KEYPAIRINFO " ++ id.keygrip ++ " " ++ id.keyref =
      "S KEYPAIRINFO " ++ grip ++ " " ++ ref) : id.keygrip = grip ∧ id.keyref = ref := by
  rw [← String.toList_inj] at same
  simp only [String.toList_append, List.append_assoc, List.append_cancel_left_eq] at same
  have words := (List.append_cons_inj_of_notMem (space_not_mem_keygrip id)
    (space_not_mem_keyref id)).mp same
  exact ⟨String.toList_inj.mp words.1, String.toList_inj.mp words.2.2⟩

theorem reports_iff {grip ref : String} :
    Reports state grip ref ↔ ∃ id ∈ state.identities, id.keygrip = grip ∧ id.keyref = ref := by
  rw [Reports, handleLearn_eq, Utf8.splitOn_lines learnLines_oneLine, List.mem_append, List.mem_singleton,
    List.mem_map]
  constructor
  · rintro (⟨line, member, same⟩ | empty)
    · obtain rfl := textBytes_injective same
      simp only [learnLines, List.mem_append, List.mem_cons, List.not_mem_nil, or_false, List.mem_map]
        at member
      rcases member with ((serialno | apptype) | ⟨id, member, line⟩) | ok
      · simp [← String.toList_inj] at serialno
      · simp [← String.toList_inj] at apptype
      · exact ⟨id, member, keypairinfo_injective id line⟩
      · simp [← String.toList_inj] at ok
    · have none := Utf8.encode_eq_nil.mp empty
      simp at none
  · rintro ⟨id, member, rfl, rfl⟩
    refine .inl ⟨_, ?_, rfl⟩
    simp only [learnLines, List.mem_append, List.mem_map]
    exact .inl (.inr ⟨id, member, rfl⟩)

theorem argument_word {text : String} (noSpace : ∀ char ∈ text.toList, isWhiteSpace char = false)
    (noDash : '-' ∉ text.toList) : String.ofList (trim (skipOptions text.toList)) = text := by
  have skipped : skipOptions text.toList = text.toList := by
    cases chars : text.toList with
    | nil => rfl
    | cons char rest =>
        rw [chars, List.forall_mem_cons] at noSpace
        rw [chars, List.mem_cons, not_or] at noDash
        have noOption : "--".toList.isPrefixOf (char :: rest) = false := by
          simp [List.isPrefixOf, noDash.1]
        simp only [skipOptions, skipOptionsFrom, noSpace.1, noOption, Bool.false_eq_true, if_false]
  rw [skipped, trim_eq_self noSpace, String.ofList_toList]

theorem keygrip_argument (id : Identity codecs) :
    String.ofList (trim (skipOptions id.keygrip.toList)) = id.keygrip := by
  rw [id.keygrip_eq]
  apply argument_word
  · intro char member
    simpa using keygrip_forall (fun char => !isWhiteSpace char) (by decide) _ char member
  · intro member
    simpa using keygrip_forall (fun char => char != '-') (by decide) _ _ member

theorem keyref_argument (id : Identity codecs) :
    String.ofList (trim (skipOptions id.keyref.toList)) = id.keyref := by
  rcases id.keyref_eq with same | same <;> rw [same] <;> rfl

theorem keyref_ne_keygrip (first second : Identity codecs) : first.keyref ≠ second.keygrip := by
  have letter : 'O' ∈ first.keyref.toList := by
    rcases first.keyref_eq with same | same <;> rw [same] <;> decide
  intro same
  rw [same, second.keygrip_eq] at letter
  simpa using keygrip_forall (fun char => char != 'O') (by decide) _ _ letter

/-- `compute_keygrip` tells the keys of the identities apart. -/
def KeygripsDistinguish (state : ScdState codecs) : Prop :=
  ∀ first ∈ state.identities, ∀ second ∈ state.identities,
    first.keygrip = second.keygrip → first.publicKey = second.publicKey

section Named

variable {id : Identity codecs}

theorem namedIdentity_keygrip (distinguish : KeygripsDistinguish state)
    (member : id ∈ state.identities) :
    ∃ found, namedIdentity state id.keygrip.toList = some found ∧ found.publicKey = id.publicKey := by
  unfold namedIdentity
  rw [keygrip_argument]
  cases search : state.identities.find? fun other =>
      other.keyref = id.keygrip ∨ other.keygrip = id.keygrip with
  | none =>
      have absent := List.find?_eq_none.mp search id member
      simp at absent
  | some found =>
      have named := List.find?_some search
      simp only [decide_eq_true_eq, keyref_ne_keygrip, false_or] at named
      exact ⟨found, rfl, distinguish _ (List.mem_of_find?_eq_some search) _ member named⟩

theorem namedIdentity_keyref (member : id ∈ state.identities) :
    ∃ found ∈ state.identities, namedIdentity state id.keyref.toList = some found ∧
      found.keyref = id.keyref := by
  unfold namedIdentity
  rw [keyref_argument]
  cases search : state.identities.find? fun other =>
      other.keyref = id.keyref ∨ other.keygrip = id.keyref with
  | none =>
      have absent := List.find?_eq_none.mp search id member
      simp at absent
  | some found =>
      have named := List.find?_some search
      simp only [decide_eq_true_eq, (keyref_ne_keygrip _ _).symm, or_false] at named
      exact ⟨found, List.mem_of_find?_eq_some search, rfl, named⟩

end Named

/-- What LEARN reports is coherent exactly if no keyref stands for two keys. -/
theorem learnCoherent_iff_keyrefs (distinguish : KeygripsDistinguish state) :
    LearnCoherent state ↔ ∀ first ∈ state.identities, ∀ second ∈ state.identities,
      first.keyref = second.keyref → first.publicKey = second.publicKey := by
  constructor
  · intro coherent first inFirst second inSecond sameRef
    have meant : ∀ id ∈ state.identities,
        handleReadkey state id.keyref.toList = keyAnswer id.publicKey.toList := by
      intro id member
      obtain ⟨key, byGrip, byRef, _⟩ := coherent _ _ (reports_iff.mpr ⟨id, member, rfl, rfl⟩)
      obtain ⟨found, named, same⟩ := namedIdentity_keygrip distinguish member
      rw [handleReadkey_eq, named] at byGrip
      rw [byRef, ← keyAnswer_injective byGrip, same]
    have answers := meant first inFirst
    rw [sameRef, meant second inSecond] at answers
    exact Vector.toList_inj.mp (keyAnswer_injective answers).symm
  · intro oneKey grip ref reported
    obtain ⟨id, member, rfl, rfl⟩ := reports_iff.mp reported
    obtain ⟨byGrip, namedGrip, sameGrip⟩ := namedIdentity_keygrip distinguish member
    obtain ⟨byRef, inIdentities, namedRef, sameRef⟩ := namedIdentity_keyref member
    have sameKey := oneKey byRef inIdentities id member sameRef
    refine ⟨id.publicKey.toList, ?_, ?_, id.keygrip_eq⟩
    · rw [handleReadkey_eq, namedGrip, ← sameGrip]
    · rw [handleReadkey_eq, namedRef, ← sameKey]

section Start

variable {raw : List RawIdentity} {client : GpgSaClient} {pid : UInt32}

theorem identities_getElem? (position : Nat) :
    (identities codecs raw)[position]? = ((decodedIdentities codecs raw)[position]?).map fun entry =>
      .ofKey codecs entry.1 entry.2 position := by
  simp [identities, List.getElem?_zipIdx, Option.map_map, Function.comp_def]

theorem keygripsDistinguish_start
    (injective : ∀ first ∈ decodedIdentities codecs raw, ∀ second ∈ decodedIdentities codecs raw,
      computeKeygrip codecs first.1.toList = computeKeygrip codecs second.1.toList →
        first.1 = second.1) :
    KeygripsDistinguish (.start codecs raw client pid) := by
  have decoded : ∀ id ∈ identities codecs raw, ∃ entry ∈ decodedIdentities codecs raw,
      entry.1 = id.publicKey := by
    intro id member
    obtain ⟨position, found⟩ := List.mem_iff_getElem?.mp member
    rw [identities_getElem?, Option.map_eq_some_iff] at found
    obtain ⟨entry, isEntry, rfl⟩ := found
    exact ⟨entry, List.mem_of_getElem? isEntry, rfl⟩
  intro first inFirst second inSecond sameGrip
  obtain ⟨firstEntry, firstDecoded, firstKey⟩ := decoded first inFirst
  obtain ⟨secondEntry, secondDecoded, secondKey⟩ := decoded second inSecond
  rw [first.keygrip_eq, second.keygrip_eq, ← firstKey, ← secondKey] at sameGrip
  rw [← firstKey, ← secondKey]
  exact injective _ firstDecoded _ secondDecoded sameGrip

/-- The two keyrefs are enough for two keys and no more. -/
theorem keyrefs_start (distinct : ((decodedIdentities codecs raw).map Prod.fst).Nodup) :
    (∀ first ∈ identities codecs raw, ∀ second ∈ identities codecs raw,
      first.keyref = second.keyref → first.publicKey = second.publicKey) ↔
      (decodedIdentities codecs raw).length ≤ 2 := by
  constructor
  · intro oneKey
    by_contra more
    have keyAt : ∀ position (within : position < (decodedIdentities codecs raw).length),
        .ofKey codecs (decodedIdentities codecs raw)[position].1
          (decodedIdentities codecs raw)[position].2 position ∈ identities codecs raw := by
      intro position within
      apply List.mem_iff_getElem?.mpr
      exact ⟨position, by rw [identities_getElem?, List.getElem?_eq_getElem within]; rfl⟩
    have same := oneKey _ (keyAt 0 (by omega)) _ (keyAt 2 (by omega)) rfl
    have sameEntry : ((decodedIdentities codecs raw).map Prod.fst)[0]? =
        ((decodedIdentities codecs raw).map Prod.fst)[2]? := by
      rw [List.getElem?_map, List.getElem?_map, List.getElem?_eq_getElem (by omega),
        List.getElem?_eq_getElem (by omega)]
      exact congrArg some same
    have within : 0 < ((decodedIdentities codecs raw).map Prod.fst).length := by
      rw [List.length_map]
      omega
    cases (List.getElem?_inj within distinct).mp sameEntry
  · intro few first inFirst second inSecond sameRef
    obtain ⟨left, foundLeft⟩ := List.mem_iff_getElem?.mp inFirst
    obtain ⟨right, foundRight⟩ := List.mem_iff_getElem?.mp inSecond
    rw [identities_getElem?, Option.map_eq_some_iff] at foundLeft foundRight
    obtain ⟨leftEntry, isLeft, rfl⟩ := foundLeft
    obtain ⟨rightEntry, isRight, rfl⟩ := foundRight
    obtain ⟨leftBound, _⟩ := List.getElem?_eq_some_iff.mp isLeft
    obtain ⟨rightBound, _⟩ := List.getElem?_eq_some_iff.mp isRight
    have samePosition : left = right := by
      have leftCases : left = 0 ∨ left = 1 := by omega
      have rightCases : right = 0 ∨ right = 1 := by omega
      rcases leftCases with rfl | rfl <;> rcases rightCases with rfl | rfl <;>
        simp [Identity.ofKey, keyrefAt] at sameRef ⊢
    subst samePosition
    rw [isLeft, Option.some.injEq] at isRight
    rw [isRight]

/-- LEARN and READKEY are coherent for distinct keys exactly if there are at
most two of them. -/
theorem learnCoherent_iff (distinct : ((decodedIdentities codecs raw).map Prod.fst).Nodup)
    (injective : ∀ first ∈ decodedIdentities codecs raw, ∀ second ∈ decodedIdentities codecs raw,
      computeKeygrip codecs first.1.toList = computeKeygrip codecs second.1.toList →
        first.1 = second.1) :
    LearnCoherent (.start codecs raw client pid) ↔ (decodedIdentities codecs raw).length ≤ 2 := by
  rw [learnCoherent_iff_keyrefs (keygripsDistinguish_start injective)]
  exact keyrefs_start distinct

end Start

namespace Sample

def unsupported : RawIdentity := ⟨"rsa", "", "old"⟩

def twoKeys : List RawIdentity := [unsupported, rawKey 1, rawKey 2]

def threeKeys : List RawIdentity := [rawKey 1, unsupported, rawKey 2, rawKey 3]

theorem decodeKey_unsupported : decodeKey shortCodecs unsupported = none := if_pos (by decide)

theorem decoded_twoKeys : decodedIdentities shortCodecs twoKeys = [(keyOf 1, 1), (keyOf 2, 2)] := by
  simp [decodedIdentities, twoKeys, decodeKey_rawKey, decodeKey_unsupported]

theorem decoded_threeKeys :
    decodedIdentities shortCodecs threeKeys = [(keyOf 1, 0), (keyOf 2, 2), (keyOf 3, 3)] := by
  simp [decodedIdentities, threeKeys, decodeKey_rawKey, decodeKey_unsupported]

theorem keygrip_one : computeKeygrip shortCodecs (keyOf 1).toList =
    "844521BA22195316BD580BF4800F4A05A6C9D95C" := by
  decide +kernel

theorem keygrip_two : computeKeygrip shortCodecs (keyOf 2).toList =
    "17BB7EAE7FA66F67B1F55126A6D3BC677B426AFA" := by
  decide +kernel

theorem keygrip_three : computeKeygrip shortCodecs (keyOf 3).toList =
    "A0AC9530B5AE1185E7612F7A2B749231D056813E" := by
  decide +kernel

theorem threeKeys_distinct : ((decodedIdentities shortCodecs threeKeys).map Prod.fst).Nodup := by
  rw [decoded_threeKeys]
  decide +kernel

theorem threeKeys_injective : ∀ first ∈ decodedIdentities shortCodecs threeKeys,
    ∀ second ∈ decodedIdentities shortCodecs threeKeys,
      computeKeygrip shortCodecs first.1.toList = computeKeygrip shortCodecs second.1.toList →
        first.1 = second.1 := by
  rw [decoded_threeKeys]
  simp [keygrip_one, keygrip_two, keygrip_three]

end Sample

open Sample in
theorem twoKeys_coherent :
    LearnCoherent (.start shortCodecs twoKeys .connect 42) ↔
      (decodedIdentities shortCodecs twoKeys).length ≤ 2 :=
  learnCoherent_iff (by rw [decoded_twoKeys]; decide +kernel)
    (by rw [decoded_twoKeys]; simp [keygrip_one, keygrip_two])

open Sample in
/-- The third key is reported under the keyref of the first. -/
theorem threeKeys_incoherent : ¬ LearnCoherent (.start shortCodecs threeKeys .connect 42) := by
  rw [learnCoherent_iff_keyrefs (keygripsDistinguish_start threeKeys_injective)]
  intro oneKey
  have few := (keyrefs_start threeKeys_distinct).mp oneKey
  rw [decoded_threeKeys] at few
  exact absurd few (by decide)

end KeyMaster.ScdShim
