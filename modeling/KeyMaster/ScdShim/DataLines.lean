import KeyMaster.Data.SExpression
import KeyMaster.ScdShim.KeyLookup

namespace KeyMaster.ScdShim

open Data

/-! What data lines carry. -/

/-- The line holds the encoding of some data and nothing that ends it early. -/
structure CarriedBy (encoding data : List UInt8) : Prop where
  noReturn : 0x0D ∉ encoding
  noFeed : lineFeed ∉ encoding
  escaped : Percent.Escaped encoding
  decoded : Percent.decode encoding = some data

/-- The longest line of the Assuan protocol. -/
def maxAssuanLine : Nat := 1000

/-! ### Escapes -/

theorem carriedBy_escape (data : List UInt8) : CarriedBy (data.flatMap escapeByte) data where
  noReturn := by
    rw [List.mem_flatMap]
    rintro ⟨byte, _, member⟩
    exact (unbroken_escapeByte byte).1 member
  noFeed := by
    rw [List.mem_flatMap]
    rintro ⟨byte, _, member⟩
    exact (unbroken_escapeByte byte).2 member
  escaped := Percent.escaped_of_decode (decode_escape data)
  decoded := decode_escape data

/-! ### Lengths -/

theorem length_escapeByte_le (byte : UInt8) : (escapeByte byte).length ≤ 3 := by
  rcases escapeByte_cases byte with ⟨_, same⟩ | ⟨_, same⟩ | ⟨_, same⟩ | ⟨_, _, _, same⟩
  · rw [same, List.length_cons, List.length_cons, List.length_singleton]
  · rw [same, List.length_cons, List.length_cons, List.length_singleton]
  · rw [same, List.length_cons, List.length_cons, List.length_singleton]
  · rw [same, List.length_singleton]
    decide

theorem length_sendData_le (data : List UInt8) : (sendData data).length ≤ 3 * data.length + 3 := by
  have escaped : (data.flatMap escapeByte).length ≤ 3 * data.length := by
    induction data with
    | nil => exact Nat.le_refl _
    | cons byte rest ih =>
        have first := length_escapeByte_le byte
        rw [List.flatMap_cons, List.length_append, List.length_cons]
        omega
  have start : (textBytes "D ").length = 2 := by decide
  rw [sendData, List.length_append, List.length_append, start, List.length_singleton]
  omega

theorem length_publicKeySexp (key : List UInt8) : (publicKeySexp key).length = key.length + 65 := by
  have start : (textBytes "(10:public-key(3:ecc(5:curve7:Ed25519)(5:flags5:eddsa)(1:q33:").length = 61 := by
    decide
  have last : (textBytes ")))").length = 3 := by decide
  rw [publicKeySexp, List.length_append, List.length_append, List.length_cons, start, last]
  omega

/-! ### The public key -/

def atomText (text : String) : SExpression := .atom (textBytes text)

/-- The S-expression of a public key, in which the atom of `q` is the key behind
its prefix. -/
def publicKeyTree (publicKey : List UInt8) : SExpression :=
  .list [atomText "public-key", .list [atomText "ecc", .list [atomText "curve", atomText "Ed25519"],
    .list [atomText "flags", atomText "eddsa"], .list [atomText "q", .atom (0x40 :: publicKey)]]]

theorem encode_publicKeyTree {key : List UInt8} (length : key.length = 32) :
    (publicKeyTree key).encode = publicKeySexp key := by
  have atom : SExpression.encodeAtom (0x40 :: key) = textBytes "33:" ++ 0x40 :: key := by
    rw [SExpression.encodeAtom, List.length_cons, length]
    rfl
  -- with the appends to the right, the bytes around the key are compared as they are
  simp only [publicKeyTree, atomText, SExpression.encode, SExpression.encodeAll, atom, publicKeySexp,
    List.append_nil, List.append_assoc, List.cons_append, List.nil_append]
  rfl

/-! ### Answers -/

/-- What a data line carries is read back from it. The lines of READKEY and PKSIGN
are short enough, and READKEY sends one whole S-expression. -/
theorem dataLines_lossless (codecs : Codecs) :
    (∀ data : List UInt8, ∃ encoding,
      sendData data = textBytes "D " ++ encoding ++ [lineFeed] ∧ CarriedBy encoding data) ∧
    (∀ key : List UInt8, key.length = 32 →
      (sendData (publicKeySexp key)).length ≤ maxAssuanLine ∧
      publicKeySexp key = (publicKeyTree key).encode ∧
      SExpression.parse (publicKeySexp key) = some (publicKeyTree key)) ∧
    (∀ (state : ScdState codecs) (args : List Char) (id : Identity codecs),
      namedIdentity state args = some id →
        handleReadkey state args = sendData (publicKeySexp id.publicKey.toList) ++ sendOk "") ∧
    (∀ sig : List UInt8, sig.length = 64 → (sendData sig).length ≤ maxAssuanLine) ∧
    ∀ (state : ScdState codecs) (args : List Char) (io : RequestIo) (id : Identity codecs)
      (data sig : List UInt8), pksignRequest state args = .ok (id, data) →
      (state.client.sign codecs id.index id.publicKey.toList data io).1 = .ok sig → sig.length = 64 →
        (handlePksign state args io).2 = sendData sig ++ sendOk "" := by
  refine ⟨?_, ?_, ?_, ?_, ?_⟩
  · intro data
    exact ⟨data.flatMap escapeByte, rfl, carriedBy_escape data⟩
  · intro key length
    have encoded := encode_publicKeyTree length
    refine ⟨?_, encoded.symm, ?_⟩
    · have bound := length_sendData_le (publicKeySexp key)
      rw [length_publicKeySexp, length] at bound
      exact bound.trans (by decide)
    · rw [← encoded]
      exact SExpression.parse_encode _
  · intro state args id named
    rw [handleReadkey_eq, named]
    rfl
  · intro sig length
    have bound := length_sendData_le sig
    rw [length] at bound
    exact bound.trans (by decide)
  · intro state args io id data sig requested signed length
    rw [handlePksign_signed requested signed length]

/-- A key and a signature of which each byte is escaped. -/
theorem percent_lossless :
    (sendData (publicKeySexp (List.replicate 32 0x25))).length ≤ maxAssuanLine ∧
      SExpression.parse (publicKeySexp (List.replicate 32 0x25)) =
        some (publicKeyTree (List.replicate 32 0x25)) ∧
      (sendData (List.replicate 64 lineFeed)).length ≤ maxAssuanLine ∧
      ∃ encoding, sendData (List.replicate 64 lineFeed) = textBytes "D " ++ encoding ++ [lineFeed] ∧
        CarriedBy encoding (List.replicate 64 lineFeed) := by
  obtain ⟨carried, key, _, signature, _⟩ := dataLines_lossless (Transparent.simpleCodecs [])
  obtain ⟨short, _, parsed⟩ := key (List.replicate 32 0x25) (by decide)
  exact ⟨short, parsed, signature _ (by decide), carried _⟩

end KeyMaster.ScdShim
