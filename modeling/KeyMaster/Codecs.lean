import KeyMaster.Json
import Mathlib.Tactic.IntervalCases

namespace KeyMaster

/-- What an error of `std::io` or of a codec crate prints: a text without a
line break. -/
structure OneLine where
  text : String
  oneLine : '\n' ∉ text.toList

/-- The third-party codecs, shared by the service avatars and their clients. -/
structure Codecs where
  /-- The tree of a JSON text, or the message of `serde_json`'s error. -/
  parseJson : String → Except OneLine Value
  /-- The `STANDARD` engine of `base64`. -/
  base64Encode : List UInt8 → String
  base64Decode : String → Except OneLine (List UInt8)
  sha1 : List UInt8 → Vector UInt8 20

def Codecs.Lossless (codecs : Codecs) : Prop :=
  ∀ bytes, codecs.base64Decode (codecs.base64Encode bytes) = .ok bytes

/-! ### A computable instance -/

namespace Transparent

def sextetChar (sextet : Nat) : Char :=
  "ABCDEFGHIJKLMNOPQRSTUVWXYZabcdefghijklmnopqrstuvwxyz0123456789+/".toList.getD sextet '='

def charSextet (char : Char) : Option Nat :=
  ((List.range 64).find? fun sextet => sextetChar sextet == char)

def toBase64 : List UInt8 → List Char
  | [] => []
  | [a] => [sextetChar (a.toNat / 4), sextetChar (a.toNat % 4 * 16), '=', '=']
  | [a, b] =>
      [sextetChar (a.toNat / 4), sextetChar (a.toNat % 4 * 16 + b.toNat / 16),
        sextetChar (b.toNat % 16 * 4), '=']
  | a :: b :: c :: rest =>
      sextetChar (a.toNat / 4) :: sextetChar (a.toNat % 4 * 16 + b.toNat / 16) ::
        sextetChar (b.toNat % 16 * 4 + c.toNat / 64) :: sextetChar (c.toNat % 64) :: toBase64 rest

/-- Canonical padding is required, and the bits it leaves over are zero. -/
def ofBase64 : List Char → Option (List UInt8)
  | [] => some []
  | a :: b :: c :: d :: rest => do
      let first ← charSextet a
      let second ← charSextet b
      if c = '=' then
        if d = '=' ∧ rest = [] ∧ second % 16 = 0 then
          some [UInt8.ofNat (first * 4 + second / 16)]
        else none
      else
        let third ← charSextet c
        if d = '=' then
          if rest = [] ∧ third % 4 = 0 then
            some [UInt8.ofNat (first * 4 + second / 16),
              UInt8.ofNat (second % 16 * 16 + third / 4)]
          else none
        else
          let fourth ← charSextet d
          let later ← ofBase64 rest
          some (UInt8.ofNat (first * 4 + second / 16) ::
            UInt8.ofNat (second % 16 * 16 + third / 4) ::
            UInt8.ofNat (third % 4 * 64 + fourth) :: later)
  | _ => none

def failure (text : String) (oneLine : '\n' ∉ text.toList) {α : Type} : Except OneLine α :=
  .error ⟨text, oneLine⟩

def rotateLeft (word count : UInt32) : UInt32 := word <<< count ||| word >>> (32 - count)

structure Sha1State where
  a : UInt32
  b : UInt32
  c : UInt32
  d : UInt32
  e : UInt32

def sha1Round (round : Nat) (word : UInt32) : Sha1State → Sha1State
  | ⟨a, b, c, d, e⟩ =>
      let mixed : UInt32 :=
        if round < 20 then (b &&& c ||| ~~~b &&& d) + 0x5A827999
        else if round < 40 then (b ^^^ c ^^^ d) + 0x6ED9EBA1
        else if round < 60 then (b &&& c ||| b &&& d ||| c &&& d) + 0x8F1BBCDC
        else (b ^^^ c ^^^ d) + 0xCA62C1D6
      ⟨rotateLeft a 5 + mixed + e + word, a, rotateLeft b 30, c, d⟩

/-- The last rounds of a block, given the next sixteen words of its schedule. -/
def sha1Rounds : Nat → List UInt32 → Sha1State → Sha1State
  | 0, _, state => state
  | left + 1, words, state =>
      let next := rotateLeft (words.getD 13 0 ^^^ words.getD 8 0 ^^^ words.getD 2 0 ^^^ words.getD 0 0) 1
      sha1Rounds left (words.tail ++ [next]) (sha1Round (79 - left) (words.getD 0 0) state)

def wordsOfBytes : List UInt8 → List UInt32
  | a :: b :: c :: d :: rest =>
      (a.toUInt32 <<< 24 ||| b.toUInt32 <<< 16 ||| c.toUInt32 <<< 8 ||| d.toUInt32) ::
        wordsOfBytes rest
  | _ => []

def sha1Blocks : Nat → List UInt32 → Sha1State → Sha1State
  | 0, _, state => state
  | blocks + 1, words, state =>
      let mixed := sha1Rounds 80 (words.take 16) state
      sha1Blocks blocks (words.drop 16)
        ⟨state.a + mixed.a, state.b + mixed.b, state.c + mixed.c, state.d + mixed.d,
          state.e + mixed.e⟩

def bytesOfWord (word : UInt32) : List UInt8 :=
  [(word >>> 24).toUInt8, (word >>> 16).toUInt8, (word >>> 8).toUInt8, word.toUInt8]

def sha1 (bytes : List UInt8) : Vector UInt8 20 :=
  let zeros := (119 - bytes.length % 64) % 64
  let bits := UInt64.ofNat (8 * bytes.length)
  let padded := wordsOfBytes (bytes ++ 0x80 :: List.replicate zeros 0) ++
    [(bits >>> 32).toUInt32, bits.toUInt32]
  let ⟨a, b, c, d, e⟩ :=
    sha1Blocks (padded.length / 16) padded
      ⟨0x67452301, 0xEFCDAB89, 0x98BADCFE, 0x10325476, 0xC3D2E1F0⟩
  ⟨([a, b, c, d, e].flatMap bytesOfWord).toArray, by simp [bytesOfWord]⟩

example : (sha1 [0x61, 0x62, 0x63]).toList =
    [0xA9, 0x99, 0x3E, 0x36, 0x47, 0x06, 0x81, 0x6A, 0xBA, 0x3E, 0x25, 0x71, 0x78, 0x50, 0xC2, 0x6C,
      0x9C, 0xD0, 0xD8, 0x9D] := by decide +kernel

def simpleCodecs (texts : List (String × Value)) : Codecs where
  parseJson text := (texts.lookup text).elim (failure "expected value" (by decide)) .ok
  base64Encode bytes := String.ofList (toBase64 bytes)
  base64Decode text := (ofBase64 text.toList).elim (failure "Invalid input" (by decide)) .ok
  sha1 := sha1

theorem charSextet_sextetChar {sextet : Nat} (bound : sextet < 64) :
    charSextet (sextetChar sextet) = some sextet := by
  interval_cases sextet <;> decide

theorem sextetChar_ne_pad {sextet : Nat} (bound : sextet < 64) : sextetChar sextet ≠ '=' := by
  interval_cases sextet <;> decide

theorem ofNat_of_toNat (byte : UInt8) {value : Nat} (same : value = byte.toNat) :
    UInt8.ofNat value = byte := by
  rw [same, UInt8.ofNat_toNat]

section Base64

variable {first second third fourth : Nat} {rest : List Char} {later : List UInt8}

theorem ofBase64_one (isFirst : first < 64) (isSecond : second < 64) (unused : second % 16 = 0) :
    ofBase64 [sextetChar first, sextetChar second, '=', '='] =
      some [UInt8.ofNat (first * 4 + second / 16)] := by
  simp only [ofBase64, charSextet_sextetChar isFirst, charSextet_sextetChar isSecond,
    Option.bind_eq_bind, Option.bind_some, if_true, true_and, unused]

theorem ofBase64_two (isFirst : first < 64) (isSecond : second < 64) (isThird : third < 64)
    (unused : third % 4 = 0) :
    ofBase64 [sextetChar first, sextetChar second, sextetChar third, '='] =
      some [UInt8.ofNat (first * 4 + second / 16), UInt8.ofNat (second % 16 * 16 + third / 4)] := by
  simp only [ofBase64, charSextet_sextetChar isFirst, charSextet_sextetChar isSecond,
    charSextet_sextetChar isThird, Option.bind_eq_bind, Option.bind_some,
    if_neg (sextetChar_ne_pad isThird), if_true, true_and, unused]

theorem ofBase64_three (isFirst : first < 64) (isSecond : second < 64) (isThird : third < 64)
    (isFourth : fourth < 64) (decoded : ofBase64 rest = some later) :
    ofBase64 (sextetChar first :: sextetChar second :: sextetChar third :: sextetChar fourth :: rest) =
      some (UInt8.ofNat (first * 4 + second / 16) :: UInt8.ofNat (second % 16 * 16 + third / 4) ::
        UInt8.ofNat (third % 4 * 64 + fourth) :: later) := by
  simp only [ofBase64, charSextet_sextetChar isFirst, charSextet_sextetChar isSecond,
    charSextet_sextetChar isThird, charSextet_sextetChar isFourth, Option.bind_eq_bind,
    Option.bind_some, if_neg (sextetChar_ne_pad isThird), if_neg (sextetChar_ne_pad isFourth), decoded]

end Base64

theorem ofBase64_toBase64 (bytes : List UInt8) : ofBase64 (toBase64 bytes) = some bytes := by
  fun_induction toBase64 bytes with
  | case1 => rfl
  | case2 a =>
      have bound := a.toNat_lt
      rw [ofBase64_one (by omega) (by omega) (by omega), ofNat_of_toNat a (by omega)]
  | case3 a b =>
      have boundA := a.toNat_lt
      have boundB := b.toNat_lt
      rw [ofBase64_two (by omega) (by omega) (by omega) (by omega),
        ofNat_of_toNat a (by omega), ofNat_of_toNat b (by omega)]
  | case4 a b c rest ih =>
      have boundA := a.toNat_lt
      have boundB := b.toNat_lt
      have boundC := c.toNat_lt
      rw [ofBase64_three (by omega) (by omega) (by omega) (by omega) ih,
        ofNat_of_toNat a (by omega), ofNat_of_toNat b (by omega),
        ofNat_of_toNat c (by omega)]

theorem length_ofBase64_le {chars : List Char} {bytes : List UInt8}
    (decoded : ofBase64 chars = some bytes) :
    bytes.length ≤ chars.length := by
  fun_induction ofBase64 chars generalizing bytes with
  | case1 =>
      cases decoded
      exact Nat.le_refl _
  | case2 a b c d rest ih =>
      simp only [List.length_cons]
      obtain ⟨first, _, decoded⟩ := Option.bind_eq_some_iff.mp decoded
      obtain ⟨second, _, decoded⟩ := Option.bind_eq_some_iff.mp decoded
      split at decoded
      · split at decoded
        · cases decoded
          exact Nat.succ_le_succ (Nat.zero_le _)
        · cases decoded
      · obtain ⟨third, _, decoded⟩ := Option.bind_eq_some_iff.mp decoded
        split at decoded
        · split at decoded
          · cases decoded
            simp
          · cases decoded
        · obtain ⟨fourth, _, decoded⟩ := Option.bind_eq_some_iff.mp decoded
          obtain ⟨later, isLater, decoded⟩ := Option.bind_eq_some_iff.mp decoded
          cases decoded
          have := ih isLater
          simp only [List.length_cons]
          omega
  | case3 => cases decoded

theorem simpleCodecs_lossless (texts : List (String × Value)) : (simpleCodecs texts).Lossless := by
  intro bytes
  simp [simpleCodecs, ofBase64_toBase64]

end Transparent

end KeyMaster
