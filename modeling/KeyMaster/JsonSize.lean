import KeyMaster.Data.Utf8
import KeyMaster.JsonRpcWire

namespace KeyMaster

open Data

/-! The size of a value as JSON, against the sizes of what it holds. -/

def textSize (text : String) : Nat := (Utf8.encode text.toList).length

def Value.size (value : Value) : Nat := textSize value.toJson

/-! ### Texts -/

theorem textSize_eq (text : String) : textSize text = text.utf8ByteSize := by
  rw [textSize, ← String.size_toByteArray, ← String.ofList_toList (s := text), String.toByteArray_ofList,
    Utf8.utf8Encode_eq]
  simp

@[simp] theorem textSize_append (first second : String) :
    textSize (first ++ second) = textSize first + textSize second := by
  rw [textSize, String.toList_append, Utf8.encode_append, List.length_append, textSize, textSize]

theorem textSize_le_intercalate {text : String} {texts : List String} (member : text ∈ texts) :
    textSize text ≤ textSize (",".intercalate texts) := by
  induction texts with
  | nil => cases member
  | cons first rest ih =>
      cases rest with
      | nil =>
          rw [List.mem_singleton.mp member, String.intercalate_singleton]
      | cons second more =>
          rw [String.intercalate_cons_cons, textSize_append, textSize_append]
          rcases List.mem_cons.mp member with rfl | later
          · omega
          · have := ih later
            omega

theorem length_le_intercalate (texts : List String) :
    texts.length ≤ textSize (",".intercalate texts) + 1 := by
  have comma : textSize "," = 1 := by decide
  induction texts with
  | nil => exact Nat.zero_le _
  | cons first rest ih =>
      cases rest with
      | nil =>
          rw [List.length_singleton]
          omega
      | cons second more =>
          rw [String.intercalate_cons_cons, textSize_append, textSize_append, comma, List.length_cons]
          omega

theorem length_escapeChar (char : Char) :
    (String.utf8EncodeChar char).length ≤ (Utf8.encode (escapeChar char)).length := by
  by_cases ascii : char.toNat < 128
  · have one : char.utf8Size = 1 := by
      rw [Char.utf8Size_eq_one_iff]
      exact Nat.lt_succ_iff.mp ascii
    have nonempty : Utf8.encode (escapeChar char) ≠ [] := by
      rw [ne_eq, Utf8.encode_eq_nil]
      unfold escapeChar
      split_ifs <;> simp
    rw [String.length_utf8EncodeChar, one]
    exact List.length_pos_iff.mpr nonempty
  · have plain : escapeChar char = [char] := by
      unfold escapeChar
      rw [if_neg (by rintro rfl; exact ascii (by decide)), if_neg (by rintro rfl; exact ascii (by decide))]
      simp only [show char.toNat ≠ 0x08 by omega, show char.toNat ≠ 0x09 by omega,
        show char.toNat ≠ 0x0A by omega, show char.toNat ≠ 0x0C by omega, show char.toNat ≠ 0x0D by omega,
        show ¬ char.toNat < 0x20 by omega, if_false]
    rw [plain, Utf8.encode_cons, List.length_append]
    exact Nat.le_add_right _ _

theorem textSize_le_quote (text : String) : textSize text ≤ textSize (quote text) := by
  have escaped : ∀ chars : List Char,
      (Utf8.encode chars).length ≤ (Utf8.encode (chars.flatMap escapeChar)).length := by
    intro chars
    induction chars with
    | nil => exact Nat.le_refl _
    | cons char rest ih =>
        have first := length_escapeChar char
        rw [List.flatMap_cons, Utf8.encode_append, Utf8.encode_cons, List.length_append, List.length_append]
        omega
  have inner := escaped text.toList
  rw [textSize, textSize, JsonText.toList_quote, Utf8.encode_cons, Utf8.encode_append, List.length_append,
    List.length_append]
  omega

/-! ### Values -/

namespace Value

variable {value item : Value} {items : List Value} {members : List (String × Value)} {key text : String}

theorem size_item_le (member : item ∈ items) : item.size ≤ (Value.array items).size := by
  have within := textSize_le_intercalate (List.mem_map_of_mem (f := Value.toJson) member)
  rw [size, size, Value.toJson, itemsToJson_eq, textSize_append, textSize_append]
  omega

theorem length_le_size (items : List Value) : items.length ≤ (Value.array items).size := by
  have within := length_le_intercalate (items.map Value.toJson)
  have bracket : textSize "[" = 1 := by decide
  rw [List.length_map] at within
  rw [size, Value.toJson, itemsToJson_eq, textSize_append, textSize_append, bracket]
  omega

theorem size_member_le (member : (key, item) ∈ members) : item.size ≤ (Value.object members).size := by
  have printed : quote key ++ ":" ++ item.toJson ∈ membersToJson members := by
    rw [membersToJson_eq, mapValues, List.map_map]
    exact List.mem_map.mpr ⟨(key, item), member, rfl⟩
  have within := textSize_le_intercalate printed
  simp only [textSize_append] at within
  rw [size, size, Value.toJson, textSize_append, textSize_append]
  omega

theorem size_le_of_get (found : value.get key = some item) : item.size ≤ value.size := by
  cases value with
  | object members =>
      obtain ⟨before, after, split, _⟩ := List.lookup_eq_some_iff.mp found
      exact size_member_le (by rw [split]; exact List.mem_append_right _ List.mem_cons_self)
  | null | bool | number | string | array => cases found

theorem size_le_of_asArray (isArray : value.asArray = some items) (member : item ∈ items) :
    item.size ≤ value.size := by
  cases value with
  | array found =>
      cases isArray
      exact size_item_le member
  | null | bool | number | string | object => cases isArray

theorem length_le_of_asArray (isArray : value.asArray = some items) : items.length ≤ value.size := by
  cases value with
  | array found =>
      cases isArray
      exact length_le_size items
  | null | bool | number | string | object => cases isArray

theorem textSize_le_of_asStr (isString : value.asStr = some text) : textSize text ≤ value.size := by
  cases value with
  | string found =>
      cases isString
      rw [size, Value.toJson]
      exact textSize_le_quote text
  | null | bool | number | array | object => cases isString

theorem textSize_le_of_member (found : (value.get key).bind Value.asStr = some text) :
    textSize text ≤ value.size := by
  obtain ⟨item, isItem, isText⟩ := Option.bind_eq_some_iff.mp found
  exact (textSize_le_of_asStr isText).trans (size_le_of_get isItem)

end Value

/-- A result is not larger than the line of its response. -/
theorem size_result_le {response : JsonRpcResponse} {result : Value}
    (holds : response.result = some result) :
    result.size ≤ (writeLineMessage response.serialize).utf8ByteSize := by
  have member : ("result", result) ∈ [("jsonrpc", Value.string response.jsonrpc)] ++
      memberOf "result" response.result ++ memberOf "error" (response.error.map JsonRpcError.serialize) ++
      [("id", response.id)] := by
    rw [holds]
    simp [memberOf]
  have within := Value.size_member_le member
  rw [← textSize_eq, writeLineMessage, textSize_append]
  exact Nat.le_trans within (Nat.le_add_right _ _)

end KeyMaster
