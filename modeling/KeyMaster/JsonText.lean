import KeyMaster.Hex
import KeyMaster.JsonTree

namespace KeyMaster.JsonText

/-! Reading a printed value back.  The reader is for the compact texts that
`toJson` prints, which have no white space between tokens. -/

/-! ### Strings -/

def unescape (char : Char) : Option Char :=
  if char = '"' then some '"'
  else if char = '\\' then some '\\'
  else if char = 'b' then some (Char.ofNat 0x08)
  else if char = 't' then some (Char.ofNat 0x09)
  else if char = 'n' then some (Char.ofNat 0x0A)
  else if char = 'f' then some (Char.ofNat 0x0C)
  else if char = 'r' then some (Char.ofNat 0x0D)
  else none

def hexChar (digits : List Char) : Option Char :=
  (digits.mapM hexValue).map fun values =>
    Char.ofNat (values.foldl (fun value digit => value * 16 + digit) 0)

/-- A string from behind its opening quote, and what follows its closing one. -/
def readString : List Char → Option (List Char × List Char)
  | [] => none
  | char :: rest =>
      if char = '"' then some ([], rest)
      else if char = '\\' then
        match rest with
        | 'u' :: a :: b :: c :: d :: after => do
            let char ← hexChar [a, b, c, d]
            let (text, after) ← readString after
            some (char :: text, after)
        | escape :: after => do
            let char ← unescape escape
            let (text, after) ← readString after
            some (char :: text, after)
        | [] => none
      else do
        let (text, after) ← readString rest
        some (char :: text, after)

theorem readString_escapeChar {char : Char} {text rest after : List Char}
    (read : readString rest = some (text, after)) :
    readString (escapeChar char ++ rest) = some (char :: text, after) := by
  have named : ∀ {code : Nat}, char.toNat = code → char = Char.ofNat code := by
    intro code isCode
    rw [← isCode, Char.ofNat_toNat]
  unfold escapeChar
  split
  · rename_i quote
    subst char
    simp [readString, unescape, read]
  split
  · rename_i backslash
    subst char
    simp [readString, unescape, read]
  split
  · rename_i isCode
    simp [readString, unescape, read, named isCode]
  split
  · rename_i isCode
    simp [readString, unescape, read, named isCode]
  split
  · rename_i isCode
    simp [readString, unescape, read, named isCode]
  split
  · rename_i isCode
    simp [readString, unescape, read, named isCode]
  split
  · rename_i isCode
    simp [readString, unescape, read, named isCode]
  split
  · rename_i control
    have digits : hexChar ['0', '0', hexDigit (char.toNat / 16), hexDigit (char.toNat % 16)] =
        some char := by
      have high := hexValue_hexDigit (char.toNat / 16) (by omega)
      have low := hexValue_hexDigit (char.toNat % 16) (by omega)
      have zero : hexValue '0' = some 0 := by decide
      have whole : char.toNat / 16 * 16 + char.toNat % 16 = char.toNat := by omega
      simp [hexChar, high, low, zero, whole]
    simp [readString, digits, read]
  · rename_i notQuote notBackslash _ _ _ _ _ _
    rw [List.singleton_append]
    unfold readString
    simp [notQuote, notBackslash, read]

theorem readString_escaped (text rest : List Char) :
    readString (text.flatMap escapeChar ++ '"' :: rest) = some (text, rest) := by
  induction text with
  | nil =>
      rw [List.flatMap_nil, List.nil_append]
      unfold readString
      rfl
  | cons char text ih => rw [List.flatMap_cons, List.append_assoc, readString_escapeChar ih]

theorem toList_quote (text : String) :
    (quote text).toList = '"' :: (text.toList.flatMap escapeChar ++ ['"']) := by
  simp [quote]

/-! ### Scalars -/

def isDelimiter (char : Char) : Bool := char == ',' || char == ']' || char == '\x7d'

def readDigits (digits : List Char) : Option Nat :=
  if digits.all Char.isDigit then some (Nat.ofDigitChars 10 digits 0) else none

def readNumber (token : List Char) : Option Number :=
  if token.any isFloatMark then
    if token.all isNumberChar then some (.float (String.ofList token)) else none
  else if token.head? = some '-' then
    (readDigits token.tail).map fun value : Nat => .negInt (Int64.ofInt (-(value : Int)))
  else (readDigits token).map fun value => .posInt (UInt64.ofNat value)

def readScalar (token : List Char) : Option Value :=
  if token = "null".toList then some .null
  else if token = "true".toList then some (.bool true)
  else if token = "false".toList then some (.bool false)
  else (readNumber token).map .number

theorem readDigits_toDigits (value : Nat) : readDigits (Nat.toDigits 10 value) = some value := by
  have digits : (Nat.toDigits 10 value).all Char.isDigit = true := by
    rw [List.all_eq_true]
    exact fun char member => Nat.isDigit_of_mem_toDigits (by decide) (by decide) member
  rw [readDigits, if_pos digits, Nat.ofDigitChars_ten_toDigits]

theorem isNumberChar_of_isDigit {char : Char} (digit : char.isDigit = true) :
    isNumberChar char = true := by
  simp [isNumberChar, digit]

theorem not_isFloatMark_of_isDigit {char : Char} (digit : char.isDigit = true) :
    isFloatMark char = false := by
  rw [isFloatMark, Bool.or_eq_false_iff, beq_eq_false_iff_ne, beq_eq_false_iff_ne]
  constructor <;> rintro rfl <;> exact absurd digit (by decide)

theorem any_isFloatMark_toDigits (value : Nat) : (Nat.toDigits 10 value).any isFloatMark = false := by
  rw [List.any_eq_false]
  intro char member
  simp [not_isFloatMark_of_isDigit (Nat.isDigit_of_mem_toDigits (by decide) (by decide) member)]

theorem toDigits_head? (value : Nat) : (Nat.toDigits 10 value).head? ≠ some '-' := by
  intro minus
  have member := List.mem_of_mem_head? (Option.mem_def.mpr minus)
  exact absurd (Nat.isDigit_of_mem_toDigits (by decide) (by decide) member) (by decide)

/-- The digits of a number below zero, behind its sign. -/
theorem toList_toJson_negInt {value : Int64} (negative : value.toInt < 0) :
    (Number.negInt value).toJson.toList = '-' :: Nat.toDigits 10 value.toInt.natAbs := by
  have magnitude : (-value.toInt).toNat = value.toInt.natAbs := by omega
  rw [Number.toJson, Int.toString_eq_repr, Int.repr_eq_if, if_neg (by omega), magnitude,
    String.toList_append, Nat.toList_repr]
  rfl

theorem readNumber_toJson {number : Number} (valid : number.Valid) :
    readNumber number.toJson.toList = some number := by
  cases number with
  | posInt value =>
      rw [Number.toJson, Nat.toString_eq_repr, Nat.toList_repr, readNumber,
        if_neg (by simp [any_isFloatMark_toDigits]), if_neg (toDigits_head? _), readDigits_toDigits,
        Option.map_some, UInt64.ofNat_toNat]
  | negInt value =>
      have mark : isFloatMark '-' = false := by decide
      have back : -((value.toInt.natAbs : Nat) : Int) = value.toInt := by
        have negative : value.toInt < 0 := valid
        omega
      rw [toList_toJson_negInt valid, readNumber, if_neg (by simp [mark, any_isFloatMark_toDigits]),
        if_pos List.head?_cons, List.tail_cons, readDigits_toDigits, Option.map_some, back,
        Int64.ofInt_toInt]
  | float token =>
      obtain ⟨chars, mark⟩ := valid
      rw [Number.toJson, readNumber, if_pos (List.any_eq_true.mpr mark),
        if_pos (List.all_eq_true.mpr chars), String.ofList_toList]

/-- No part of a scalar ends it or begins another kind of value. -/
def isScalarChar (char : Char) : Bool :=
  !isDelimiter char && char != '"' && char != '[' && char != '\x7b'

theorem isScalarChar_of_isNumberChar {char : Char} (part : isNumberChar char = true) :
    isScalarChar char = true := by
  by_contra other
  simp only [isScalarChar, isDelimiter, Bool.and_eq_true, Bool.not_eq_true', Bool.or_eq_false_iff,
    beq_eq_false_iff_ne, bne_iff_ne, not_and_or, not_not] at other
  rcases other with ((((rfl | rfl) | rfl) | rfl) | rfl) | rfl <;> exact absurd part (by decide)

theorem isNumberChar_toJson {number : Number} (valid : number.Valid) :
    ∀ char ∈ number.toJson.toList, isNumberChar char = true := by
  have digits : ∀ value : Nat, ∀ char ∈ Nat.toDigits 10 value, isNumberChar char = true :=
    fun value char member =>
      isNumberChar_of_isDigit (Nat.isDigit_of_mem_toDigits (by decide) (by decide) member)
  cases number with
  | posInt value =>
      rw [Number.toJson, Nat.toString_eq_repr, Nat.toList_repr]
      exact digits _
  | negInt value =>
      rw [toList_toJson_negInt valid, List.forall_mem_cons]
      exact ⟨by decide, digits _⟩
  | float token => exact valid.1

theorem toJson_ne_nil {number : Number} (valid : number.Valid) : number.toJson.toList ≠ [] := by
  cases number with
  | posInt value =>
      rw [Number.toJson, Nat.toString_eq_repr, Nat.toList_repr]
      exact Nat.toDigits_ne_nil
  | negInt value => simp [toList_toJson_negInt valid]
  | float token =>
      obtain ⟨char, member, _⟩ := valid.2
      exact List.ne_nil_of_mem member

theorem readScalar_number {number : Number} (valid : number.Valid) :
    readScalar number.toJson.toList = some (.number number) := by
  have word : ∀ {text : List Char}, text.all isNumberChar = false → number.toJson.toList ≠ text := by
    intro text letter same
    rw [← same, List.all_eq_true.mpr (isNumberChar_toJson valid)] at letter
    cases letter
  rw [readScalar, if_neg (word (by decide)), if_neg (word (by decide)), if_neg (word (by decide)),
    readNumber_toJson valid, Option.map_some]

/-! ### Values -/

mutual

def readValue : Nat → List Char → Option (Value × List Char)
  | 0, _ | _, [] => none
  | fuel + 1, char :: rest =>
      if char = '"' then do
        let (text, after) ← readString rest
        some (.string (String.ofList text), after)
      else if char = '[' then
        if rest.head? = some ']' then some (.array [], rest.tail)
        else do
          let (items, after) ← readItems fuel rest
          some (.array items, after)
      else if char = '\x7b' then
        if rest.head? = some '\x7d' then some (.object [], rest.tail)
        else do
          let (members, after) ← readMembers fuel rest
          some (.object members, after)
      else do
        let value ← readScalar ((char :: rest).takeWhile fun char => !isDelimiter char)
        some (value, (char :: rest).dropWhile fun char => !isDelimiter char)

def readItems : Nat → List Char → Option (List Value × List Char)
  | 0, _ => none
  | fuel + 1, chars => do
      let (item, after) ← readValue fuel chars
      if after.head? = some ',' then
        let (items, after) ← readItems fuel after.tail
        some (item :: items, after)
      else if after.head? = some ']' then some ([item], after.tail)
      else none

def readMembers : Nat → List Char → Option (List (String × Value) × List Char)
  | 0, _ => none
  | fuel + 1, chars => do
      if chars.head? ≠ some '"' then none
      let (key, after) ← readString chars.tail
      if after.head? ≠ some ':' then none
      let (value, after) ← readValue fuel after.tail
      if after.head? = some ',' then
        let (members, after) ← readMembers fuel after.tail
        some ((String.ofList key, value) :: members, after)
      else if after.head? = some '\x7d' then some ([(String.ofList key, value)], after.tail)
      else none

end

/-- The tree of a printed text. -/
def readJson (text : String) : Option Value :=
  match readValue (text.length + 1) text.toList with
  | some (value, []) => some value
  | _ => none

/-- A value ends here: at the end of the text or at a delimiter. -/
def Ends (rest : List Char) : Prop := ∀ char ∈ rest.head?, isDelimiter char = true

theorem readValue_scalar {token rest : List Char} {value : Value} {fuel : Nat}
    (nonempty : token ≠ []) (chars : ∀ char ∈ token, isScalarChar char = true) (ends : Ends rest)
    (read : readScalar token = some value) :
    readValue (fuel + 1) (token ++ rest) = some (value, rest) := by
  have inside : ∀ char ∈ token, (!isDelimiter char) = true := by
    intro char member
    have scalar := chars char member
    simp only [isScalarChar, Bool.and_eq_true] at scalar
    exact scalar.1.1.1
  have taken : (token ++ rest).takeWhile (fun char => !isDelimiter char) = token := by
    rw [List.takeWhile_append_of_pos inside]
    cases rest with
    | nil => simp
    | cons char rest => simp [ends char rfl]
  have dropped : (token ++ rest).dropWhile (fun char => !isDelimiter char) = rest := by
    rw [List.dropWhile_append_of_pos inside]
    cases rest with
    | nil => rfl
    | cons char rest => simp [ends char rfl]
  cases token with
  | nil => exact absurd rfl nonempty
  | cons char more =>
      have scalar := chars char List.mem_cons_self
      simp only [isScalarChar, Bool.and_eq_true, bne_iff_ne] at scalar
      obtain ⟨⟨⟨_, notQuote⟩, notArray⟩, notObject⟩ := scalar
      rw [List.cons_append] at taken dropped ⊢
      rw [readValue, if_neg notQuote, if_neg notArray, if_neg notObject, taken, dropped, read]
      rfl

/-- A printed value does not begin like the end of an array. -/
theorem toJson_eq_cons {value : Value} (tree : value.Tree) :
    ∃ first more, value.toJson.toList = first :: more ∧ first ≠ ']' := by
  cases value with
  | null => exact ⟨'n', "ull".toList, rfl, by decide⟩
  | bool value => cases value <;> exact ⟨_, _, rfl, by decide⟩
  | number number =>
      obtain ⟨first, more, printed⟩ := List.exists_cons_of_ne_nil (toJson_ne_nil tree)
      refine ⟨first, more, printed, ?_⟩
      rintro rfl
      exact absurd (isNumberChar_toJson tree ']' (by rw [printed]; exact List.mem_cons_self)) (by decide)
  | string text => exact ⟨'"', _, toList_quote text, by decide⟩
  | array items =>
      rw [Value.toJson, String.append_assoc, String.toList_append]
      exact ⟨'[', _, rfl, by decide⟩
  | object members =>
      exact ⟨'\x7b', _, by rw [Value.toJson, String.append_assoc, String.toList_append]; rfl, by decide⟩

theorem ends_cons {char : Char} (delimiter : isDelimiter char = true) (rest : List Char) :
    Ends (char :: rest) := by
  intro other isHead
  rwa [← Option.some.inj isHead]

/-! ### Reading back what is printed -/

/-- Whatever comes behind the printed value, it is read back. -/
def Reads (value : Value) : Prop :=
  ∀ fuel rest, value.toJson.toList.length < fuel → Ends rest →
    readValue fuel (value.toJson.toList ++ rest) = some (value, rest)

def ReadsItems (items : List Value) : Prop :=
  ∀ fuel rest, (",".intercalate (itemsToJson items)).toList.length + 1 < fuel →
    readItems fuel ((",".intercalate (itemsToJson items)).toList ++ ']' :: rest) = some (items, rest)

def ReadsMembers (members : List (String × Value)) : Prop :=
  ∀ fuel rest, (",".intercalate (membersToJson members)).toList.length + 1 < fuel →
    readMembers fuel ((",".intercalate (membersToJson members)).toList ++ '\x7d' :: rest) =
      some (members, rest)

theorem reads_scalar {value : Value} (nonempty : value.toJson.toList ≠ [])
    (chars : value.toJson.toList.all isScalarChar = true)
    (read : readScalar value.toJson.toList = some value) : Reads value := by
  intro fuel rest enough ends
  obtain ⟨fuel, rfl⟩ := Nat.exists_eq_add_one_of_ne_zero (Nat.ne_zero_of_lt enough)
  exact readValue_scalar nonempty (List.all_eq_true.mp chars) ends read

theorem reads_string (text : String) : Reads (.string text) := by
  intro fuel rest enough _
  obtain ⟨fuel, rfl⟩ := Nat.exists_eq_add_one_of_ne_zero (Nat.ne_zero_of_lt enough)
  rw [Value.toJson, toList_quote, List.cons_append, readValue, if_pos rfl, List.append_assoc,
    List.singleton_append, readString_escaped]
  simp

theorem reads_emptyArray : Reads (.array []) := by
  intro fuel rest enough _
  obtain ⟨fuel, rfl⟩ := Nat.exists_eq_add_one_of_ne_zero (Nat.ne_zero_of_lt enough)
  simp [Value.toJson, itemsToJson, readValue]

theorem reads_emptyObject : Reads (.object []) := by
  intro fuel rest enough _
  obtain ⟨fuel, rfl⟩ := Nat.exists_eq_add_one_of_ne_zero (Nat.ne_zero_of_lt enough)
  simp [Value.toJson, membersToJson, readValue]

section Lists

variable {value item second : Value} {items : List Value} {key : String} {member : String × Value}
  {members : List (String × Value)}

theorem toJson_array :
    (Value.array (item :: items)).toJson.toList =
      '[' :: ((",".intercalate (itemsToJson (item :: items))).toList ++ [']']) := by
  simp [Value.toJson]

theorem toJson_object :
    (Value.object (member :: members)).toJson.toList =
      '\x7b' :: ((",".intercalate (membersToJson (member :: members))).toList ++ ['\x7d']) := by
  simp [Value.toJson]

theorem itemsToJson_cons :
    (",".intercalate (itemsToJson (item :: second :: items))).toList =
      item.toJson.toList ++ ',' :: (",".intercalate (itemsToJson (second :: items))).toList := by
  simp [itemsToJson]

theorem membersToJson_cons :
    (",".intercalate (membersToJson ((key, value) :: member :: members))).toList =
      (quote key).toList ++ ':' :: (value.toJson.toList ++
        ',' :: (",".intercalate (membersToJson (member :: members))).toList) := by
  simp [membersToJson]

theorem itemsToJson_head? (tree : item.Tree) (rest : List Char) :
    ((",".intercalate (itemsToJson (item :: items))).toList ++ rest).head? ≠ some ']' := by
  obtain ⟨first, more, printed, other⟩ := toJson_eq_cons tree
  cases items with
  | nil => simp [itemsToJson, printed, other]
  | cons second items => simp [itemsToJson_cons, printed, other, -String.toList_intercalate]

theorem reads_array (tree : item.Tree) (read : ReadsItems (item :: items)) :
    Reads (.array (item :: items)) := by
  intro fuel rest enough _
  obtain ⟨fuel, rfl⟩ := Nat.exists_eq_add_one_of_ne_zero (Nat.ne_zero_of_lt enough)
  rw [toJson_array] at enough ⊢
  simp only [List.length_cons, List.length_append, List.length_nil] at enough
  rw [List.cons_append, List.append_assoc, List.singleton_append, readValue, if_neg (by decide),
    if_pos rfl, if_neg (itemsToJson_head? tree _), read fuel rest (by omega)]
  rfl

theorem readsItems_single (read : Reads item) : ReadsItems [item] := by
  intro fuel rest enough
  obtain ⟨fuel, rfl⟩ := Nat.exists_eq_add_one_of_ne_zero (Nat.ne_zero_of_lt enough)
  have printed : (",".intercalate (itemsToJson [item])).toList = item.toJson.toList := by
    simp [itemsToJson]
  rw [printed] at enough ⊢
  rw [readItems, read fuel (']' :: rest) (by omega) (ends_cons rfl _)]
  rfl

theorem readsItems_cons (first : Reads item) (others : ReadsItems (second :: items)) :
    ReadsItems (item :: second :: items) := by
  intro fuel rest enough
  obtain ⟨fuel, rfl⟩ := Nat.exists_eq_add_one_of_ne_zero (Nat.ne_zero_of_lt enough)
  rw [itemsToJson_cons] at enough ⊢
  simp only [List.length_cons, List.length_append] at enough
  rw [List.append_assoc, List.cons_append, readItems, first fuel _ (by omega) (ends_cons rfl _)]
  simp [others fuel rest (by omega), -String.toList_intercalate]

theorem reads_object (read : ReadsMembers (member :: members)) : Reads (.object (member :: members)) := by
  intro fuel rest enough _
  obtain ⟨fuel, rfl⟩ := Nat.exists_eq_add_one_of_ne_zero (Nat.ne_zero_of_lt enough)
  have first : ((",".intercalate (membersToJson (member :: members))).toList ++
      '\x7d' :: rest).head? ≠ some '\x7d' := by
    obtain ⟨key, value⟩ := member
    cases members with
    | nil => simp [membersToJson, toList_quote]
    | cons second members => simp [membersToJson_cons, toList_quote, -String.toList_intercalate]
  rw [toJson_object] at enough ⊢
  simp only [List.length_cons, List.length_append, List.length_nil] at enough
  rw [List.cons_append, List.append_assoc, List.singleton_append, readValue, if_neg (by decide),
    if_neg (by decide), if_pos rfl, if_neg first, read fuel rest (by omega)]
  rfl

theorem readsMembers_single (read : Reads value) : ReadsMembers [(key, value)] := by
  intro fuel rest enough
  obtain ⟨fuel, rfl⟩ := Nat.exists_eq_add_one_of_ne_zero (Nat.ne_zero_of_lt enough)
  have printed : (",".intercalate (membersToJson [(key, value)])).toList =
      (quote key).toList ++ ':' :: value.toJson.toList := by
    simp [membersToJson]
  rw [printed] at enough ⊢
  simp only [List.length_cons, List.length_append] at enough
  simp [readMembers, toList_quote, readString_escaped,
    read fuel ('\x7d' :: rest) (by omega) (ends_cons rfl _)]

theorem readsMembers_cons (first : Reads value) (others : ReadsMembers (member :: members)) :
    ReadsMembers ((key, value) :: member :: members) := by
  intro fuel rest enough
  obtain ⟨fuel, rfl⟩ := Nat.exists_eq_add_one_of_ne_zero (Nat.ne_zero_of_lt enough)
  rw [membersToJson_cons] at enough ⊢
  simp only [List.length_cons, List.length_append] at enough
  have read := first fuel
    (',' :: ((",".intercalate (membersToJson (member :: members))).toList ++ '\x7d' :: rest)) (by omega)
    (ends_cons rfl _)
  simp [readMembers, toList_quote, readString_escaped, read, others fuel rest (by omega),
    -String.toList_intercalate]

end Lists

mutual

theorem reads_tree : ∀ {value : Value}, value.Tree → Reads value
  | .null, _ | .bool true, _ | .bool false, _ => reads_scalar (by decide) (by decide) rfl
  | .number _, valid =>
      reads_scalar (toJson_ne_nil valid)
        (List.all_eq_true.mpr fun char member =>
          isScalarChar_of_isNumberChar (isNumberChar_toJson valid char member))
        (readScalar_number valid)
  | .string text, _ => reads_string text
  | .array [], _ => reads_emptyArray
  | .array (_ :: _), tree => reads_array tree.1 (readsItems_tree tree (List.cons_ne_nil _ _))
  | .object [], _ => reads_emptyObject
  | .object (_ :: _), tree => reads_object (readsMembers_tree tree.2 (List.cons_ne_nil _ _))

theorem readsItems_tree : ∀ {items : List Value},
    Value.EveryItem Number.Valid (fun _ => True) items → items ≠ [] → ReadsItems items
  | [], _, nonempty => (nonempty rfl).elim
  | [_], tree, _ => readsItems_single (reads_tree tree.1)
  | _ :: _ :: _, tree, _ =>
      readsItems_cons (reads_tree tree.1) (readsItems_tree tree.2 (List.cons_ne_nil _ _))

theorem readsMembers_tree : ∀ {members : List (String × Value)},
    Value.EveryMember Number.Valid (fun _ => True) members → members ≠ [] → ReadsMembers members
  | [], _, nonempty => (nonempty rfl).elim
  | [_], tree, _ => readsMembers_single (reads_tree tree.1)
  | _ :: _ :: _, tree, _ =>
      readsMembers_cons (reads_tree tree.1) (readsMembers_tree tree.2 (List.cons_ne_nil _ _))

end

/-- The printed text of a tree is read back as the tree. -/
theorem readJson_toJson {value : Value} (tree : value.Tree) : readJson value.toJson = some value := by
  have read := reads_tree tree (value.toJson.length + 1) []
    (by rw [String.length_toList]; omega) (by simp [Ends])
  rw [List.append_nil] at read
  rw [readJson, read]

theorem toJson_injective {left right : Value} (leftTree : left.Tree) (rightTree : right.Tree)
    (same : left.toJson = right.toJson) : left = right := by
  have read := readJson_toJson leftTree
  rw [same, readJson_toJson rightTree] at read
  exact (Option.some.inj read).symm

/-! ### One line -/

theorem newline_not_mem_escapeChar (char : Char) : '\n' ∉ escapeChar char := by
  have notHex : ∀ nibble, nibble < 16 → '\n' ≠ hexDigit nibble := by
    intro nibble bound newline
    have read := hexValue_hexDigit nibble bound
    rw [← newline] at read
    exact absurd read (by simp [show hexValue '\n' = none by decide])
  unfold escapeChar
  split_ifs
  iterate 7 decide
  · rename_i control
    simp [notHex (char.toNat / 16) (by omega), notHex (char.toNat % 16) (by omega)]
  · rename_i notNewline _ _ _
    rw [List.mem_singleton]
    rintro rfl
    exact notNewline rfl

theorem newline_not_mem_quote (text : String) : '\n' ∉ (quote text).toList := by
  rw [toList_quote]
  simp [newline_not_mem_escapeChar]

mutual

/-- A tree is printed on one line. -/
theorem newline_not_mem_toJson : ∀ {value : Value}, value.Tree → '\n' ∉ value.toJson.toList
  | .null, _ | .bool true, _ | .bool false, _ => by decide
  | .number _, valid => fun member => absurd (isNumberChar_toJson valid '\n' member) (by decide)
  | .string text, _ => newline_not_mem_quote text
  | .array [], _ | .object [], _ => by decide
  | .array (_ :: _), tree => by
      rw [toJson_array]
      simp [newline_not_mem_items tree, -String.toList_intercalate]
  | .object (_ :: _), tree => by
      rw [toJson_object]
      simp [newline_not_mem_members tree.2, -String.toList_intercalate]

theorem newline_not_mem_items : ∀ {items : List Value},
    Value.EveryItem Number.Valid (fun _ => True) items →
    '\n' ∉ (",".intercalate (itemsToJson items)).toList
  | [], _ => by decide
  | [item], tree => by simpa [itemsToJson] using newline_not_mem_toJson tree.1
  | item :: second :: items, tree => by
      rw [itemsToJson_cons]
      simp [newline_not_mem_toJson tree.1, newline_not_mem_items tree.2, -String.toList_intercalate]

theorem newline_not_mem_members : ∀ {members : List (String × Value)},
    Value.EveryMember Number.Valid (fun _ => True) members →
    '\n' ∉ (",".intercalate (membersToJson members)).toList
  | [], _ => by decide
  | [(key, value)], tree => by
      simpa [membersToJson, newline_not_mem_quote] using newline_not_mem_toJson tree.1
  | (key, value) :: second :: members, tree => by
      rw [membersToJson_cons]
      simp [newline_not_mem_quote, newline_not_mem_toJson tree.1, newline_not_mem_members tree.2,
        -String.toList_intercalate]

end

end KeyMaster.JsonText
