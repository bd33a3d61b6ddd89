import KeyMaster.Data.Percent
import KeyMaster.Data.SExpression
import KeyMaster.Data.Utf8

namespace KeyMaster.Data.Assuan

/-! The answers of an Assuan server, as a client reads them. -/

inductive Line where
  | status (keyword value : String)
  | data (bytes : List UInt8)
deriving DecidableEq, Repr

inductive Ending where
  | ok (comment : String)
  | err (code : Nat) (description : String)
deriving DecidableEq, Repr

/-- Status and data lines, and the line that ends them. -/
structure Answer where
  lines : List Line
  ending : Ending
deriving DecidableEq, Repr

/-! ### What fits on a line -/

def Line.Valid : Line → Prop
  | .status keyword value => ' ' ∉ keyword.toList ∧ '\n' ∉ keyword.toList ∧ '\n' ∉ value.toList
  | .data _ => True

def Ending.Valid : Ending → Prop
  | .ok comment => '\n' ∉ comment.toList
  | .err _ description => '\n' ∉ description.toList

instance : DecidablePred Line.Valid
  | .status _ _ => inferInstanceAs (Decidable (_ ∧ _ ∧ _))
  | .data _ => inferInstanceAs (Decidable True)

instance : DecidablePred Ending.Valid
  | .ok _ => inferInstanceAs (Decidable (_ ∉ _))
  | .err _ _ => inferInstanceAs (Decidable (_ ∉ _))

structure Answer.Valid (answer : Answer) : Prop where
  lines : ∀ line ∈ answer.lines, line.Valid
  ending : answer.ending.Valid

/-! ### Lines -/

def lineFeed : UInt8 := 0x0A

def space : UInt8 := 0x20

/-- The first line of a stream, if it is complete, and what follows it. -/
def nextLine (stream : List UInt8) : Option (List UInt8 × List UInt8) :=
  match stream.dropWhile (· ≠ lineFeed) with
  | [] => none
  | _ :: rest => some (stream.takeWhile (· ≠ lineFeed), rest)

def readText (bytes : List UInt8) : Option String := (Utf8.decode bytes).map String.ofList

/-- What follows a space, if anything does. -/
def readComment : List UInt8 → Option String
  | [] => some ""
  | byte :: rest => if byte = space then readText rest else none

def readStatus (bytes : List UInt8) : Option Line := do
  let keyword ← readText (bytes.takeWhile (· ≠ space))
  let value ← readComment (bytes.dropWhile (· ≠ space))
  return .status keyword value

def readError (bytes : List UInt8) : Option Ending :=
  (readComment (bytes.dropWhile Decimal.isDigit)).map
    (.err (Decimal.value (bytes.takeWhile Decimal.isDigit)))

def readLine : List UInt8 → Option (Line ⊕ Ending)
  | 0x53 :: 0x20 :: rest => (readStatus rest).map .inl
  | 0x44 :: 0x20 :: rest => (Percent.decode rest).map fun bytes => .inl (.data bytes)
  | 0x4F :: 0x4B :: rest => (readComment rest).map fun comment => .inr (.ok comment)
  | 0x45 :: 0x52 :: 0x52 :: 0x20 :: rest => (readError rest).map .inr
  | _ => none

section Lines

variable {line rest : List UInt8}

theorem nextLine_line (oneLine : lineFeed ∉ line) (rest : List UInt8) :
    nextLine (line ++ lineFeed :: rest) = some (line, rest) := by
  have inLine : ∀ byte ∈ line, decide (byte ≠ lineFeed) = true := by
    intro byte member
    rw [decide_eq_true_eq]
    rintro rfl
    exact oneLine member
  rw [nextLine, List.takeWhile_append_of_pos inLine, List.dropWhile_append_of_pos inLine]
  simp

theorem length_of_nextLine {stream : List UInt8} (read : nextLine stream = some (line, rest)) :
    rest.length < stream.length := by
  unfold nextLine at read
  split at read
  · cases read
  · rename_i byte more dropped
    cases read
    have suffix : stream.dropWhile (· ≠ lineFeed) <:+ stream := List.dropWhile_suffix _
    have shorter := suffix.length_le
    rw [dropped, List.length_cons] at shorter
    omega

/-- A number is printed as its digits. -/
theorem encode_toString (number : Nat) :
    Utf8.encode (toString number).toList = Decimal.encode number := by
  rw [Nat.toString_eq_repr, Nat.toList_repr, Utf8.encode, Decimal.encode, List.map_eq_flatMap]
  apply List.flatMap_congr
  intro digit member
  have bounds := Decimal.bounds_of_mem_toDigits member
  have single : digit.val.toNat ≤ 0x7f := by
    change digit.toNat ≤ 0x7f
    omega
  unfold String.utf8EncodeChar
  dsimp only
  rw [if_pos single]
  rfl

@[simp] theorem readText_encode (text : String) : readText (Utf8.encode text.toList) = some text := by
  rw [readText, Utf8.decode_encode, Option.map_some, String.ofList_toList]

theorem space_not_mem_encode {text : String} (oneWord : ' ' ∉ text.toList) :
    ∀ byte ∈ Utf8.encode text.toList, decide (byte ≠ space) = true := by
  intro byte member
  rw [decide_eq_true_eq]
  rintro rfl
  exact oneWord ((Utf8.mem_encode_iff rfl (by decide)).mp member)

theorem readComment_encode (text : String) :
    readComment (space :: Utf8.encode text.toList) = some text := by
  rw [readComment, if_pos rfl, readText_encode]

/-- A keyword without a space is read up to the first one. -/
theorem readLine_status {keyword : String} (oneWord : ' ' ∉ keyword.toList) (value : String) :
    readLine (0x53 :: space :: Utf8.encode keyword.toList ++ space :: Utf8.encode value.toList) =
      some (.inl (.status keyword value)) := by
  have inWord := space_not_mem_encode oneWord
  have status : readStatus (Utf8.encode keyword.toList ++ space :: Utf8.encode value.toList) =
      some (.status keyword value) := by
    rw [readStatus, List.takeWhile_append_of_pos inWord, List.dropWhile_append_of_pos inWord,
      List.takeWhile_cons_of_neg (by simp), List.dropWhile_cons_of_neg (by simp), List.append_nil,
      readText_encode, readComment_encode]
    rfl
  exact congrArg (Option.map Sum.inl) status

theorem readLine_data {encoding bytes : List UInt8} (decoded : Percent.decode encoding = some bytes) :
    readLine (0x44 :: space :: encoding) = some (.inl (.data bytes)) :=
  congrArg (Option.map fun bytes => Sum.inl (Line.data bytes)) decoded

theorem readLine_ok : readLine [0x4F, 0x4B] = some (.inr (.ok "")) := rfl

theorem readLine_okComment (comment : String) :
    readLine (0x4F :: 0x4B :: space :: Utf8.encode comment.toList) = some (.inr (.ok comment)) :=
  congrArg (Option.map fun comment => Sum.inr (Ending.ok comment)) (readComment_encode comment)

theorem readLine_err (code : Nat) (description : String) :
    readLine (0x45 :: 0x52 :: 0x52 :: space :: Decimal.encode code ++
        space :: Utf8.encode description.toList) = some (.inr (.err code description)) := by
  have digits : ∀ byte ∈ Decimal.encode code, Decimal.isDigit byte = true :=
    fun _ => Decimal.isDigit_of_mem_encode
  have notDigit : ¬ Decimal.isDigit space = true := by decide
  have error : readError (Decimal.encode code ++ space :: Utf8.encode description.toList) =
      some (.err code description) := by
    rw [readError, List.takeWhile_append_of_pos digits, List.dropWhile_append_of_pos digits,
      List.takeWhile_cons_of_neg notDigit, List.dropWhile_cons_of_neg notDigit, List.append_nil,
      readComment_encode, Decimal.value_encode]
    rfl
  exact congrArg (Option.map Sum.inr) error

end Lines

/-! ### Answers -/

/-- The answer in front of a stream, and what follows it. -/
def readAnswer (stream : List UInt8) : Option (Answer × List UInt8) :=
  match _read : nextLine stream with
  | none => none
  | some (bytes, rest) =>
      match readLine bytes with
      | none => none
      | some (.inr ending) => some (⟨[], ending⟩, rest)
      | some (.inl line) =>
          (readAnswer rest).map fun (answer, last) => (⟨line :: answer.lines, answer.ending⟩, last)
termination_by stream.length
decreasing_by exact length_of_nextLine _read

variable {bytes rest last : List UInt8} {line : Line} {ending : Ending} {answer : Answer}

theorem readAnswer_ending (oneLine : lineFeed ∉ bytes) (read : readLine bytes = some (.inr ending)) :
    readAnswer (bytes ++ lineFeed :: rest) = some (⟨[], ending⟩, rest) := by
  rw [readAnswer]
  split
  · rename_i unread
    rw [nextLine_line oneLine] at unread
    cases unread
  · rename_i found more isRead
    rw [nextLine_line oneLine] at isRead
    cases isRead
    rw [read]

theorem readAnswer_line (oneLine : lineFeed ∉ bytes) (read : readLine bytes = some (.inl line))
    (later : readAnswer rest = some (answer, last)) :
    readAnswer (bytes ++ lineFeed :: rest) = some (⟨line :: answer.lines, answer.ending⟩, last) := by
  rw [readAnswer]
  split
  · rename_i unread
    rw [nextLine_line oneLine] at unread
    cases unread
  · rename_i found more isRead
    rw [nextLine_line oneLine] at isRead
    cases isRead
    rw [read]
    simp only [later, Option.map_some]

theorem readAnswer_nil : readAnswer [] = none := by
  rw [readAnswer]
  rfl

end KeyMaster.Data.Assuan
