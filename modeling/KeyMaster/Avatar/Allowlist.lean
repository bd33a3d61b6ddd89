import KeyMaster.Avatar.AttachOutcome
import KeyMaster.Data.Utf8
import KeyMaster.Text

namespace KeyMaster

open Data LoopState

/-! The identity allowlist: `load_allowlist` and what it does to attaches. -/

/-! ### Reading the file -/

inductive AllowlistFile where
  | missing
  /-- The file exists, but reading it fails. -/
  | unreadable (content : List UInt8)
  | readable (content : List UInt8)

/-- `str::lines`: a last empty line is dropped, and a carriage return at the
end of a line. -/
def lines (content : List Char) : List (List Char) :=
  let parts := content.splitOn '\n'
  (if parts.getLast? = some [] then parts.dropLast else parts).map fun line =>
    if line.getLast? = some '\r' then line.dropLast else line

def allowlistEntry (line : List Char) : Option String :=
  let trimmed := trim line
  if trimmed = [] ∨ trimmed.head? = some '#' then none else some (String.ofList trimmed)

/-- `std::fs::read_to_string`: a file that is not valid UTF-8 is an error. -/
def readToString : AllowlistFile → Option (List Char)
  | .readable content => Utf8.decode content
  | .missing | .unreadable _ => none

def loadAllowlist (file : AllowlistFile) : List String :=
  match readToString file with
  | none => []
  | some content => (lines content).filterMap allowlistEntry

/-! ### What the file says

The entries of a file are defined on its bytes, whether it can be read or not.
-/

def AllowlistFile.content : AllowlistFile → Option (List UInt8)
  | .missing => none
  | .unreadable content | .readable content => some content

/-- A line that is not valid UTF-8 is trimmed of ASCII white space. -/
def trimBytes (line : List UInt8) : List UInt8 :=
  match Utf8.decode line with
  | some text => Utf8.encode (trim text)
  | none =>
      let isSpace := fun byte : UInt8 => (0x09 ≤ byte && byte ≤ 0x0D) || byte == 0x20
      ((line.dropWhile isSpace).reverse.dropWhile isSpace).reverse

def entryOfLine (line : List UInt8) : Option (List UInt8) :=
  let trimmed := trimBytes line
  if trimmed = [] ∨ trimmed.head? = some 0x23 then none else some trimmed

/-- The entries: lines that after trimming are not empty and no comment. -/
def fileEntries (content : List UInt8) : List (List UInt8) :=
  (content.splitOn 0x0A).filterMap entryOfLine

/-! ### Loading a valid file -/

theorem allowlistEntry_stripped (line : List Char) :
    allowlistEntry (if line.getLast? = some '\r' then line.dropLast else line) =
      allowlistEntry line := by
  split
  · rename_i returned
    have whole : line = line.dropLast ++ ['\r'] := (List.dropLast_append_getLast? _ returned).symm
    rw [whole, List.dropLast_concat, allowlistEntry, allowlistEntry,
      trim_concat line.dropLast (by decide)]
  · rfl

/-- Neither the carriage returns nor the last empty line matter to the entries. -/
theorem filterMap_lines (content : List Char) :
    (lines content).filterMap allowlistEntry = (content.splitOn '\n').filterMap allowlistEntry := by
  rw [lines, List.filterMap_map]
  have strip : (allowlistEntry ∘ fun line =>
      if line.getLast? = some '\r' then line.dropLast else line) = allowlistEntry :=
    funext allowlistEntry_stripped
  rw [strip]
  split
  · rename_i empty
    have whole : content.splitOn '\n' = (content.splitOn '\n').dropLast ++ [[]] :=
      (List.dropLast_append_getLast? _ empty).symm
    rw [whole, List.dropLast_concat, List.filterMap_append]
    simp [allowlistEntry, trim]
  · rfl

theorem utf8Bytes_eq (text : String) : utf8Bytes text = Utf8.encode text.toList := by
  rw [utf8Bytes, ← String.utf8Encode_toList, Utf8.utf8Encode_eq, List.toList_data_toByteArray]

theorem entryOfLine_encode (line : List Char) :
    entryOfLine (Utf8.encode line) = (allowlistEntry line).map utf8Bytes := by
  have comment : (Utf8.encode (trim line)).head? = some 0x23 ↔ (trim line).head? = some '#' :=
    Utf8.head?_encode_eq_some rfl (by decide)
  simp only [entryOfLine, allowlistEntry, trimBytes, Utf8.decode_encode, Utf8.encode_eq_nil, comment]
  split
  · rfl
  · rw [Option.map_some, utf8Bytes_eq, String.toList_ofList]

theorem fileEntries_of_decode {content : List UInt8} {text : List Char}
    (valid : Utf8.decode content = some text) :
    fileEntries content = (loadAllowlist (.readable content)).map utf8Bytes := by
  have lineFeed : (Utf8.encode text).splitOn 0x0A = (text.splitOn '\n').map Utf8.encode :=
    Utf8.splitOn_encode rfl (by decide)
  simp only [loadAllowlist, readToString, valid, filterMap_lines]
  rw [Utf8.decode_eq_some.mp valid, fileEntries, lineFeed, List.filterMap_map, List.map_filterMap]
  exact congrArg (fun entry => List.filterMap entry _) (funext entryOfLine_encode)

/-! ### Attaches under a loaded file -/

/-- Under the loaded allowlist, attaches take effect for entries of the file only. -/
def FailsClosed (file : AllowlistFile) (content : List UInt8) : Prop :=
  ∀ (C : Crates) (config : Config C), config.allowlist = loadAllowlist file →
    ∀ trace final, Run (Step config) new trace final →
      ∀ transition ∈ trace, ∀ msg, transition.label.Attaches config msg →
        TakesEffect (transition.before.actions config transition.label) →
        utf8Bytes (attachIdentity (attachParams msg.params)) ∈ fileEntries content

theorem attachChecks_of_takesEffect {C : Crates} {config : Config C} {before : LoopState C}
    {turn : Turn C} {msg : JsonRpcMessage} (attaches : turn.Attaches config msg)
    (effective : TakesEffect (before.actions config turn)) :
    attachChecks C config (attachParams msg.params) = .ok () := by
  cases attaches.path before with
  | refused _ keeps fails => exact absurd effective (not_takesEffect_of_refused keeps fails)
  | acked accepted => exact accepted
  | created creates => exact creates.accepted

theorem exists_stranger (entries : List (List UInt8)) :
    ∃ identity : String, utf8Bytes identity ∉ entries := by
  let text := List.replicate (entries.flatten.length + 1) 'a'
  have bytes : ∀ count, (Utf8.encode (List.replicate count 'a')).length = count := by
    intro count
    induction count with
    | zero => rfl
    | succ count ih =>
        rw [List.replicate_succ, Utf8.encode_cons, List.length_append, ih]
        exact Nat.add_comm 1 count
  refine ⟨String.ofList text, fun listed => ?_⟩
  have short := (List.sublist_flatten_of_mem listed).length_le
  rw [utf8Bytes_eq, String.toList_ofList, bytes] at short
  omega

namespace Transparent

def strangerTexts (identity : String) : List (String × Value) :=
  [("attach", request "attach" [("identity", .string identity)])]

def strangerTurn (identity : String) : Turn (crates (strangerTexts identity)) :=
  new.next (event 10 2 "attach", io)

def strangerMessage (identity : String) : JsonRpcMessage where
  jsonrpc := "2.0"
  method := some "attach"
  params := .object [("identity", .string identity)]
  result := none
  error := none
  id := none

theorem stranger_creates (identity : String) :
    (strangerTurn identity).Creates (avatar (strangerTexts identity)) (strangerMessage identity) := by
  have parsed : (strangerTexts identity).lookup "attach" =
      some (request "attach" [("identity", .string identity)]) := by
    simp [strangerTexts]
  have read : JsonRpcMessage.deserialize (request "attach" [("identity", .string identity)]) =
      some (strangerMessage identity) := by
    simp [JsonRpcMessage.deserialize, request, fieldOnce, required, optional, Value.asStr,
      Value.normalize, Value.normalizeMembers, Value.mapOfMembers, Value.mapInsert, strangerMessage]
  refine ⟨rfl, ?_, rfl, ?_⟩
  · change readEvent _ _ (event 10 2 "attach") = _
    rw [readEvent, decryptEvent_event]
    dsimp only
    rw [parsed, Option.bind_some, read]
    rfl
  · intro acked
    cases acked

theorem stranger_run (identity : String) :
    Run (Step (avatar (strangerTexts identity))) new
      [⟨new, strangerTurn identity,
        new.handle (avatar (strangerTexts identity)) (strangerTurn identity)⟩]
      (new.handle (avatar (strangerTexts identity)) (strangerTurn identity)) :=
  .single ⟨.refl _, rfl⟩

theorem stranger_takesEffect (identity : String) :
    TakesEffect (LoopState.actions (avatar (strangerTexts identity)) new (strangerTurn identity)) := by
  rw [actions_of_creates (stranger_creates identity), establishSession_eq]
  exact .inr rfl

end Transparent

/-- A file that loads as an empty set lets strangers attach. -/
theorem not_failsClosed_of_empty {file : AllowlistFile} (content : List UInt8)
    (empty : loadAllowlist file = []) : ¬ FailsClosed file content := by
  intro closed
  obtain ⟨identity, stranger⟩ := exists_stranger (fileEntries content)
  have creates := Transparent.stranger_creates identity
  exact stranger (closed _ _ empty.symm _ _ (Transparent.stranger_run identity) _
    (List.mem_singleton_self _) _ ⟨creates.protocol, creates.attach⟩
    (Transparent.stranger_takesEffect identity))

/-- For a file with entries, attaches fail closed exactly when the file can be
read and is valid UTF-8. -/
theorem allowlist_failsClosed_iff {file : AllowlistFile} {content : List UInt8}
    (found : file.content = some content) (listed : fileEntries content ≠ []) :
    FailsClosed file content ↔
      file = .readable content ∧ ByteArray.IsValidUTF8 content.toByteArray := by
  constructor
  · intro closed
    by_contra bad
    have unread : readToString file = none := by
      cases file with
      | missing => rfl
      | unreadable bytes => rfl
      | readable bytes =>
          cases found
          rw [readToString, Utf8.decode, Option.map_eq_none_iff, ← Option.not_isSome_iff_eq_none,
            ByteArray.isSome_utf8Decode?_iff]
          exact fun valid => bad ⟨rfl, valid⟩
    exact not_failsClosed_of_empty content (by rw [loadAllowlist, unread]) closed
  · rintro ⟨rfl, valid⟩ C config loaded trace final _ transition _ msg attaches effective
    obtain ⟨chars, decoded⟩ := Option.isSome_iff_exists.mp (ByteArray.isSome_utf8Decode?_iff.mpr valid)
    have text : Utf8.decode content = some chars.toList := by
      rw [Utf8.decode, decoded, Option.map_some]
    have entries := fileEntries_of_decode text
    have allowed := (attachChecks_ok (attachChecks_of_takesEffect attaches effective)).2
    rw [loaded] at allowed
    rw [entries]
    refine List.mem_map_of_mem (allowed ?_)
    intro empty
    rw [entries, empty] at listed
    exact listed rfl

def latin1File : List UInt8 := [0x35, 0x0A, 0xFF]

theorem latin1File_fails_open :
    fileEntries latin1File = [[0x35], [0xFF]] ∧ ¬ FailsClosed (.readable latin1File) latin1File :=
  ⟨by decide, not_failsClosed_of_empty _ (by decide)⟩

theorem utf8File_failsClosed : FailsClosed (.readable [0x20, 0x35, 0x0D, 0x0A]) [0x20, 0x35, 0x0D, 0x0A] :=
  (allowlist_failsClosed_iff rfl (by decide)).mpr ⟨rfl, by decide⟩

end KeyMaster
