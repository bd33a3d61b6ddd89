import Mathlib.Data.String.Basic

namespace KeyMaster

/-! The part of `serde_json` that the crates rely on.

`Value` is used in two roles.  The tree of a JSON text lists the members of an
object as they stand in the text, duplicates included.  A `Value` that the
program holds has been through `normalize`: its objects are `Map`s, sorted by
key with one member per key.
-/

/-- `serde_json::Number`.  A float is kept as the token it is printed as. -/
inductive Number where
  | posInt (value : UInt64)
  | negInt (value : Int64)
  | float (token : String)
deriving DecidableEq, Repr

inductive Value where
  | null
  | bool (value : Bool)
  | number (value : Number)
  | string (value : String)
  | array (items : List Value)
  | object (members : List (String × Value))
deriving Repr

namespace Value

instance : Inhabited Value := ⟨.null⟩

/-- `Value::get` with a string index: anything but an object has no members. -/
def get : Value → String → Option Value
  | .object members, key => members.lookup key
  | _, _ => none

def asStr : Value → Option String
  | .string value => some value
  | _ => none

def asArray : Value → Option (List Value)
  | .array items => some items
  | _ => none

def asU64 : Value → Option UInt64
  | .number (.posInt value) => some value
  | _ => none

def isArray : Value → Bool
  | .array _ => true
  | _ => false

def isObject : Value → Bool
  | .object _ => true
  | _ => false

def isNull : Value → Bool
  | .null => true
  | _ => false

/-- `Map::insert` on a map kept in key order. -/
def mapInsert {α : Type} (key : String) (value : α) : List (String × α) → List (String × α)
  | [] => [(key, value)]
  | (other, held) :: rest =>
      if key < other then (key, value) :: (other, held) :: rest
      else if key = other then (key, value) :: rest
      else (other, held) :: mapInsert key value rest

def mapOfMembers {α : Type} (members : List (String × α)) : List (String × α) :=
  members.foldl (fun map member => mapInsert member.1 member.2 map) []

mutual

/-- Read the tree of a text as a `Value`: a later member replaces an earlier
one with the same key. -/
def normalize : Value → Value
  | .array items => .array (normalizeItems items)
  | .object members => .object (mapOfMembers (normalizeMembers members))
  | value => value

def normalizeItems : List Value → List Value
  | [] => []
  | item :: rest => normalize item :: normalizeItems rest

def normalizeMembers : List (String × Value) → List (String × Value)
  | [] => []
  | (key, value) :: rest => (key, normalize value) :: normalizeMembers rest

end

end Value

/-- `json!({ ... })` with the given members. -/
def jsonObject (members : List (String × Value)) : Value := .object (Value.mapOfMembers members)

/-! ### Printing -/

def hexDigit (value : Nat) : Char := "0123456789abcdef".toList.getD value '0'

/-- The escape table of `serde_json`'s string printer. -/
def escapeChar (char : Char) : List Char :=
  if char = '"' then ['\\', '"']
  else if char = '\\' then ['\\', '\\']
  else if char.toNat = 0x08 then ['\\', 'b']
  else if char.toNat = 0x09 then ['\\', 't']
  else if char.toNat = 0x0A then ['\\', 'n']
  else if char.toNat = 0x0C then ['\\', 'f']
  else if char.toNat = 0x0D then ['\\', 'r']
  else if char.toNat < 0x20 then
    ['\\', 'u', '0', '0', hexDigit (char.toNat / 16), hexDigit (char.toNat % 16)]
  else [char]

def quote (text : String) : String :=
  String.ofList ('"' :: text.toList.flatMap escapeChar ++ ['"'])

def Number.toJson : Number → String
  | .posInt value => toString value.toNat
  | .negInt value => toString value.toInt
  | .float token => token

mutual

/-- `serde_json::to_string` on a value: compact, members in map order. -/
def Value.toJson : Value → String
  | .null => "null"
  | .bool value => if value then "true" else "false"
  | .number value => value.toJson
  | .string value => quote value
  | .array items => "[" ++ ",".intercalate (itemsToJson items) ++ "]"
  | .object members => "\x7b" ++ ",".intercalate (membersToJson members) ++ "\x7d"

def itemsToJson : List Value → List String
  | [] => []
  | item :: rest => item.toJson :: itemsToJson rest

def membersToJson : List (String × Value) → List String
  | [] => []
  | (key, value) :: rest => (quote key ++ ":" ++ value.toJson) :: membersToJson rest

end

end KeyMaster
