import CredentialLease.Bytes

/-!
# JSON values and their texts

A value is written compactly, or over several lines with two spaces of indentation for every
level. Both forms keep the order of members. Inside a string only the quote, the backslash and the
control characters below `U+0020` are escaped.
-/

namespace CredentialLease.Json

/-- A JSON value; numbers are integers. -/
inductive Value where
  | null
  | bool (value : Bool)
  | integer (value : Int)
  | text (value : String)
  | array (items : List Value)
  | object (members : List (String × Value))
deriving Inhabited

/-- The member of an optional value: one when it is there, none otherwise. -/
def optional {α : Type} (name : String) (json : α → Value) : Option α → List (String × Value)
  | some value => [(name, json value)]
  | none => []

/-! ### Order of members -/

/-- Puts a member before the first one with a greater name. -/
def insertMember (member : String × Value) : List (String × Value) → List (String × Value)
  | [] => [member]
  | other :: rest =>
    if member.1 < other.1 then member :: other :: rest else other :: insertMember member rest

mutual

/-- A value with the members of all its objects in alphabetical order. -/
def Value.sorted : Value → Value
  | .array items => .array (sortedItems items)
  | .object members => .object (sortedMembers members)
  | value => value

/-- The items of an array with the members of all their objects in order. -/
def sortedItems : List Value → List Value
  | [] => []
  | item :: rest => item.sorted :: sortedItems rest

/-- The members of an object in order, and those of the objects in them. -/
def sortedMembers : List (String × Value) → List (String × Value)
  | [] => []
  | (name, value) :: rest => insertMember (name, value.sorted) (sortedMembers rest)

end

/-! ### Strings -/

/-- A character as it stands inside a JSON string. -/
def escapeChar (c : Char) : List Char :=
  if c = '"' then ['\\', '"']
  else if c = '\\' then ['\\', '\\']
  else if c.toNat = 8 then ['\\', 'b']
  else if c.toNat = 9 then ['\\', 't']
  else if c.toNat = 10 then ['\\', 'n']
  else if c.toNat = 12 then ['\\', 'f']
  else if c.toNat = 13 then ['\\', 'r']
  else if c.toNat < 0x20 then
    ['\\', 'u', '0', '0', Nat.digitChar (c.toNat / 16), Nat.digitChar (c.toNat % 16)]
  else [c]

/-- A text as a JSON string. -/
def quote (s : String) : String :=
  String.ofList ('"' :: s.toList.flatMap escapeChar ++ ['"'])

/-! ### Compact form -/

mutual

/-- The text of a value without white space. -/
def Value.compact : Value → String
  | .null => "null"
  | .bool value => if value then "true" else "false"
  | .integer value => toString value
  | .text value => quote value
  | .array items => "[" ++ String.intercalate "," (compactItems items) ++ "]"
  | .object members => "\x7b" ++ String.intercalate "," (compactMembers members) ++ "\x7d"

/-- The texts of the items of an array. -/
def compactItems : List Value → List String
  | [] => []
  | item :: rest => item.compact :: compactItems rest

/-- The texts of the members of an object. -/
def compactMembers : List (String × Value) → List String
  | [] => []
  | (name, value) :: rest => (quote name ++ ":" ++ value.compact) :: compactMembers rest

end

/-! ### Indented form -/

/-- The start of a line at a level of indentation. -/
def newline (level : Nat) : String := "\n" ++ String.ofList (List.replicate (2 * level) ' ')

/-- Lines between an opening and a closing bracket, or nothing when there are none. -/
def enclose (opening closing : String) (level : Nat) (lines : List String) : String :=
  if lines = [] then opening ++ closing
  else
    opening ++ newline (level + 1) ++ String.intercalate ("," ++ newline (level + 1)) lines
      ++ newline level ++ closing

mutual

/-- The text of a value over several lines, at a level of indentation. -/
def Value.prettyAt (level : Nat) : Value → String
  | .null => "null"
  | .bool value => if value then "true" else "false"
  | .integer value => toString value
  | .text value => quote value
  | .array items => enclose "[" "]" level (prettyItems (level + 1) items)
  | .object members => enclose "\x7b" "\x7d" level (prettyMembers (level + 1) members)

/-- The texts of the items of an array at their level. -/
def prettyItems (level : Nat) : List Value → List String
  | [] => []
  | item :: rest => item.prettyAt level :: prettyItems level rest

/-- The texts of the members of an object at their level. -/
def prettyMembers (level : Nat) : List (String × Value) → List String
  | [] => []
  | (name, value) :: rest =>
    (quote name ++ ": " ++ value.prettyAt level) :: prettyMembers level rest

end

/-- The text of a value over several lines. -/
def Value.pretty (value : Value) : String := value.prettyAt 0

end CredentialLease.Json
