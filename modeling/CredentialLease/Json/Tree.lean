import CredentialLease.Json.Token

/-!
# The structure of a JSON text

`Json.read` turns a text into a tree that keeps what the text says: members of an object in their
order, repeated names included, and strings that spell no text. What a caller needs of it is taken
out with `text`, `natural`, `entries` and `fields`, which fail where the tree holds something
else.
-/

namespace CredentialLease.Json

/-- A JSON text after reading. -/
inductive Tree where
  | null
  | bool (value : Bool)
  | number (numeral : Numeral)
  | string (text : Option String)
  | array (items : List Tree)
  | object (members : List (Option String × Tree))

/-! ### Reading -/

mutual

/-- The tree at the front of a list of elements, and the elements after it. -/
def tree : Nat → List Token → Option (Tree × List Token)
  | 0, _ => none
  | fuel + 1, elements =>
    match elements with
    | .null :: rest => some (.null, rest)
    | .bool value :: rest => some (.bool value, rest)
    | .number numeral :: rest => some (.number numeral, rest)
    | .string text :: rest => some (.string text, rest)
    | .openBracket :: .closeBracket :: rest => some (.array [], rest)
    | .openBracket :: rest =>
      match items fuel rest with
      | some (items, rest) => some (.array items, rest)
      | none => none
    | .openBrace :: .closeBrace :: rest => some (.object [], rest)
    | .openBrace :: rest =>
      match members fuel rest with
      | some (members, rest) => some (.object members, rest)
      | none => none
    | _ => none

/-- The items of an array up to its closing bracket, and the elements after it. -/
def items : Nat → List Token → Option (List Tree × List Token)
  | 0, _ => none
  | fuel + 1, elements =>
    match tree fuel elements with
    | some (item, .closeBracket :: rest) => some ([item], rest)
    | some (item, .comma :: rest) =>
      match items fuel rest with
      | some (more, rest) => some (item :: more, rest)
      | none => none
    | _ => none

/-- The members of an object up to its closing brace, and the elements after it. -/
def members : Nat → List Token → Option (List (Option String × Tree) × List Token)
  | 0, _ => none
  | fuel + 1, elements =>
    match elements with
    | .string name :: .colon :: rest =>
      match tree fuel rest with
      | some (value, .closeBrace :: rest) => some ([(name, value)], rest)
      | some (value, .comma :: rest) =>
        match members fuel rest with
        | some (more, rest) => some ((name, value) :: more, rest)
        | none => none
      | _ => none
    | _ => none

end

/-- The tree of a JSON text. Reading a tree nests at most two calls for every element, which
bounds the fuel it needs. -/
def read (bytes : Bytes) : Option Tree := do
  let elements ← tokens bytes
  match tree (2 * elements.length + 1) elements with
  | some (result, []) => some result
  | _ => none

/-! ### Taking out values -/

/-- The text of a string. -/
def Tree.text : Tree → Option String
  | .string text => text
  | _ => none

/-- The value of a natural number below `2 ^ bits` that is written without a sign, a fraction
and an exponent. -/
def Tree.natural (bits : Nat) : Tree → Option Nat
  | .number numeral =>
    if numeral.integral && !numeral.negative && numeral.whole < 1 <<< bits then some numeral.whole
    else none
  | _ => none

/-- What `take` finds in a tree other than `null`, in which there is nothing to find. -/
def Tree.optional {α : Type} (take : Tree → Option α) : Tree → Option (Option α)
  | .null => some none
  | other => (take other).map some

/-- The members of an object whose names and values are all texts. -/
def Tree.entries : Tree → Option (List (String × String))
  | .object members => members.mapM fun (name, value) => do return (← name, ← value.text)
  | _ => none

/-- The name of a variant without data: a text, or an object with the name as its only member and
`null` as its value. -/
def Tree.variant : Tree → Option String
  | .string text => text
  | .object [(name, .null)] => name
  | _ => none

/-! ### Structures -/

/-- The values of the named members, in the order of `names`. Every name of the object must spell
a text; members of other names are passed over, and a wanted one may not be repeated. -/
def memberFields (names : List String) (members : List (Option String × Tree)) :
    Option (List (Option Tree)) :=
  if members.all fun (name, _) => name.isSome then
    names.mapM fun wanted =>
      match members.filter fun (name, _) => name = some wanted with
      | [] => some none
      | [(_, value)] => some (some value)
      | _ => none
  else none

/-- The items of an array as the fields of a structure: the first ones in order, the others
absent. -/
def itemFields (names : List String) (items : List Tree) : Option (List (Option Tree)) :=
  if items.length ≤ names.length then
    some (items.map some ++ List.replicate (names.length - items.length) none)
  else none

/-- The fields of a structure, which may be written as an object or as an array. -/
def Tree.fields (names : List String) : Tree → Option (List (Option Tree))
  | .object members => memberFields names members
  | .array items => itemFields names items
  | _ => none

end CredentialLease.Json
