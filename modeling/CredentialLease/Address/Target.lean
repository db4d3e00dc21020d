import CredentialLease.Address.Settings

/-!
# From what a user writes to the address of a collection

The remote service knows collections only. A target is a collection name, possibly with a slash on
either side and white space around it; a target with a query, such as `logs/_search?q=1`, may
carry one more path segment before it, which is dropped, and the query moves into the settings.
Everything else is refused: a sub-resource without a query, white space inside the name, and a
query both in the target and in the settings.

A collection whose name holds an opening brace is resolved for each document when it is written,
so its bulk and refresh endpoints do not name it.
-/

namespace CredentialLease

/-! ### Addresses -/

/-- The address of a collection. -/
structure ResourceAddress where
  collection : String
  /-- The ingest pipeline that documents pass through, if there is one. -/
  pipeline : Option String
deriving DecidableEq

namespace ResourceAddress

/-- Whether the collection is resolved for each document when it is written. -/
def hasDynamicPattern (address : ResourceAddress) : Bool :=
  address.collection.toList.contains '\x7b'

/-- The part of the endpoints that names the collection, which a dynamic one leaves open. -/
def staticCollection (address : ResourceAddress) : String :=
  if address.hasDynamicPattern then "" else address.collection

/-- The end of the bulk endpoint. -/
def bulkSuffix (address : ResourceAddress) : String :=
  match address.pipeline with
  | some pipeline => "/_bulk?pipeline=" ++ pipeline
  | none => "/_bulk"

/-- Where documents are written in bulk. -/
def bulkEndpoint (address : ResourceAddress) : String :=
  address.staticCollection ++ address.bulkSuffix

/-- Where written documents are made visible. -/
def refreshEndpoint (address : ResourceAddress) : String :=
  address.staticCollection ++ "/_refresh"

/-- Where the mapping of the collection is found. -/
def mappingEndpoint (address : ResourceAddress) : String := address.collection ++ "/_mapping"

/-- Where the aliases of the collection are found. -/
def aliasesEndpoint (address : ResourceAddress) : String := address.collection ++ "/_aliases"

/-- An address is shown as its collection. -/
instance : ToString ResourceAddress := ⟨collection⟩

end ResourceAddress

/-! ### Parts of a target -/

namespace Target

/-- A text without the slash at its front, if it has one. -/
def stripLeadingSlash : List Char → List Char
  | '/' :: rest => rest
  | text => text

/-- A text without the slash at its end, if it has one. -/
def stripTrailingSlash (text : List Char) : List Char :=
  (stripLeadingSlash text.reverse).reverse

/-- A text without the white space around it and without one slash on either side. -/
def sanitize (text : List Char) : List Char :=
  stripTrailingSlash (stripLeadingSlash (Text.trim text))

/-- The text before the last slash, if there is a slash and something before it; otherwise the
whole text. -/
def dropLastSegment (head : List Char) : List Char :=
  match head.reverse.dropWhile (· ≠ '/') with
  | _ :: c :: before => (c :: before).reverse
  | _ => head

/-- The part of a target that names the collection, and the query that it carries, if it does. -/
def split (target : List Char) : List Char × Option (List Char) :=
  match target.dropWhile (· ≠ '?') with
  | [] => (target, none)
  | query => (dropLastSegment (target.takeWhile (· ≠ '?')), some query)

end Target

/-! ### Reading a target -/

/-- The ingest pipeline that settings ask for; a blank one counts as none. Its name must not hold
white space, and only an operation that creates documents may use one. -/
def AddressSettings.effectivePipeline (settings : AddressSettings) :
    Except CredentialError (Option String) :=
  match settings.ingestPipeline with
  | none => .ok none
  | some pipeline =>
    if isBlankText pipeline then .ok none
    else if hasBlank pipeline then
      .error (.invalidConfiguration
        s!"ingest pipeline name [{pipeline}] must not contain whitespace")
    else if !settings.writeOperation.createsDocuments then
      .error (.invalidConfiguration ("cannot use an ingest pipeline with the "
        ++ settings.writeOperation.name ++ " write operation"))
    else .ok (some pipeline)

/-- What reading a target gives: the address, and the settings with the query of the target. -/
structure ParsedTarget where
  address : ResourceAddress
  settings : AddressSettings
deriving DecidableEq

/-- The name of the collection that a part of a target gives. -/
def Target.collection (target : String) (resource : List Char) : Except CredentialError String :=
  let name := Target.sanitize resource
  if name = [] then
    .error (.addressFormat s!"no collection found in target [{target}]")
  else if name.contains '/' then
    .error (.addressFormat
      s!"detected a sub-resource in target [{target}]; remove it to continue")
  else if name.any Text.isBlank then
    .error (.addressFormat
      s!"collection [{String.ofList name}] must not contain whitespace")
  else .ok (String.ofList name)

/-- The address that a target and settings describe. -/
def ResourceAddress.parse (target : String) (settings : AddressSettings) :
    Except CredentialError ParsedTarget :=
  if isBlankText target then
    .error (.addressFormat "expected a collection name, received an empty target")
  else if (target.toList.contains '?' || target.toList.contains '&') && settings.hasQuery then
    .error (.addressFormat
      s!"cannot specify a query in the target [{target}] and through the query setting")
  else do
    let (resource, query) := Target.split target.toList
    let settings := match query with
      | some query => { settings with query := some (String.ofList query) }
      | none => settings
    let collection ← Target.collection target resource
    let pipeline ← settings.effectivePipeline
    return ⟨⟨collection, pipeline⟩, settings⟩

end CredentialLease
