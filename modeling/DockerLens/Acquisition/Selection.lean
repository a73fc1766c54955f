import DockerLens.Evidence
import DockerLens.Json.Value

namespace DockerLens.Acquisition

open DockerLens.Text
open DockerLens.Json
open DockerLens.Version

variable (fromSlice : Bytes → Option Value)

/-- An API version as `major.minor`. -/
def parseApi (text : String) : Option ApiVersion :=
  match splitOnce '.' text.toList with
  | none => none
  | some (major, minor) =>
      if major.isEmpty || minor.isEmpty || !major.all Char.isDigit || !minor.all Char.isDigit then
        none
      else
        match parseUnsigned 10 65535 major, parseUnsigned 10 65535 minor with
        | some major, some minor => ApiVersion.new? major minor
        | _, _ => none

/-- API version 1.49. -/
def knownApi : ApiVersion where
  major := 1
  minor := maxKnownApiMinor
  major_pos := by decide
  major_lt := by decide
  minor_lt := by decide

/-- The optional minimum API version of a `/version` body. -/
def minimumApi (version : Value) : Except AcquisitionError (Option ApiVersion) :=
  match version.get "MinAPIVersion" with
  | none => .ok none
  | some value =>
      match value.asStr.bind parseApi with
      | none => .error .version
      | some minimum => .ok (some minimum)

/-- The API version to ask for, from the daemon's version. -/
def negotiatedApi (body : Bytes) : Except AcquisitionError ApiVersion :=
  match fromSlice body with
  | none => .error .version
  | some version =>
      match ((version.get "ApiVersion").bind Value.asStr).bind parseApi with
      | none => .error .version
      | some maximum =>
          match minimumApi version with
          | .error error => .error error
          | .ok minimum =>
              if maximum.major ≠ 1 then .error .version
              else
                let selected := maximum.min knownApi
                if selected.minor < 41 ∨ minimum.any (fun minimum => selected < minimum) then
                  .error .version
                else .ok selected

/-- 64 hexadecimal digits. -/
def validExactContainerId (id : NativeId) : Bool :=
  (asBytes id.text).length == 64 && (asBytes id.text).all isAsciiHexdigit

/-- `strip_prefix('/')`, or the name itself. -/
def stripSlash (name : String) : String :=
  match name.toList with
  | '/' :: rest => String.ofList rest
  | _ => name

/-- `trim_start_matches('/')`. -/
def trimSlashes (name : String) : String := String.ofList (name.toList.dropWhile (· == '/'))

/-- A name, which may stand behind a slash. -/
def validLiteralName (name : String) : Bool :=
  let name := asBytes (stripSlash name)
  name.length ≤ 255 && name.head?.any isAsciiAlphanumeric &&
    name.all fun byte => isAsciiAlphanumeric byte || byte == 95 || byte == 45 || byte == 46

/-- A name without a slash before it. -/
def validVolumeName (name : String) : Bool :=
  !(name.toList.head? == some '/') && validLiteralName name

/-- The selectors that `selected_ids` rejects before it reads an entry. -/
def rejectedByList : Selector → Bool
  | .containerNames names => names.isEmpty || names.any (!validLiteralName ·.text)
  | .namePrefix namePrefix => !validLiteralName namePrefix.text
  | .label key value => key.isEmpty || key.contains 0 || value.any (·.contains 0)
  | _ => false

/-- One selector name against one native name; a name matched twice is ambiguous. -/
def matchName (native : String) (matched : List String × Bool) (name : NativeId) :
    Except AcquisitionError (List String × Bool) :=
  if native = trimSlashes name.text then
    if matched.1.contains name.text then .error .selection
    else .ok (matched.1 ++ [name.text], true)
  else .ok matched

/-- One native name of a list entry against the names or the prefix of the selector. -/
def matchNative (selector : Selector) (matched : List String × Bool) (native : Value) :
    Except AcquisitionError (List String × Bool) :=
  match native.asStr with
  | none => .error .shape
  | some native =>
      let native := stripSlash native
      match selector with
      | .containerNames names => names.foldlM (matchName native) matched
      | .namePrefix namePrefix =>
          .ok (matched.1, matched.2 ||
            (trimSlashes namePrefix.text).toList.isPrefixOf native.toList)
      | _ => .ok matched

/-- Whether a listed container is selected by its names. -/
def matchNames (selector : Selector) (entry : Value) (matched : List String) :
    Except AcquisitionError (List String × Bool) :=
  match (entry.get "Names").bind Value.asArray with
  | none => .error .shape
  | some natives =>
      if natives.length > maxCollectionItems then .error .shape
      else natives.foldlM (matchNative selector) (matched, false)

/-- Whether a listed container is selected by a label. -/
def matchLabel (key : Bytes) (value : Option Bytes) (entry : Value) :
    Except AcquisitionError Bool :=
  match (entry.get "Labels").bind Value.asObject with
  | none => .error .shape
  | some labels =>
      if labels.length > maxCollectionItems then .error .shape
      else
        match fromUtf8 key with
        | none => .error .selection
        | some key =>
            match labels.lookup key with
            | none => .ok false
            | some found =>
                match found.asStr with
                | none => .error .shape
                | some found => .ok (value.all (asBytes found == ·))

/-- Whether a selector picks one list entry, with the names matched so far. -/
def matchEntry (selector : Selector) (entry : Value) (matched : List String) :
    Except AcquisitionError (List String × Bool) :=
  match selector with
  | .allContainers => .ok (matched, true)
  | .discovery => .ok (matched, false)
  | .containerNames _ | .namePrefix _ => matchNames selector entry matched
  | .label key value => (matchLabel key value entry).map fun found => (matched, found)
  | .containerIds _ | .networkIds _ | .volumeNames _ => .error .selection

/-- What `selected_ids` carries from entry to entry. -/
structure Listing where
  selected : List NativeId
  matchedNames : List String
  seenIds : List NativeId
  deriving DecidableEq

/-- One turn of the loop over the container list. -/
def listEntry (selector : Selector) (listing : Listing) (entry : Value) :
    Except AcquisitionError Listing :=
  match entry.asObject with
  | none => .error .shape
  | some _ =>
      match ((entry.get "Id").bind Value.asStr).bind NativeId.new with
      | none => .error .shape
      | some id =>
          if !validExactContainerId id then .error .shape
          else if listing.seenIds.contains id then .error .shape
          else
            match matchEntry selector entry listing.matchedNames with
            | .error error => .error error
            | .ok (matchedNames, found) =>
                .ok { selected := if found then listing.selected ++ [id] else listing.selected
                      matchedNames
                      seenIds := listing.seenIds ++ [id] }

/-- The selectors that need a match, given what was matched. -/
def unmatched (selector : Selector) (listing : Listing) : Bool :=
  match selector with
  | .containerNames names => listing.matchedNames.length != names.length
  | .namePrefix _ | .label _ _ => listing.selected.isEmpty
  | _ => false

/-- `selected_ids`. -/
def selectedIds (body : Bytes) (selector : Selector) :
    Except AcquisitionError (List NativeId) :=
  match (fromSlice body).bind Value.asArray with
  | none => .error .shape
  | some entries =>
      if entries.length > maxCollectionItems then .error .shape
      else if rejectedByList selector then .error .selection
      else
        match entries.foldlM (listEntry selector) ⟨[], [], []⟩ with
        | .error error => .error error
        | .ok listing =>
            if unmatched selector listing then .error .selection else .ok listing.selected

/-- The entries of a selector that names its resources. -/
def tooMany (limits : Limits) (count : Nat) : Bool :=
  count > limits.maxSelectedResources || count > maxCollectionItems

/-- `validate_selector`. -/
def validateSelector (selector : Selector) (limits : Limits) : Except AcquisitionError Unit :=
  match selector with
  | .containerIds ids | .networkIds ids =>
      if tooMany limits ids.length then .error (.budget .selectedResources)
      else if ids.any (!validExactContainerId ·) then .error .selection
      else .ok ()
  | .volumeNames names =>
      if names.isEmpty || names.any (!validVolumeName ·.text) then .error .selection
      else if tooMany limits names.length then .error (.budget .selectedResources)
      else .ok ()
  | .containerNames names =>
      if names.isEmpty || names.any (!validLiteralName ·.text) then .error .selection
      else if tooMany limits names.length then .error (.budget .selectedResources)
      else .ok ()
  | .namePrefix namePrefix =>
      if !validLiteralName namePrefix.text then .error .selection else .ok ()
  | .label key value =>
      if key.isEmpty || key.length > maxCollectionItems || key.contains 0 ||
          value.any (fun value => value.length > maxCollectionItems || value.contains 0) then
        .error .selection
      else .ok ()
  | .discovery | .allContainers => .ok ()

/-- The networks and volumes that an inspected container names. -/
structure RelatedResources where
  networks : List (NativeId × Bool)
  volumes : List NativeId
  deriving DecidableEq

/-- The nonempty network id of an endpoint. -/
def endpointNetworkId (endpoint : Value) : Option String :=
  ((endpoint.get "NetworkID").bind Value.asStr).filter (· ≠ "")

/-- The native network of one endpoint, by its id or else by its name. -/
def relatedNetwork (entry : String × Value) : Except AcquisitionError (NativeId × Bool) :=
  match NativeId.new ((endpointNetworkId entry.2).getD entry.1) with
  | none => .error .shape
  | some id => .ok (id, (endpointNetworkId entry.2).isNone)

/-- The endpoints of an inspected container. -/
def relatedNetworks (root : Value) : Except AcquisitionError (List (NativeId × Bool)) :=
  match ((root.get "NetworkSettings").bind (Value.get · "Networks")).filter (!·.isNull) with
  | none => .ok []
  | some endpoints =>
      match endpoints.asObject with
      | none => .error .shape
      | some entries =>
          if entries.length > maxCollectionItems then .error .shape
          else entries.mapM relatedNetwork

/-- The native volume of one mount, if it is a volume mount. -/
def relatedVolume (mount : Value) : Except AcquisitionError (Option NativeId) :=
  if (mount.get "Type").bind Value.asStr = some "volume" then
    match ((mount.get "Name").bind Value.asStr).bind NativeId.new with
    | none => .error .shape
    | some name => .ok (some name)
  else .ok none

/-- The volume mounts of an inspected container. -/
def relatedVolumes (root : Value) : Except AcquisitionError (List NativeId) :=
  match (root.get "Mounts").filter (!·.isNull) with
  | none => .ok []
  | some mounts =>
      match mounts.asArray with
      | none => .error .shape
      | some entries =>
          if entries.length > maxCollectionItems then .error .shape
          else (entries.mapM relatedVolume).map fun volumes => volumes.filterMap id

/-- `related_ids`. -/
def relatedIds (body : Bytes) : Except AcquisitionError RelatedResources :=
  match fromSlice body with
  | none => .error .shape
  | some root =>
      match root.asObject with
      | none => .error .shape
      | some _ => do
          let networks ← relatedNetworks root
          let volumes ← relatedVolumes root
          .ok ⟨networks, volumes⟩

/-- An inspected resource is the one that was asked for. -/
def inspectIdentity (body : Bytes) (key : String) (expected : NativeId) :
    Except AcquisitionError Unit :=
  match fromSlice body with
  | none => .error .shape
  | some root =>
      if (root.get key).bind Value.asStr = some expected.text then .ok ()
      else .error .shape

/-- The id of an inspected network. -/
def inspectedNetworkId (body : Bytes) : Except AcquisitionError NativeId :=
  match fromSlice body with
  | none => .error .shape
  | some root =>
      match ((root.get "Id").bind Value.asStr).bind NativeId.new with
      | none => .error .shape
      | some id => .ok id

end DockerLens.Acquisition
