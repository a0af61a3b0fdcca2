import Mathlib.Algebra.Group.Int.Defs
import Mathlib.Algebra.Group.Nat.Defs
import SingBox.Provider.Info

/-! # Remote providers

`provider/remote/remote.go`: a remote provider fetches its subscription with conditional
requests, and keeps what it has applied in a file, in a record of the cache file, or in both.

The code outside of the repository, base64, JSON and the hashes, is a parameter with the
properties of it that matter here. A call of `fetch` is given what it meets: the outcome of the
request, the time, and which writes fail.
-/

namespace SingBox.Provider.Remote

/-- What the options of a server are, and a hash. -/
structure Types where
  Outbound : Type
  Endpoint : Type
  Digest : Type
  [digestEq : DecidableEq Digest]

instance (types : Types) : DecidableEq types.Digest := types.digestEq

/-- The options of outbounds and endpoints that are parsed from a subscription. -/
structure Servers (types : Types) where
  outbounds : List types.Outbound := []
  endpoints : List types.Endpoint := []

def Servers.isEmpty {types : Types} (servers : Servers types) : Bool :=
  servers.outbounds.isEmpty && servers.endpoints.isEmpty

/-- What lies outside of the repository. `marshal` is `json.Marshal` of the options, which
writes an object on one line; `unmarshal` reads a `SingBoxDocument`. -/
structure Runtime (types : Types) where
  decodeString : Text → Option Text
  decodeString_nil : decodeString [] = some []
  decodeString_brace : ∀ text, '{' ∈ text → decodeString text = none
  marshal : Servers types → Text
  marshal_brace : ∀ servers, '{' ∈ marshal servers
  marshal_newline : ∀ servers, '\n' ∉ marshal servers
  unmarshal : Text → Option (Servers types)
  unmarshal_nil : unmarshal [] = none
  unmarshal_marshal : ∀ servers, unmarshal (marshal servers) = some servers
  makeHash : Text → types.Digest
  makeHash_injective : Function.Injective makeHash
  /-- The zero value of `HashType`. -/
  zeroHash : types.Digest
  /-- `sha256.Sum256` -/
  urlHash : Text → Text
  urlHash_ne_nil : ∀ url, urlHash url ≠ []

structure Config (types : Types) where
  /-- `path != ""` -/
  path : Bool
  /-- `cacheFile != nil` -/
  cacheFile : Bool
  /-- `initialPath != ""` -/
  initialPath : Bool := false
  /-- `ParseClashSubscription`, `ParseSIP008Subscription` and `ParseRawSubscription`. -/
  otherParsers : List (Text → Option (Servers types)) := []
  /-- `overrideOutbounds` and `overrideEndpoints`. -/
  overrideServers : Servers types → Servers types := id
  outboundTag : types.Outbound → Text
  endpointTag : types.Endpoint → Text
  exclude : Option (Text → Bool) := none
  «include» : Option (Text → Bool) := none

/-- Nanoseconds since 1970. -/
abbrev Time := Int

/-- `time.Unix(t.Unix(), 0)` -/
def Time.wholeSeconds (time : Time) : Time := time / 10 ^ 9 * 10 ^ 9

structure SavedBinary (types : Types) where
  hash : types.Digest
  content : Text
  lastUpdated : Time
  lastEtag : Text
  urlHash : Text

structure File where
  content : Text
  modTime : Time
deriving DecidableEq, Repr

/-- The file of the provider, and its record in the cache file. -/
structure Disk (types : Types) where
  file : Option File := none
  record : Option (SavedBinary types) := none

structure ProviderRemote (types : Types) where
  hash : types.Digest
  lastEtag : Text := []
  /-- `lastOutOpts` and `lastEPOpts` -/
  servers : Servers types := {}
  lastUpdated : Time := 0
  subscriptionInfo : SubscriptionInfo := {}

structure Response where
  status : Nat
  /-- The header `subscription-userinfo`; a header has no line breaks. -/
  userinfo : Text := []
  userinfo_newline : '\n' ∉ userinfo := by decide
  etag : Text := []
  contentLength : Int := -1
  /-- The body, unless reading it fails. -/
  body : Option Text := none

inductive Outcome where
  /-- No request can be made, or there is no response to it. -/
  | failure
  | response (response : Response)

/-- Which writes fail. A failed write of the file leaves something, or nothing, at its path. -/
structure Faults where
  mkdirAll : Bool := false
  writeFile : Option (Option File) := none
  saveSubscription : Bool := false

structure Call where
  outcome : Outcome
  faults : Faults := {}
  now : Time

inductive FetchError where
  | request
  | unexpectedStatus
  | content
  | noServers
  | saveCacheFile
deriving DecidableEq, Repr

inductive LoadError where
  | read
  | validation
  | sizeLimit
  | noServers
deriving DecidableEq, Repr

/-! ## Contents -/

def maxProviderContentSize : Nat := 32 * 2 ^ 20

/-- `readProviderContent` of a response. -/
def Response.readProviderContent (response : Response) : Option Text :=
  if response.contentLength > maxProviderContentSize then none
  else response.body.filter fun content => content.length ≤ maxProviderContentSize

/-- The first line and the other lines. -/
def getFirstLine (content : Text) : Text × Text :=
  (content.takeWhile (· ≠ '\n'), (content.dropWhile (· ≠ '\n')).tail)

/-- The text after the first line break. -/
def afterNewline (content : Text) : Option Text :=
  if '\n' ∈ content then some (content.dropWhile (· ≠ '\n')).tail else none

variable {types : Types} (runtime : Runtime types)
  (config : Config types)

def decodeBase64URLSafe (content : Text) : Text :=
  let replaced := content.filterMap fun char =>
    if char = ' ' then some '-' else if char = '/' then some '_' else if char = '+' then some '-'
    else if char = '=' then none else some char
  (runtime.decodeString replaced).getD content

def parseBoxSubscription (content : Text) : Option (Servers types) :=
  (runtime.unmarshal content).filter fun servers => !servers.isEmpty

def parseSubscription (content : Text) : Option (Servers types) :=
  let parsed := (parseBoxSubscription runtime :: config.otherParsers).findSome? fun parser =>
    (parser content).filter fun servers => !servers.isEmpty
  parsed.map config.overrideServers

def keepsTag (tag : Text) : Bool :=
  config.exclude.all (fun exclude => !exclude tag) && config.include.all (fun «include» => «include» tag)

/-- `updateProviderFromContent`: what the provider applies, unless there is nothing in the content. -/
def updateProviderFromContent (content : Text) : Option (Servers types) :=
  (parseSubscription runtime config content).map fun servers =>
    { outbounds := servers.outbounds.filter fun outbound => keepsTag config (config.outboundTag outbound)
      endpoints := servers.endpoints.filter fun endpoint => keepsTag config (config.endpointTag endpoint) }

/-- What `fetch` takes from a body: the content, and the info with its text, from the header or
from the first line. -/
structure Contents where
  content : Text
  infoStr : Text
  info : Option SubscriptionInfo

def Response.contents (response : Response) (contentRaw : Text) : Contents :=
  let content := decodeBase64URLSafe runtime contentRaw
  match parseInfo response.userinfo with
  | some info => ⟨content, response.userinfo, some info⟩
  | none =>
    let (firstLine, others) := getFirstLine content
    match parseInfo firstLine with
    | some info => ⟨decodeBase64URLSafe runtime others, firstLine, some info⟩
    | none => ⟨content, response.userinfo, none⟩

/-- The options that are parsed from a response. -/
def Response.servers (response : Response) : Option (Servers types) :=
  response.readProviderContent.bind fun contentRaw =>
    updateProviderFromContent runtime config (response.contents runtime contentRaw).content

/-! ## Fetching -/

/-- The provider, its URL and what it has stored. -/
structure World (types : Types) where
  url : Text
  provider : ProviderRemote types
  disk : Disk types

/-- The text of the file: the info on a line of its own, and the options. -/
def cacheText (info : Option SubscriptionInfo) (content : Text) : Text :=
  match info with
  | some info => info.line ++ '\n' :: content
  | none => content

variable (world : World types)

def saveCacheFile (info : Option SubscriptionInfo) (content : Text)
    (call : Call) : World types × Except FetchError Unit :=
  let content := cacheText info content
  if call.faults.mkdirAll then (world, .error .saveCacheFile)
  else
    match call.faults.writeFile with
    | some left => ({ world with disk.file := left }, .error .saveCacheFile)
    | none =>
      ({ world with disk.file := some ⟨content, call.now⟩, provider.hash := runtime.makeHash content }, .ok ())

/-- `if s.path != ""`: the options in force are written to the file. -/
def keepFile (info : Option SubscriptionInfo) (call : Call) : World types × Except FetchError Unit :=
  if config.path then saveCacheFile runtime world info (runtime.marshal world.provider.servers) call
  else (world, .ok ())

variable (record : SavedBinary types)

/-- `MarshalBinary` and `UnmarshalBinary`: times are stored in seconds. -/
def SavedBinary.stored : SavedBinary types :=
  { record with lastUpdated := record.lastUpdated.wholeSeconds }

def saveSubscription (call : Call) : World types :=
  if call.faults.saveSubscription then world
  else { world with disk.record := some record.stored }

variable (provider : ProviderRemote types)

/-- The header `If-None-Match` of the next request. -/
def ProviderRemote.ifNoneMatch : Option Text :=
  if provider.lastEtag ≠ [] then some provider.lastEtag else none

/-- The record after a response that confirms the content. -/
def confirmRecord (response : Response) (record : SavedBinary types) : SavedBinary types :=
  let record :=
    if config.path then { record with hash := world.provider.hash }
    else if (parseInfo response.userinfo).isSome then
      match afterNewline record.content with
      | some content => { record with content := response.userinfo ++ '\n' :: content }
      | none => record
    else record
  { record with lastUpdated := world.provider.lastUpdated, urlHash := runtime.urlHash world.url }

/-- The branch for `StatusNotModified`, up to the file. -/
def confirm (response : Response) (call : Call) : World types :=
  let world :=
    { world with
      provider.subscriptionInfo := (parseInfo response.userinfo).getD {}
      provider.lastUpdated := call.now }
  match if config.cacheFile then world.disk.record else none with
  | some record => saveSubscription world (confirmRecord runtime config world response record) call
  | none => world

def notModified (response : Response) (call : Call) : World types × Except FetchError Unit :=
  keepFile runtime config (confirm runtime config world response call) (parseInfo response.userinfo) call

variable (contents : Contents)

/-- The content of a record: the text of the info on a line of its own, and the options. -/
def Contents.withLine (content : Text) : Text :=
  match contents.info with
  | some _ => contents.infoStr ++ '\n' :: content
  | none => content

/-- The record of a content that has just been applied. -/
def newRecord : SavedBinary types where
  hash := if config.path then world.provider.hash else runtime.zeroHash
  content := if config.path then [] else contents.withLine (runtime.marshal world.provider.servers)
  lastUpdated := world.provider.lastUpdated
  lastEtag := world.provider.lastEtag
  urlHash := runtime.urlHash world.url

/-- The end of `fetch`, with the new options in force. -/
def applied (servers : Servers types) (call : Call) : World types × Except FetchError Unit :=
  let world :=
    { world with
      provider.servers := servers
      provider.subscriptionInfo := contents.info.getD {}
      provider.lastUpdated := call.now }
  match keepFile runtime config world contents.info call with
  | (world, .error error) => (world, .error error)
  | (world, .ok ()) =>
    if config.cacheFile then (saveSubscription world (newRecord runtime config world contents) call, .ok ())
    else (world, .ok ())

def fetch (call : Call) : World types × Except FetchError Unit :=
  match call.outcome with
  | .failure => (world, .error .request)
  | .response response =>
    if response.status = 200 then
      match response.readProviderContent with
      | none => (world, .error .content)
      | some contentRaw =>
        let world := if response.etag ≠ [] then { world with provider.lastEtag := response.etag } else world
        let contents := response.contents runtime contentRaw
        match updateProviderFromContent runtime config contents.content with
        | none => (world, .error .noServers)
        | some servers => applied runtime config world contents servers call
    else if response.status = 304 then notModified runtime config world response call
    else (world, .error .unexpectedStatus)

/-! ## Starting again -/

variable (contentRaw : Text)

/-- `decodeContent`, with the info that it finds in the first line. -/
def decodeContent : Text × Option SubscriptionInfo :=
  let content := decodeBase64URLSafe runtime contentRaw
  let (firstLine, others) := getFirstLine content
  match parseInfo firstLine with
  | some info => (decodeBase64URLSafe runtime others, some info)
  | none => (content, none)

def ProviderRemote.setInfo (info : Option SubscriptionInfo) : ProviderRemote types :=
  { provider with subscriptionInfo := info.getD provider.subscriptionInfo }

/-- The end of `loadCacheFile`. -/
def loadFromContent (content : Text) (lastUpdated : Time)
    (lastEtag : Text) : ProviderRemote types × Except LoadError Bool :=
  let (content, info) := decodeContent runtime content
  let provider := provider.setInfo info
  match parseBoxSubscription runtime content with
  | none => (provider, .error .noServers)
  | some servers => ({ provider with servers, lastUpdated, lastEtag }, .ok true)

/-- The part of `loadCacheFile` for a provider with a path. -/
def loadFromFile (provider : ProviderRemote types) (disk : Disk types)
    (record : Option (SavedBinary types)) (readFails : Bool) :
    ProviderRemote types × Except LoadError Bool :=
  if readFails then (provider, .error .read)
  else
    match disk.file with
    | none => (provider, .ok false)
    | some file =>
      if file.content.length > maxProviderContentSize then (provider, .error .read)
      else
        match record with
        | none => loadFromContent runtime provider file.content file.modTime []
        | some record =>
          if provider.hash = runtime.makeHash file.content then
            loadFromContent runtime provider file.content record.lastUpdated record.lastEtag
          else (provider, .error .validation)

/-- The part of `loadCacheFile` after the URL of the record has been checked. -/
def loadCached (provider : ProviderRemote types) (disk : Disk types)
    (record : Option (SavedBinary types)) (readFails : Bool) :
    ProviderRemote types × Except LoadError Bool :=
  if config.path then loadFromFile runtime provider disk record readFails
  else
    match record with
    | none => (provider, .ok false)
    | some record =>
      if record.content = [] then (provider, .ok false)
      else if record.content.length > maxProviderContentSize then (provider, .error .sizeLimit)
      else loadFromContent runtime provider record.content record.lastUpdated record.lastEtag

variable (url : Text)

def loadCacheFile (provider : ProviderRemote types) (url : Text) (disk : Disk types)
    (readFails : Bool) : ProviderRemote types × Except LoadError Bool :=
  match if config.cacheFile then disk.record else none with
  | none => loadCached runtime config provider disk none readFails
  | some record =>
    if record.urlHash ≠ [] ∧ record.urlHash ≠ runtime.urlHash url then (provider, .ok false)
    else loadCached runtime config { provider with hash := record.hash } disk (some record) readFails

/-- A provider before it is started. -/
def newProviderRemote : ProviderRemote types := { hash := runtime.zeroHash }

/-- `loadInitialPath`, with the content of the file. -/
def loadInitialPath : ProviderRemote types :=
  let (content, info) := decodeContent runtime contentRaw
  let provider := provider.setInfo info
  match updateProviderFromContent runtime config content with
  | none => provider
  | some servers => { provider with servers }

/-- The beginning of `StartContext`. `initial` is the content of the file at the initial path,
unless it cannot be read. -/
def start (disk : Disk types) (readFails : Bool) (initial : Option Text) : ProviderRemote types :=
  match loadCacheFile runtime config (newProviderRemote runtime) url disk readFails with
  | (provider, .ok true) => provider
  | (provider, _) =>
    match config.initialPath, initial with
    | true, some contentRaw => loadInitialPath runtime config provider contentRaw
    | _, _ => provider

/-! ## Runs -/

inductive Event where
  | fetch (call : Call)
  /-- The provider is started again, with any URL. -/
  | restart (url : Text) (readFails : Bool) (initial : Option Text)

def step (world : World types) : Event → World types
  | .fetch call => (fetch runtime config world call).1
  | .restart url readFails initial =>
    { world with url, provider := start runtime config url world.disk readFails initial }

/-- A provider that has no record yet; there may be a file at its path. -/
def World.initial (file : Option File) : World types where
  url := url
  provider := newProviderRemote runtime
  disk := { file }

end SingBox.Provider.Remote
