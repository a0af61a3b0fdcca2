import SingBox.Lib.Machine
import SingBox.Provider.Cached

/-! # Conditional requests

A provider that sends an `If-None-Match` asks whether the content that it has in force is still
the one of that tag. This is right if the options in force were parsed from a response with the
tag, which has to survive failed fetches, failed writes and restarts.

`Confirms` is the condition on the steps of a run under which every tag is sent for the content
that came with it.
-/

namespace SingBox.Provider.Remote

open Lib.Machine List

variable {types : Types} (runtime : Runtime types)
  (config : Config types)

/-! ## The property -/

/-- The responses that a step brings. -/
def Event.responses : Event → List Response
  | .fetch call =>
    match call.outcome with
    | .failure => []
    | .response response => [response]
  | .restart .. => []

/-- A provider, and the responses that it has met. -/
structure History (types : Types) where
  world : World types
  responses : List Response := []

def History.step (history : History types) (event : Event) : Option (History types) :=
  some ⟨Remote.step runtime config history.world event, history.responses ++ event.responses⟩

/-- The options were parsed from a response with this tag. -/
def Genuine (responses : List Response) (etag : Text) (servers : Servers types) : Prop :=
  ∃ response ∈ responses, response.status = 200 ∧ response.etag = etag ∧ response.servers runtime config = some servers

variable (history : History types)

/-- A request that carries a tag asks for the options in force. -/
def AsksForOptionsInForce : Prop :=
  ∀ etag, history.world.provider.ifNoneMatch = some etag →
    Genuine runtime config history.responses etag history.world.provider.servers

/-! ## The condition -/

variable (provider : ProviderRemote types)

/-- The hash of the provider is that of a file with the options in force. -/
def HashInForce : Prop :=
  ∃ info, provider.hash = runtime.makeHash (cacheText info (runtime.marshal provider.servers))

/-- A response that is parsed has a tag, if one is held; one that is not has no other tag. -/
def TagsContent (response : Response) : Prop :=
  if (response.servers runtime config).isSome then response.etag ≠ [] ∨ provider.lastEtag = []
  else response.readProviderContent = none ∨ response.etag = [] ∨ response.etag = provider.lastEtag

/-- A response that confirms the content finds the tag of the provider in its record, and its
options in its file. -/
def ConfirmsRecord (world : World types) : Prop :=
  config.path → config.cacheFile → ∀ record, world.disk.record = some record →
    record.lastEtag = [] ∨ record.lastEtag = world.provider.lastEtag ∧ HashInForce runtime world.provider

def Confirms (event : Event) : Prop :=
  ∀ response ∈ event.responses,
    (response.status = 200 → TagsContent runtime config history.world.provider response) ∧
      (response.status = 304 → ConfirmsRecord runtime config history.world)

/-! ## The invariant -/

/-- What a record stands for. -/
def Holds (record : SavedBinary types) (servers : Servers types) : Prop :=
  ∃ info text, Cached runtime servers info text ∧
    if config.path then record.hash = runtime.makeHash text else record.content = text

structure Invariant (history : History types) : Prop where
  provider : history.world.provider.lastEtag = [] ∨
    Genuine runtime config history.responses history.world.provider.lastEtag history.world.provider.servers
  record : ∀ record, history.world.disk.record = some record → record.lastEtag = [] ∨
    ∃ servers, Genuine runtime config history.responses record.lastEtag servers ∧ Holds runtime config record servers

variable {runtime config} {servers : Servers types}

theorem Genuine.append {responses : List Response} {etag : Text}
    (genuine : Genuine runtime config responses etag servers) (later : List Response) :
    Genuine runtime config (responses ++ later) etag servers := by
  obtain ⟨response, isMember, isGenuine⟩ := genuine
  exact ⟨response, mem_append_left _ isMember, isGenuine⟩

variable {history : History types} {world : World types} {contentRaw : Text}

theorem Invariant.asks (invariant : Invariant runtime config history) : AsksForOptionsInForce runtime config history := by
  intro etag isEtag
  unfold ProviderRemote.ifNoneMatch at isEtag
  split at isEtag
  · rename_i held
    cases isEtag
    exact invariant.provider.resolve_left held
  · cases isEtag

/-! ## Starting again -/

section Start

variable (runtime config)

/-- Loading sets a tag only together with options. -/
theorem loadFromContent_cases (provider : ProviderRemote types) (content : Text)
    (lastUpdated : Time) (lastEtag : Text) :
    let loaded := loadFromContent runtime provider content lastUpdated lastEtag
    loaded.1.lastEtag = provider.lastEtag ∨
      loaded.2 = .ok true ∧ loaded.1.lastEtag = lastEtag ∧
        parseBoxSubscription runtime (decodeContent runtime content).1 = some loaded.1.servers := by
  unfold loadFromContent
  dsimp only
  split
  · exact .inl rfl
  · rename_i servers isServers
    exact .inr ⟨rfl, rfl, isServers⟩

/-- The provider has the tag of the record, and the options of a text that the record stands for. -/
def LoadedFrom (record : SavedBinary types) (provider : ProviderRemote types) : Prop :=
  provider.lastEtag = record.lastEtag ∧ ∃ text,
    parseBoxSubscription runtime (decodeContent runtime text).1 = some provider.servers ∧
      if config.path then record.hash = runtime.makeHash text else record.content = text

variable (disk : Disk types) (readFails : Bool)

/-- A provider without a tag is given one only by loading its record. -/
theorem loadCached_cases {provider : ProviderRemote types} {record : Option (SavedBinary types)}
    (fresh : provider.lastEtag = []) (isHash : ∀ saved ∈ record, provider.hash = saved.hash) :
    let loaded := loadCached runtime config provider disk record readFails
    loaded.1.lastEtag = [] ∨ loaded.2 = .ok true ∧ ∃ saved ∈ record, LoadedFrom runtime config saved loaded.1 := by
  unfold loadCached
  split
  · rename_i path
    unfold loadFromFile
    split
    · exact .inl fresh
    · split
      · exact .inl fresh
      · rename_i file isFile
        split
        · exact .inl fresh
        · cases record with
          | none =>
            rcases loadFromContent_cases runtime provider file.content file.modTime [] with same | loaded
            · exact .inl (same.trans fresh)
            · exact .inl loaded.2.1
          | some saved =>
            dsimp only
            split
            · rename_i sameHash
              rcases loadFromContent_cases runtime provider file.content saved.lastUpdated saved.lastEtag
                with same | loaded
              · exact .inl (same.trans fresh)
              · refine .inr ⟨loaded.1, saved, rfl, loaded.2.1, file.content, loaded.2.2, ?_⟩
                rw [if_pos path, ← isHash saved rfl, sameHash]
            · exact .inl fresh
  · rename_i noPath
    cases record with
    | none => exact .inl fresh
    | some saved =>
      dsimp only
      split
      · exact .inl fresh
      · split
        · exact .inl fresh
        · rcases loadFromContent_cases runtime provider saved.content saved.lastUpdated saved.lastEtag
            with same | loaded
          · exact .inl (same.trans fresh)
          · exact .inr ⟨loaded.1, saved, rfl, loaded.2.1, saved.content, loaded.2.2, (if_neg noPath).mpr rfl⟩

variable (url : Text)

theorem loadCacheFile_cases :
    let loaded := loadCacheFile runtime config (newProviderRemote runtime) url disk readFails
    loaded.1.lastEtag = [] ∨
      loaded.2 = .ok true ∧ ∃ record ∈ disk.record, LoadedFrom runtime config record loaded.1 := by
  unfold loadCacheFile
  split
  · refine (loadCached_cases runtime config disk readFails rfl (by simp)).imp_right ?_
    rintro ⟨-, _, ⟨⟩, -⟩
  · rename_i record isRecord
    have stored : disk.record = some record := by
      split at isRecord
      · exact isRecord
      · cases isRecord
    split
    · exact .inl rfl
    · rw [stored]
      exact loadCached_cases runtime config disk readFails rfl (by simp)

theorem start_cases (initial : Option Text) :
    let provider := start runtime config url disk readFails initial
    provider.lastEtag = [] ∨ ∃ record ∈ disk.record, LoadedFrom runtime config record provider := by
  have cases := loadCacheFile_cases runtime config disk readFails url
  unfold start
  split
  · rename_i provider isLoaded
    rw [isLoaded] at cases
    exact cases.imp_right And.right
  · rename_i provider result notLoaded isLoaded
    rw [isLoaded] at cases
    have none : provider.lastEtag = [] := cases.resolve_right fun loaded => notLoaded loaded.1
    left
    split
    · rw [← none]
      unfold loadInitialPath
      dsimp only
      split <;> rfl
    · exact none

end Start

/-! ## The steps -/

theorem Invariant.restart
    (invariant : Invariant runtime config history) (url : Text) (readFails : Bool) (initial : Option Text) :
    Invariant runtime config
      ⟨Remote.step runtime config history.world (.restart url readFails initial), history.responses⟩ := by
  refine ⟨?_, invariant.record⟩
  dsimp only [Remote.step]
  rcases start_cases runtime config history.world.disk readFails url initial with
    none | ⟨record, stored, isEtag, text, isServers, isText⟩
  · exact .inl none
  · rw [isEtag]
    rcases invariant.record record stored with none | ⟨servers, genuine, info, cachedText, cached, isCached⟩
    · exact .inl none
    · have same : text = cachedText := by
        split at isText
        · rename_i path
          rw [if_pos path] at isCached
          exact runtime.makeHash_injective (isText.symm.trans isCached)
        · rename_i noPath
          rw [if_neg noPath] at isCached
          exact isText.symm.trans isCached
      subst same
      rw [cached.servers_eq isServers]
      exact .inr genuine

theorem holds_newRecord {response : Response} (saved : config.path → HashInForce runtime world.provider) :
    Holds runtime config (newRecord runtime config world (response.contents runtime contentRaw)).stored
      world.provider.servers := by
  cases path : config.path with
  | true =>
    obtain ⟨info, isHash⟩ := saved path
    refine ⟨info, _, cached_cacheText runtime world.provider.servers info, ?_⟩
    simp [SavedBinary.stored, newRecord, path, isHash]
  | false =>
    refine ⟨_, _, cached_newRecord response contentRaw path rfl, ?_⟩
    simp [SavedBinary.stored, path]

/-- What the end of a successful `fetch` leaves of the tag, the options and the record. -/
theorem applied_spec (runtime : Runtime types) (config : Config types)
    (world : World types) (response : Response) (contentRaw : Text) (servers : Servers types) (call : Call) :
    let after := (applied runtime config world (response.contents runtime contentRaw) servers call).1
    after.provider.lastEtag = world.provider.lastEtag ∧ after.provider.servers = servers ∧
      (after.disk.record = world.disk.record ∨
        ∃ record, after.disk.record = some record ∧ record.lastEtag = world.provider.lastEtag ∧
          Holds runtime config record servers) := by
  unfold applied
  dsimp only
  rcases keepFile_cases runtime config _ (response.contents runtime contentRaw).info call with
    ⟨path, kept⟩ | ⟨path, ⟨file, failed⟩ | saved⟩
  · rw [kept]
    dsimp only
    split
    · rcases saveSubscription_cases _ _ call with failed | stored
      · rw [failed]
        exact ⟨rfl, rfl, .inl rfl⟩
      · rw [stored]
        exact ⟨rfl, rfl, .inr ⟨_, rfl, rfl, holds_newRecord fun isPath => by simp [path] at isPath⟩⟩
    · exact ⟨rfl, rfl, .inl rfl⟩
  · rw [failed]
    exact ⟨rfl, rfl, .inl rfl⟩
  · rw [saved]
    dsimp only
    split
    · rcases saveSubscription_cases _ _ call with failed | stored
      · rw [failed]
        exact ⟨rfl, rfl, .inl rfl⟩
      · rw [stored]
        exact ⟨rfl, rfl, .inr ⟨_, rfl, rfl, holds_newRecord fun _ => ⟨_, rfl⟩⟩⟩
    · exact ⟨rfl, rfl, .inl rfl⟩

theorem keepFile_keeps (runtime : Runtime types) (config : Config types)
    (world : World types) (info : Option SubscriptionInfo) (call : Call) :
    let after := (keepFile runtime config world info call).1
    after.provider.lastEtag = world.provider.lastEtag ∧ after.provider.servers = world.provider.servers ∧
      after.disk.record = world.disk.record := by
  rcases keepFile_cases runtime config world info call with ⟨_, kept⟩ | ⟨_, ⟨file, failed⟩ | saved⟩
  · rw [kept]
    exact ⟨rfl, rfl, rfl⟩
  · rw [failed]
    exact ⟨rfl, rfl, rfl⟩
  · rw [saved]
    exact ⟨rfl, rfl, rfl⟩

/-- A line is put in the place of another one only. -/
theorem Holds.confirmRecord {record : SavedBinary types}
    (holds : Holds runtime config record servers) (noPath : config.path = false)
    (world : World types) (response : Response) :
    Holds runtime config (Remote.confirmRecord runtime config world response record).stored servers := by
  obtain ⟨info, text, cached, isText⟩ := holds
  rw [if_neg (by simp [noPath])] at isText
  simp only [Remote.confirmRecord, noPath, Bool.false_eq_true, if_false, SavedBinary.stored, isText, cached.afterNewline]
  cases header : parseInfo response.userinfo with
  | none => exact ⟨info, text, cached, by simp [noPath, isText]⟩
  | some newInfo =>
    cases info with
    | none => exact ⟨none, text, cached, by simp [noPath, isText]⟩
    | some info => exact ⟨some newInfo, _, .line response.userinfo_newline header, by simp [noPath]⟩

/-- The record after a response that confirms the content: its tag stays, its hash is that of the
provider, and its content keeps the options. -/
theorem confirm_spec (runtime : Runtime types) (config : Config types)
    (world : World types) (response : Response) (call : Call) :
    let after := confirm runtime config world response call
    after.provider.lastEtag = world.provider.lastEtag ∧ after.provider.servers = world.provider.servers ∧
      (after.disk.record = world.disk.record ∨
        ∃ record saved, config.cacheFile ∧ world.disk.record = some record ∧ after.disk.record = some saved ∧
          saved.lastEtag = record.lastEtag ∧ (config.path → saved.hash = world.provider.hash) ∧
            (config.path = false → ∀ servers, Holds runtime config record servers → Holds runtime config saved servers)) := by
  unfold confirm
  dsimp only
  split
  · rename_i record isRecord
    obtain ⟨cacheFile, stored⟩ : config.cacheFile ∧ world.disk.record = some record := by
      split at isRecord
      · rename_i cacheFile
        exact ⟨cacheFile, isRecord⟩
      · cases isRecord
    rcases saveSubscription_cases _ _ call with failed | saved
    · rw [failed]
      exact ⟨rfl, rfl, .inl rfl⟩
    · rw [saved]
      refine ⟨rfl, rfl, .inr ⟨record, _, cacheFile, stored, rfl, ?_, ?_, ?_⟩⟩
      · exact confirmRecord_lastEtag runtime config _ response record
      · intro path
        simp [SavedBinary.stored, confirmRecord, path]
      · exact fun noPath servers holds => holds.confirmRecord noPath _ response
  · exact ⟨rfl, rfl, .inl rfl⟩

section Step

variable {history : History types}

/-- The tag that a response with a readable body leaves. -/
def takeEtag (world : World types) (response : Response) : World types :=
  if response.etag ≠ [] then { world with provider.lastEtag := response.etag } else world

theorem takeEtag_lastEtag (world : World types) (response : Response) :
    (takeEtag world response).provider.lastEtag = if response.etag ≠ [] then response.etag else world.provider.lastEtag := by
  unfold takeEtag
  split <;> rfl

theorem takeEtag_disk (world : World types) (response : Response) :
    (takeEtag world response).disk = world.disk := by
  unfold takeEtag
  split <;> rfl

section
variable (invariant : Invariant runtime config history)
include invariant

theorem Invariant.later (responses : List Response) (sameEtag : world.provider.lastEtag = history.world.provider.lastEtag)
    (sameServers : world.provider.servers = history.world.provider.servers)
    (sameRecord : world.disk.record = history.world.disk.record) :
    Invariant runtime config ⟨world, history.responses ++ responses⟩ := by
  constructor
  · rw [sameEtag, sameServers]
    exact invariant.provider.imp_right fun genuine => genuine.append responses
  · intro record stored
    rw [sameRecord] at stored
    refine (invariant.record record stored).imp_right ?_
    rintro ⟨servers, genuine, holds⟩
    exact ⟨servers, genuine.append responses, holds⟩

variable (response : Response)

theorem Invariant.notModified (call : Call) (meets : ConfirmsRecord runtime config history.world) :
    Invariant runtime config
      ⟨(Remote.notModified runtime config history.world response call).1, history.responses ++ [response]⟩ := by
  obtain ⟨keptEtag, keptServers, keptRecord⟩ := keepFile_keeps runtime config
    (confirm runtime config history.world response call) (parseInfo response.userinfo) call
  obtain ⟨sameEtag, sameServers, record⟩ := confirm_spec runtime config history.world response call
  have isEtag := keptEtag.trans sameEtag
  have isServers := keptServers.trans sameServers
  rcases record with sameRecord | ⟨record, saved, cacheFile, stored, isSaved, sameTag, isHash, keeps⟩
  · exact invariant.later [response] isEtag isServers (keptRecord.trans sameRecord)
  · have before := invariant.later [response] rfl rfl rfl
    refine ⟨?_, ?_⟩
    · dsimp only [Remote.notModified]
      rw [isEtag, isServers]
      exact before.provider
    · intro other isOther
      have isSame := (keptRecord.trans isSaved).symm.trans isOther
      cases isSame
      rw [sameTag]
      rcases before.record record stored with none | ⟨servers, genuine, holds⟩
      · exact .inl none
      · cases path : config.path with
        | false => exact .inr ⟨servers, genuine, keeps path servers holds⟩
        | true =>
          rcases meets path cacheFile record stored with none | ⟨held, info, inForce⟩
          · exact .inl none
          · rcases before.provider with none | genuineProvider
            · exact .inl (held.trans none)
            · rw [held]
              refine .inr ⟨_, genuineProvider, info, _, cached_cacheText runtime _ info, ?_⟩
              rw [if_pos path, isHash path, inForce]

theorem Invariant.applied (call : Call)
    (isOk : response.status = 200) (isParsed : response.servers runtime config = some servers)
    (meets : response.etag ≠ [] ∨ history.world.provider.lastEtag = []) :
    Invariant runtime config
      ⟨(Remote.applied runtime config (takeEtag history.world response) (response.contents runtime contentRaw) servers
        call).1, history.responses ++ [response]⟩ := by
  obtain ⟨isEtag, isServers, record⟩ := applied_spec runtime config (takeEtag history.world response) response contentRaw
    servers call
  have tagged : (takeEtag history.world response).provider.lastEtag = [] ∨
      Genuine runtime config (history.responses ++ [response]) (takeEtag history.world response).provider.lastEtag
        servers := by
    rw [takeEtag_lastEtag]
    split
    · exact .inr ⟨response, mem_append_right _ mem_cons_self, isOk, rfl, isParsed⟩
    · rename_i noEtag
      exact .inl (meets.resolve_left noEtag)
  constructor
  · rw [isEtag, isServers]
    exact tagged
  · intro other isOther
    rcases record with same | ⟨saved, isSaved, sameTag, holds⟩
    · rw [same, takeEtag_disk] at isOther
      exact (invariant.later [response] rfl rfl rfl).record other isOther
    · cases isSaved.symm.trans isOther
      rw [sameTag]
      exact tagged.imp_right fun genuine => ⟨servers, genuine, holds⟩

end

theorem Invariant.fetch (invariant : Invariant runtime config history) (call : Call)
    (meets : Confirms runtime config history (.fetch call)) :
    Invariant runtime config
      ⟨(Remote.fetch runtime config history.world call).1, history.responses ++ (Event.fetch call).responses⟩ := by
  obtain ⟨outcome, faults, now⟩ := call
  cases outcome with
  | failure => exact invariant.later [] rfl rfl rfl
  | response response =>
    obtain ⟨meetsOk, meetsConfirmed⟩ := meets response mem_cons_self
    simp only [Remote.fetch, Event.responses]
    split
    · rename_i isOk
      have tags := meetsOk isOk
      rw [TagsContent] at tags
      split
      · exact invariant.later [response] rfl rfl rfl
      · rename_i contentRaw isRead
        have isParsed : response.servers runtime config =
            updateProviderFromContent runtime config (response.contents runtime contentRaw).content := by
          rw [Response.servers, isRead, Option.bind_some]
        split
        · rename_i noServers
          rw [isParsed, noServers, isRead] at tags
          have same := tags.resolve_left (by simp)
          refine invariant.later [response] ?_ ?_ ?_
          · change (takeEtag history.world response).provider.lastEtag = _
            rw [takeEtag_lastEtag]
            split
            · rename_i tagged
              exact same.resolve_left tagged
            · rfl
          · split <;> rfl
          · split <;> rfl
        · rename_i servers isServers
          rw [isParsed, isServers] at tags
          exact invariant.applied response _ isOk (isParsed.trans isServers) tags
    · split
      · rename_i isConfirmed
        exact invariant.notModified response _ (meetsConfirmed isConfirmed)
      · exact invariant.later [response] rfl rfl rfl

end Step

/-! ## Runs -/

/-- In every run whose steps meet the condition, every request with a tag asks for the options
that came with it. -/
theorem ifNoneMatch_genuine (runtime : Runtime types)
    (config : Config types) (url : Text) (file : Option File) (events : List Event)
    (confirms : EveryStep (History.step runtime config) (Confirms runtime config) ⟨.initial runtime url file, []⟩ events) :
    EveryState (History.step runtime config) (AsksForOptionsInForce runtime config) ⟨.initial runtime url file, []⟩
      events := by
  refine everyState_of_everyStep (fun _ => Invariant.asks) ?_ ⟨.inl rfl, fun record stored => by cases stored⟩ confirms
  rintro history event next invariant ⟨⟩ meets
  cases event with
  | fetch call => exact invariant.fetch call meets
  | restart url readFails initial =>
    rw [Event.responses, append_nil]
    exact invariant.restart url readFails initial

/-! ## Runs that fail -/

abbrev switchTypes : Types := ⟨Bool, Empty, Text⟩

/-- Options that are lists of switches, with JSON, base64 and hashes that are as simple as they
may be. -/
def switches : Runtime switchTypes where
  decodeString text := if '{' ∈ text then none else some text
  decodeString_nil := rfl
  decodeString_brace _ brace := if_pos brace
  marshal servers := '{' :: servers.outbounds.map fun switch => if switch then '1' else '0'
  marshal_brace _ := List.mem_cons_self
  marshal_newline servers isMember := by
    simp only [List.mem_cons, List.mem_map] at isMember
    rcases isMember with isBrace | ⟨switch, _, isSwitch⟩
    · cases isBrace
    · cases switch <;> cases isSwitch
  unmarshal
    | '{' :: text => some { outbounds := text.map (· = '1') }
    | _ => none
  unmarshal_nil := rfl
  unmarshal_marshal
    | ⟨outbounds, []⟩ => by
      have same : (fun char => decide (char = '1')) ∘ (fun switch : Bool => if switch then '1' else '0') = id := by
        funext switch
        cases switch <;> rfl
      simp [same]
  makeHash := id
  makeHash_injective := Function.injective_id
  zeroHash := []
  urlHash url := 'h' :: url
  urlHash_ne_nil _ := List.cons_ne_nil _ _

def switchConfig (path : Bool) : Config switchTypes where
  path := path
  cacheFile := true
  outboundTag switch := if switch then ['1'] else ['0']
  endpointTag := nofun

def answer (status : Nat) (etag body : Text) (faults : Faults := {}) : Event :=
  .fetch { outcome := .response { status, etag, body := some body }, faults, now := 0 }

/-- The tags of the responses with these options. -/
def tagsOf (path : Bool) (responses : List Response) (servers : Servers switchTypes) : List Text :=
  (responses.filter fun response => response.status = 200 ∧
    (response.servers switches (switchConfig path)).map (·.outbounds) = some servers.outbounds).map (·.etag)

/-- A run that ends with a tag none of whose responses had the options in force. -/
theorem not_everyState {path : Bool} {events : List Event} {final : History switchTypes} (etag : Text)
    (runs : Lib.Machine.run (History.step switches (switchConfig path)) ⟨.initial switches [] none, []⟩ events = some final)
    (asks : final.world.provider.ifNoneMatch = some etag)
    (notGenuine : etag ∉ tagsOf path final.responses final.world.provider.servers) :
    ¬EveryState (History.step switches (switchConfig path)) (AsksForOptionsInForce switches (switchConfig path))
      ⟨.initial switches [] none, []⟩ events := by
  intro everyState
  obtain ⟨response, isMember, isOk, isTag, isParsed⟩ := everyState.final runs etag asks
  exact notGenuine (mem_map.mpr ⟨response, mem_filter.mpr ⟨isMember, by simp [isOk, isParsed]⟩, isTag⟩)

/-- The tag of a response that cannot be parsed, the tag that is kept when there is none with new
options, and the tag in a record that a failed save has left behind. -/
theorem tags_without_their_options :
    ¬EveryState (History.step switches (switchConfig false)) (AsksForOptionsInForce switches (switchConfig false))
        ⟨.initial switches [] none, []⟩ [answer 200 ['a'] ['{', '1'], answer 200 ['b'] []] ∧
      ¬EveryState (History.step switches (switchConfig false)) (AsksForOptionsInForce switches (switchConfig false))
        ⟨.initial switches [] none, []⟩ [answer 200 ['a'] ['{', '1'], answer 200 [] ['{', '0']] ∧
      ¬EveryState (History.step switches (switchConfig true)) (AsksForOptionsInForce switches (switchConfig true))
        ⟨.initial switches [] none, []⟩
        [answer 200 ['a'] ['{', '1'], answer 200 ['b'] ['{', '0'] { saveSubscription := true }, answer 304 [] [],
          .restart [] false none] := by
  refine ⟨not_everyState ['b'] rfl rfl ?_, not_everyState ['a'] rfl rfl ?_, not_everyState ['a'] rfl rfl ?_⟩
  · decide
  · decide
  · decide

/-- A response with a tag, one that confirms it, and a restart. -/
theorem ifNoneMatch_genuine_confirmed :
    let start : History switchTypes := ⟨.initial switches [] none, []⟩
    let events := [answer 200 ['a'] ['{', '1'], answer 304 [] [], .restart [] false none]
    EveryState (History.step switches (switchConfig true)) (AsksForOptionsInForce switches (switchConfig true)) start events ∧
      (Lib.Machine.run (History.step switches (switchConfig true)) start events).map (·.world.provider.ifNoneMatch) =
        some (some ['a']) := by
  refine ⟨ifNoneMatch_genuine switches (switchConfig true) [] none _ ?_, rfl⟩
  rintro _ ⟨⟩
  refine ⟨?_, ?_⟩
  · intro response isMember
    cases mem_singleton.mp isMember
    exact ⟨fun _ => .inl (by decide), fun isOther => absurd isOther (by decide)⟩
  · rintro _ ⟨⟩
    refine ⟨?_, ?_⟩
    · intro response isMember
      cases mem_singleton.mp isMember
      refine ⟨fun isOther => absurd isOther (by decide), fun _ _ _ record stored => .inr ?_⟩
      cases stored
      exact ⟨rfl, none, rfl⟩
    · rintro _ ⟨⟩
      exact ⟨nofun, trivial⟩

end SingBox.Provider.Remote
