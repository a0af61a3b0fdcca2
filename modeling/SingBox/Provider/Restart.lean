import SingBox.Provider.Etag

/-! # Restarts of a remote provider

A provider with a cache file is meant to start again with what it had: its options, the
subscription info, the tag and the time of the last update. The pieces are written at different
places, and a response that confirms the content rewrites some of them.

`Keeps` is the condition on the steps of a run under which the stored pieces stay in step with
the provider; times come back in whole seconds.
-/

namespace SingBox.Provider.Remote

open Lib.Machine List Option

variable {types : Types} (runtime : Runtime types)
  (config : Config types)

/-! ## The property -/

/-- A provider, and whether one of its fetches has succeeded. -/
structure Session (types : Types) where
  world : World types
  succeeded : Bool := false

/-- `loadCacheFile` succeeds and restores what the provider has, with the time that is read from
the record. -/
def Restores (time : Time → Time) (session : Session types) : Prop :=
  let provider := session.world.provider
  let loaded := loadCacheFile runtime config (newProviderRemote runtime) session.world.url session.world.disk false
  session.succeeded →
    loaded.2 = .ok true ∧ loaded.1.servers = provider.servers ∧
      loaded.1.subscriptionInfo = provider.subscriptionInfo ∧ loaded.1.lastEtag = provider.lastEtag ∧
        loaded.1.lastUpdated = time provider.lastUpdated

def Session.step (session : Session types) (event : Event) : Option (Session types) :=
  some
    { world := Remote.step runtime config session.world event
      succeeded :=
        match event with
        | .fetch call => session.succeeded || (fetch runtime config session.world call).2.isOk
        | .restart .. => session.succeeded }

/-! ## The condition -/

/-- The text that is stored for a content that has been applied. -/
def storedText (contents : Contents) (servers : Servers types) : Text :=
  if config.path then cacheText contents.info (runtime.marshal servers)
  else contents.withLine (runtime.marshal servers)

/-- Options that can be read back: there are some, they are not taken for an info, and their text
is not too long. -/
structure Readable (contents : Contents) (servers : Servers types) : Prop where
  notEmpty : servers.isEmpty = false
  told : contents.info = none → parseInfo (runtime.marshal servers) = none
  short : (storedText runtime config contents servers).length ≤ maxProviderContentSize

variable (world : World types) (response : Response)

/-- A content that is applied can be read back; one that is not brings no other tag. -/
def KeepsApplied : Prop :=
  ∀ contentRaw, response.readProviderContent = some contentRaw →
    match updateProviderFromContent runtime config (response.contents runtime contentRaw).content with
    | some servers => Readable runtime config (response.contents runtime contentRaw) servers
    | none => world.disk.record = none ∨ response.etag = [] ∨ response.etag = world.provider.lastEtag

/-- A response that confirms the content finds a record. With a path, it brings the info that is
in the file; without one, it brings an info if there is one in the record. -/
def KeepsConfirmed : Prop :=
  ∃ record, world.disk.record = some record ∧
    if config.path then
      world.disk.file.map (·.content) =
        some (cacheText (parseInfo response.userinfo) (runtime.marshal world.provider.servers))
    else
      ((parseInfo response.userinfo).isSome ↔ '\n' ∈ record.content) ∧
        response.userinfo.length + record.content.length ≤ maxProviderContentSize

/-- All writes succeed, and a restart is one with the same URL and a readable file. -/
def Keeps (session : Session types) : Event → Prop
  | .fetch call =>
    call.faults = {} ∧ ∀ response ∈ (Event.fetch call).responses,
      (response.status = 200 → KeepsApplied runtime config session.world response) ∧
        (response.status = 304 → KeepsConfirmed runtime config session.world response)
  | .restart url readFails _ => url = session.world.url ∧ readFails = false

/-! ## The invariant -/

/-- The record, the file and the provider agree. -/
structure InStep (world : World types) (record : SavedBinary types) : Prop where
  urlHash : record.urlHash = runtime.urlHash world.url
  lastEtag : record.lastEtag = world.provider.lastEtag
  lastUpdated : record.lastUpdated = world.provider.lastUpdated.wholeSeconds
  notEmpty : world.provider.servers.isEmpty = false
  text : ∃ info text, Cached runtime world.provider.servers info text ∧
    info.getD {} = world.provider.subscriptionInfo ∧
    (info = none → parseInfo (runtime.marshal world.provider.servers) = none) ∧
    text.length ≤ maxProviderContentSize ∧
      if config.path then
        world.disk.file.map (·.content) = some text ∧ record.hash = runtime.makeHash text ∧
          world.provider.hash = runtime.makeHash text
      else record.content = text

structure Session.Invariant (session : Session types) : Prop where
  inStep : ∀ record, session.world.disk.record = some record → InStep runtime config session.world record
  stored : session.succeeded → session.world.disk.record ≠ none

variable {runtime config}

@[simp] theorem Time.wholeSeconds_wholeSeconds (time : Time) : time.wholeSeconds.wholeSeconds = time.wholeSeconds := by
  unfold Time.wholeSeconds
  rw [Int.mul_ediv_cancel _ (by decide)]

variable {servers : Servers types} {world : World types} {record : SavedBinary types} {call : Call}

theorem keepFile_of_path (path : config.path) (world : World types)
    (info : Option SubscriptionInfo) (noFaults : call.faults = {}) :
    keepFile runtime config world info call =
      ({ world with
          disk.file := some ⟨cacheText info (runtime.marshal world.provider.servers), call.now⟩
          provider.hash := runtime.makeHash (cacheText info (runtime.marshal world.provider.servers)) }, .ok ()) := by
  rw [keepFile, if_pos path, saveCacheFile, noFaults]
  rfl

theorem keepFile_of_noPath (noPath : config.path = false) (world : World types)
    (info : Option SubscriptionInfo) (call : Call) : keepFile runtime config world info call = (world, .ok ()) := by
  rw [keepFile, if_neg (by simp [noPath])]

theorem saveSubscription_of_noFaults (world : World types) (record : SavedBinary types)
    (noFaults : call.faults = {}) :
    saveSubscription world record call = { world with disk.record := some record.stored } := by
  rw [saveSubscription, noFaults]
  rfl

theorem inStep_applied (cacheFile : config.cacheFile) (world : World types) (response : Response)
    (contentRaw : Text) (noFaults : call.faults = {})
    (readable : Readable runtime config (response.contents runtime contentRaw) servers) :
    let after := (applied runtime config world (response.contents runtime contentRaw) servers call).1
    ∃ record, after.disk.record = some record ∧ InStep runtime config after record := by
  have short := readable.short
  cases path : config.path with
  | true =>
    simp only [applied, keepFile_of_path path _ _ noFaults, cacheFile, if_true, saveSubscription_of_noFaults _ _ noFaults]
    refine ⟨_, rfl, rfl, rfl, rfl, readable.notEmpty, _, _, cached_cacheText runtime servers _, rfl, readable.told, ?_, ?_⟩
    · rwa [storedText, if_pos path] at short
    · rw [if_pos path]
      refine ⟨rfl, ?_, rfl⟩
      simp [SavedBinary.stored, newRecord, path]
  | false =>
    simp only [applied, keepFile_of_noPath path, cacheFile, if_true, saveSubscription_of_noFaults _ _ noFaults]
    refine ⟨_, rfl, rfl, rfl, rfl, readable.notEmpty, _, _, cached_newRecord response contentRaw path rfl, rfl, readable.told,
      ?_, ?_⟩
    · simp only [storedText, path, Bool.false_eq_true, if_false] at short
      simpa [newRecord, path] using short
    · rw [if_neg (by simp [path])]
      rfl

section
variable (inStep : InStep runtime config world record) (cacheFile : config.cacheFile)
  (stored : world.disk.record = some record)
include inStep cacheFile stored

theorem InStep.loadCacheFile :
    Remote.loadCacheFile runtime config (newProviderRemote runtime) world.url world.disk false =
      ({ world.provider with hash := record.hash, lastUpdated := world.provider.lastUpdated.wholeSeconds }, .ok true) := by
  obtain ⟨info, text, cached, isInfo, told, short, isText⟩ := inStep.text
  have loaded : loadFromContent runtime { hash := record.hash } text record.lastUpdated record.lastEtag =
      ({ world.provider with hash := record.hash, lastUpdated := world.provider.lastUpdated.wholeSeconds }, .ok true) := by
    simp [loadFromContent, cached.decodeContent told, parseBoxSubscription_marshal, inStep.notEmpty,
      ProviderRemote.setInfo, isInfo, inStep.lastUpdated, inStep.lastEtag]
  simp only [Remote.loadCacheFile, cacheFile, if_true, stored, inStep.urlHash, ne_eq, not_true_eq_false, and_false,
    if_false, loadCached, newProviderRemote]
  split
  · rename_i path
    rw [if_pos path] at isText
    obtain ⟨file, isFile, rfl⟩ := map_eq_some_iff.mp isText.1
    simp only [loadFromFile, Bool.false_eq_true, if_false, isFile]
    rw [if_neg (Nat.not_lt.mpr short), if_pos isText.2.1, loaded]
  · rename_i noPath
    rw [if_neg noPath] at isText
    rw [isText, if_neg (ne_nil_of_mem cached.brace), if_neg (Nat.not_lt.mpr short), loaded]

/-- Starting again with what is in step changes the time only. -/
theorem InStep.restart (initial : Option Text) :
    InStep runtime config { world with provider := start runtime config world.url world.disk false initial } record := by
  have isStart : start runtime config world.url world.disk false initial =
      { world.provider with hash := record.hash, lastUpdated := world.provider.lastUpdated.wholeSeconds } := by
    rw [start, inStep.loadCacheFile cacheFile stored]
  rw [isStart]
  obtain ⟨info, text, cached, isInfo, told, short, isText⟩ := inStep.text
  refine ⟨inStep.urlHash, inStep.lastEtag, ?_, inStep.notEmpty, info, text, cached, isInfo, told, short, ?_⟩
  · rw [inStep.lastUpdated, Time.wholeSeconds_wholeSeconds]
  · split
    · rename_i path
      rw [if_pos path] at isText
      exact ⟨isText.1, isText.2.1, isText.2.1⟩
    · rename_i noPath
      rw [if_neg noPath] at isText
      exact isText

theorem InStep.notModified (response : Response) (noFaults : call.faults = {})
    (keeps : KeepsConfirmed runtime config world response) :
    let after := (Remote.notModified runtime config world response call).1
    ∃ record, after.disk.record = some record ∧ InStep runtime config after record := by
  obtain ⟨info, text, cached, isInfo, told, short, isText⟩ := inStep.text
  obtain ⟨other, isOther, unchanged⟩ := keeps
  cases stored.symm.trans isOther
  cases path : config.path with
  | true =>
    rw [if_pos path] at unchanged isText
    have isCacheText : text = cacheText (parseInfo response.userinfo) (runtime.marshal world.provider.servers) :=
      some.inj (isText.1.symm.trans unchanged)
    have sameInfo : parseInfo response.userinfo = none → info = none := by
      intro noInfo
      have oneLine : '\n' ∉ text := by
        rw [isCacheText, noInfo]
        exact runtime.marshal_newline _
      exact not_isSome_iff_eq_none.mp fun isSome => oneLine (cached.isSome_iff.mp isSome)
    simp only [Remote.notModified, confirm, cacheFile, if_true, stored, saveSubscription_of_noFaults _ _ noFaults,
      keepFile_of_path path _ _ noFaults]
    refine ⟨_, rfl, rfl, (confirmRecord_lastEtag runtime ..).trans inStep.lastEtag, rfl, inStep.notEmpty, _, _,
      cached_cacheText runtime _ _, rfl, fun noInfo => told (sameInfo noInfo), ?_, ?_⟩
    · rwa [← isCacheText]
    · rw [if_pos path]
      refine ⟨rfl, ?_, rfl⟩
      simp only [SavedBinary.stored, confirmRecord, path, if_true]
      rw [isText.2.2, isCacheText]
  | false =>
    rw [if_neg (by simp [path])] at unchanged isText
    obtain ⟨sameLine, newShort⟩ := unchanged
    rw [isText, ← cached.isSome_iff] at sameLine
    simp only [Remote.notModified, confirm, cacheFile, if_true, stored, saveSubscription_of_noFaults _ _ noFaults,
      keepFile_of_noPath path]
    refine ⟨_, rfl, rfl, (confirmRecord_lastEtag runtime ..).trans inStep.lastEtag, rfl, inStep.notEmpty,
      parseInfo response.userinfo, ?_⟩
    simp only [SavedBinary.stored, confirmRecord, path, Bool.false_eq_true, if_false, isText, cached.afterNewline]
    cases header : parseInfo response.userinfo with
    | none =>
      have noInfo : info = none := by
        rw [header] at sameLine
        exact not_isSome_iff_eq_none.mp (by simpa using sameLine)
      subst noInfo
      exact ⟨text, cached, trivial, told, short, isText⟩
    | some newInfo =>
      obtain ⟨oldInfo, rfl⟩ := isSome_iff_exists.mp (sameLine.mp (by rw [header]; rfl))
      refine ⟨_, .line response.userinfo_newline header, trivial, by simp, ?_, rfl⟩
      rw [isText] at newShort
      cases cached with
      | line =>
        simp only [length_append, length_cons] at newShort ⊢
        omega

end

/-! ## Runs -/

section Step

variable {session : Session types}

theorem Session.Invariant.same (invariant : session.Invariant runtime config) {error : FetchError} {succeeded : Bool}
    (isSame : succeeded = (session.succeeded || (Except.error error : Except FetchError Unit).isOk)) :
    Session.Invariant runtime config ⟨session.world, succeeded⟩ := by
  rw [isSame]
  exact ⟨invariant.inStep, fun succeeded => invariant.stored (by simpa [Except.toBool] using succeeded)⟩

/-- A record in step is all that the invariant asks for. -/
theorem Session.Invariant.of_inStep {succeeded : Bool}
    (inStep : ∃ record, world.disk.record = some record ∧ InStep runtime config world record) :
    Session.Invariant runtime config ⟨world, succeeded⟩ := by
  obtain ⟨record, stored, isInStep⟩ := inStep
  refine ⟨fun other isOther => ?_, fun _ isNone => ?_⟩
  · cases stored.symm.trans isOther
    exact isInStep
  · cases stored.symm.trans isNone

theorem Session.Invariant.fetch (invariant : session.Invariant runtime config) (cacheFile : config.cacheFile)
    (keeps : Keeps runtime config session (.fetch call)) :
    Session.Invariant runtime config
      ⟨(Remote.fetch runtime config session.world call).1,
        session.succeeded || (Remote.fetch runtime config session.world call).2.isOk⟩ := by
  obtain ⟨outcome, faults, now⟩ := call
  obtain ⟨noFaults, keepsResponse⟩ := keeps
  cases outcome with
  | failure => exact invariant.same rfl
  | response response =>
    obtain ⟨keepsOk, keepsConfirmed⟩ := keepsResponse response mem_cons_self
    simp only [Remote.fetch]
    split
    · rename_i isOk
      split
      · exact invariant.same rfl
      · rename_i contentRaw isRead
        have keepsApplied := keepsOk isOk contentRaw isRead
        split
        · rename_i noServers
          rw [noServers] at keepsApplied
          rcases keepsApplied with noRecord | noEtag | sameEtag
          · refine ⟨fun record stored => ?_, fun succeeded => ?_⟩
            · exact absurd (takeEtag_disk session.world response ▸ stored) (by simp [noRecord])
            · have stored := invariant.stored (by simpa [Except.toBool] using succeeded)
              exact absurd noRecord stored
          · rw [if_neg (by simp [noEtag])]
            exact invariant.same rfl
          · rw [sameEtag, ite_self]
            exact invariant.same rfl
        · rename_i servers isServers
          rw [isServers] at keepsApplied
          exact .of_inStep (inStep_applied cacheFile _ response contentRaw noFaults keepsApplied)
    · split
      · rename_i isConfirmed
        obtain ⟨record, stored, _⟩ := keepsConfirmed isConfirmed
        exact .of_inStep ((invariant.inStep record stored).notModified cacheFile stored response noFaults
          (keepsConfirmed isConfirmed))
      · exact invariant.same rfl

end Step

theorem Session.Invariant.restores {session : Session types} (invariant : session.Invariant runtime config)
    (cacheFile : config.cacheFile) : Restores runtime config Time.wholeSeconds session := by
  intro succeeded
  obtain ⟨record, stored⟩ := ne_none_iff_exists'.mp (invariant.stored succeeded)
  rw [(invariant.inStep record stored).loadCacheFile cacheFile stored]
  exact ⟨rfl, rfl, rfl, rfl, rfl⟩

/-- In every run whose steps meet the condition, starting again restores what the provider has,
with the time of the last update in whole seconds. -/
theorem restores_of_keeps (runtime : Runtime types) (config : Config types)
    (cacheFile : config.cacheFile) (url : Text) (file : Option File) (events : List Event)
    (keeps : EveryStep (Session.step runtime config) (Keeps runtime config) ⟨.initial runtime url file, false⟩ events) :
    EveryState (Session.step runtime config) (Restores runtime config Time.wholeSeconds)
      ⟨.initial runtime url file, false⟩ events := by
  have initially : Session.Invariant runtime config ⟨.initial runtime url file, false⟩ := ⟨nofun, nofun⟩
  have restores : ∀ session, Session.Invariant runtime config session → Restores runtime config Time.wholeSeconds session :=
    fun _ invariant => invariant.restores cacheFile
  refine everyState_of_everyStep restores ?_ initially keeps
  rintro session event next invariant ⟨⟩ meets
  cases event with
  | fetch call => exact invariant.fetch cacheFile meets
  | restart url readFails initial =>
    obtain ⟨rfl, rfl⟩ := meets
    exact ⟨fun record stored => (invariant.inStep record stored).restart cacheFile stored initial, invariant.stored⟩

/-! ## Examples -/

/-- A response with a time and an info; nothing fails. -/
def answerAt (now : Time) (status : Nat) (body userinfo : Text) (oneLine : '\n' ∉ userinfo) : Event :=
  .fetch { outcome := .response { status, userinfo, userinfo_newline := oneLine, body := some body }, now }

/-- The time of an update comes back in whole seconds. -/
theorem not_restored :
    ¬EveryState (Session.step switches (switchConfig false)) (Restores switches (switchConfig false) id)
      ⟨.initial switches [] none, false⟩ [answerAt 1500000000 200 ['{', '1'] [] (by decide)] := by
  intro everyState
  obtain ⟨_, _, _, _, sameTime⟩ := everyState.final rfl rfl
  exact absurd sameTime (by decide)

/-- A content without an info, a response that confirms it, and a restart. -/
theorem restores_of_keeps_confirmed :
    EveryState (Session.step switches (switchConfig true)) (Restores switches (switchConfig true) Time.wholeSeconds)
      ⟨.initial switches [] none, false⟩
      [answerAt 1500000000 200 ['{', '1'] [] (by decide), answerAt 2500000000 304 [] [] (by decide),
        .restart [] false none] := by
  refine restores_of_keeps switches (switchConfig true) rfl [] none _ ?_
  rintro _ ⟨⟩
  refine ⟨⟨rfl, fun response isMember => ?_⟩, ?_⟩
  · cases mem_singleton.mp isMember
    refine ⟨fun _ contentRaw isRead => ?_, fun isOther => absurd isOther (by decide)⟩
    cases isRead
    exact ⟨by decide, fun _ => by decide, by decide⟩
  · rintro _ ⟨⟩
    refine ⟨⟨rfl, fun response isMember => ?_⟩, ?_⟩
    · cases mem_singleton.mp isMember
      exact ⟨fun isOther => absurd isOther (by decide), fun _ => ⟨_, rfl, rfl⟩⟩
    · rintro _ ⟨⟩
      exact ⟨⟨rfl, rfl⟩, trivial⟩

end SingBox.Provider.Remote
