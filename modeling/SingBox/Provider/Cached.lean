import Mathlib.Data.List.TakeWhile
import SingBox.Provider.Remote

/-! # Cached contents

A remote provider stores its options as JSON, with the subscription info on a line in front of
them if it has one. `Cached` is the relation between the options, the info and such a text, and
this module says what `loadCacheFile` makes of a text in that relation.
-/

open List Option

namespace SingBox.Provider.Remote

variable {line : Text}
variable {types : Types} (runtime : Runtime types)

/-- A text that `fetch` stores for some options, with or without an info. -/
inductive Cached (servers : Servers types) : Option SubscriptionInfo → Text → Prop where
  | plain : Cached servers none (runtime.marshal servers)
  | line {infoStr : Text} {info : SubscriptionInfo} (oneLine : '\n' ∉ infoStr) (isInfo : parseInfo infoStr = some info) :
      Cached servers (some info) (infoStr ++ '\n' :: runtime.marshal servers)

variable {runtime} {servers : Servers types} {info : Option SubscriptionInfo} {text : Text}

/-! ## Decoding -/

theorem decodeBase64URLSafe_of_brace (runtime : Runtime types) (brace : '{' ∈ text) :
    decodeBase64URLSafe runtime text = text := by
  rw [decodeBase64URLSafe, runtime.decodeString_brace, getD_none]
  exact mem_filterMap.mpr ⟨'{', brace, by decide⟩

theorem decodeBase64URLSafe_nil : decodeBase64URLSafe runtime [] = [] := by
  rw [decodeBase64URLSafe, filterMap_nil, runtime.decodeString_nil, getD_some]

theorem inLine (oneLine : '\n' ∉ line) : ∀ char ∈ line, decide (char ≠ '\n') := by
  intro char isMember
  exact decide_eq_true fun isBreak => oneLine (isBreak ▸ isMember)

theorem getFirstLine_cons (oneLine : '\n' ∉ line) (others : Text) :
    getFirstLine (line ++ '\n' :: others) = (line, others) := by
  rw [getFirstLine, takeWhile_append_of_pos (inLine oneLine), dropWhile_append_of_pos (inLine oneLine)]
  simp

theorem getFirstLine_of_oneLine (oneLine : '\n' ∉ line) : getFirstLine line = (line, []) := by
  have taken := @takeWhile_append_of_pos _ _ line [] (inLine oneLine)
  have dropped := @dropWhile_append_of_pos _ _ line [] (inLine oneLine)
  simp only [append_nil, takeWhile_nil, dropWhile_nil] at taken dropped
  rw [getFirstLine, taken, dropped, tail_nil]

section
variable (cached : Cached runtime servers info text)
include cached

theorem Cached.brace : '{' ∈ text := by
  cases cached with
  | plain => exact runtime.marshal_brace servers
  | line => exact mem_append_right _ (mem_cons_of_mem _ (runtime.marshal_brace servers))

theorem Cached.isSome_iff : info.isSome ↔ '\n' ∈ text := by
  cases cached with
  | plain => simp [runtime.marshal_newline servers]
  | line => simp

theorem Cached.decodeContent (told : info = none → parseInfo (runtime.marshal servers) = none) :
    decodeContent runtime text = (runtime.marshal servers, info) := by
  have decoded := decodeBase64URLSafe_of_brace runtime cached.brace
  cases cached with
  | plain =>
    rw [Remote.decodeContent, decoded]
    simp [getFirstLine_of_oneLine (runtime.marshal_newline servers), told rfl]
  | line oneLine isInfo =>
    rw [Remote.decodeContent, decoded]
    simp [getFirstLine_cons oneLine, isInfo, decodeBase64URLSafe_of_brace runtime (runtime.marshal_brace servers)]

end

theorem Cached.decodeContent_mistaken (cached : Cached runtime servers none text)
    (mistaken : parseInfo (runtime.marshal servers) ≠ none) : (Remote.decodeContent runtime text).1 = [] := by
  cases cached with
  | plain =>
    obtain ⟨info, isInfo⟩ := ne_none_iff_exists'.mp mistaken
    rw [Remote.decodeContent, decodeBase64URLSafe_of_brace runtime (runtime.marshal_brace servers)]
    simp [getFirstLine_of_oneLine (runtime.marshal_newline servers), isInfo, decodeBase64URLSafe_nil]

theorem parseBoxSubscription_marshal (servers : Servers types) :
    parseBoxSubscription runtime (runtime.marshal servers) = if servers.isEmpty then none else some servers := by
  rw [parseBoxSubscription, runtime.unmarshal_marshal]
  cases isEmpty : servers.isEmpty <;> simp [isEmpty]

/-- Whatever is loaded from a cached text is what was stored. -/
theorem Cached.servers_eq (cached : Cached runtime servers info text) {loaded : Servers types}
    (isLoaded : parseBoxSubscription runtime (Remote.decodeContent runtime text).1 = some loaded) :
    loaded = servers := by
  by_cases told : info = none → parseInfo (runtime.marshal servers) = none
  · rw [cached.decodeContent told, parseBoxSubscription_marshal] at isLoaded
    split at isLoaded
    · cases isLoaded
    · exact (Option.some.inj isLoaded).symm
  · obtain ⟨rfl, mistaken⟩ := Classical.not_imp.mp told
    rw [cached.decodeContent_mistaken mistaken, parseBoxSubscription, runtime.unmarshal_nil] at isLoaded
    cases isLoaded

/-! ## Storing -/

theorem cached_cacheText (runtime : Runtime types) (servers : Servers types)
    (info : Option SubscriptionInfo) : Cached runtime servers info (cacheText info (runtime.marshal servers)) := by
  cases info with
  | none => exact .plain
  | some info => exact .line info.line_newline (parseInfo_line info)

theorem Response.contents_info {response : Response} {contentRaw : Text} {info : SubscriptionInfo}
    (isInfo : (response.contents runtime contentRaw).info = some info) :
    '\n' ∉ (response.contents runtime contentRaw).infoStr ∧
      parseInfo (response.contents runtime contentRaw).infoStr = some info := by
  revert isInfo
  unfold Response.contents
  dsimp only
  split
  · rename_i header
    rintro ⟨⟩
    exact ⟨response.userinfo_newline, header⟩
  · split
    · rename_i firstLine
      rintro ⟨⟩
      refine ⟨fun isMember => ?_, firstLine⟩
      have inFirstLine := mem_takeWhile_imp isMember
      simp at inFirstLine
    · rintro ⟨⟩

variable {config : Config types} {world : World types}

theorem cached_newRecord (response : Response) (contentRaw : Text) (noPath : config.path = false)
    (isServers : world.provider.servers = servers) :
    Cached runtime servers (response.contents runtime contentRaw).info
      (newRecord runtime config world (response.contents runtime contentRaw)).content := by
  simp only [newRecord, noPath, Bool.false_eq_true, if_false, isServers, Contents.withLine]
  split
  · rename_i info isInfo
    obtain ⟨oneLine, isParsed⟩ := Response.contents_info isInfo
    rw [isInfo]
    exact .line oneLine isParsed
  · rename_i noInfo
    rw [noInfo]
    exact .plain

theorem Cached.afterNewline (cached : Cached runtime servers info text) :
    afterNewline text = info.map fun _ => runtime.marshal servers := by
  cases cached with
  | plain => rw [Remote.afterNewline, if_neg (runtime.marshal_newline servers), map_none]
  | line oneLine isInfo =>
    have firstLine := getFirstLine_cons oneLine (runtime.marshal servers)
    rw [Remote.afterNewline, if_pos (mem_append_right _ mem_cons_self), map_some]
    exact congrArg some (congrArg Prod.snd firstLine)

theorem confirmRecord_lastEtag (runtime : Runtime types) (config : Config types)
    (world : World types) (response : Response) (record : SavedBinary types) :
    (confirmRecord runtime config world response record).lastEtag = record.lastEtag := by
  unfold confirmRecord
  split
  · rfl
  · split
    · split <;> rfl
    · rfl

/-- Without a path nothing happens; with one, the file is saved, or the provider is as before. -/
theorem keepFile_cases (runtime : Runtime types) (config : Config types)
    (world : World types) (info : Option SubscriptionInfo) (call : Call) :
    config.path = false ∧ keepFile runtime config world info call = (world, .ok ()) ∨
      config.path ∧
        ((∃ file, keepFile runtime config world info call = ({ world with disk.file := file }, .error .saveCacheFile)) ∨
          keepFile runtime config world info call =
            ({ world with
                disk.file := some ⟨cacheText info (runtime.marshal world.provider.servers), call.now⟩
                provider.hash := runtime.makeHash (cacheText info (runtime.marshal world.provider.servers)) }, .ok ())) := by
  unfold keepFile saveCacheFile
  split
  · rename_i path
    refine .inr ⟨path, ?_⟩
    split
    · exact .inl ⟨world.disk.file, rfl⟩
    · split
      · exact .inl ⟨_, rfl⟩
      · exact .inr rfl
  · rename_i noPath
    exact .inl ⟨by simpa using noPath, rfl⟩

theorem saveSubscription_cases (world : World types) (record : SavedBinary types) (call : Call) :
    saveSubscription world record call = world ∨
      saveSubscription world record call = { world with disk.record := some record.stored } := by
  unfold saveSubscription
  split
  · exact .inl rfl
  · exact .inr rfl

end SingBox.Provider.Remote
