import SingBox.Provider.Adapter
import SingBox.Outbound.Index
import SingBox.Lib.Machine

/-! # What a provider update installs

The manager has, under the resolved tags of the new list, the outbounds of its entries, except
that an update keeps an outbound of the old list if the entry that now has its tag is the one
that the old list had last under the entry's own tag. This is right as long as that entry is
the one the outbound was created from.
-/

open List Option Nat Function

namespace SingBox.Provider

open Lib Lib.Fresh Lib.Machine OutboundManager

variable {Payload : Type}

/-! ## Resolved tags are distinct -/

theorem numberedTag_injective (base : String) : Function.Injective (numberedTag base) := by
  intro first second same
  rw [numberedTag, numberedTag, String.append_left_inj, String.append_right_inj, repr_eq_ofList_toDigits,
    repr_eq_ofList_toDigits, String.ofList_inj] at same
  simpa using congrArg (ofDigitChars 10 · 0) same

theorem numberedTag_ne_empty (base : String) (number : Nat) : numberedTag base number ≠ "" := by
  intro empty
  have length := congrArg String.length empty
  simp [numberedTag] at length

theorem firstFree_numberedTag_ne_empty (base : String) (taken : List String) (fuel number : Nat) :
    firstFree (numberedTag base) taken fuel number ≠ "" := by
  induction fuel generalizing number with
  | zero => exact numberedTag_ne_empty base number
  | succ fuel ih =>
    rw [firstFree]
    split
    · exact ih _
    · exact numberedTag_ne_empty base number

/-- A resolved tag is new, and empty only if the tag to resolve is. -/
theorem resolveTag_fresh (seen : List String) {base : String} (named : base ≠ "") :
    resolveTag seen base ∉ seen ∧ resolveTag seen base ≠ "" := by
  unfold resolveTag
  split
  · exact ⟨firstFree_notMem (numberedTag_injective base) seen 2, firstFree_numberedTag_ne_empty _ _ _ _⟩
  next free => exact ⟨free, named⟩

section Tags

variable (providerTag : String) (index : Nat) (seen : List String) (entries : List (OutboundOptions Payload))

theorem length_resolveTagsFrom : (resolveTagsFrom providerTag index seen entries).length = entries.length := by
  induction entries generalizing index seen with
  | nil => rfl
  | cons entry entries ih => simp [resolveTagsFrom, ih]

theorem resolveTagsFrom_fresh : ∀ tag ∈ resolveTagsFrom providerTag index seen entries, tag ∉ seen ∧ tag ≠ "" := by
  induction entries generalizing index seen with
  | nil => simp [resolveTagsFrom]
  | cons entry entries ih =>
    intro tag isTag
    rcases mem_cons.mp isTag with rfl | isLater
    · refine resolveTag_fresh seen fun empty => ?_
      have length := congrArg String.length empty
      simp [baseTag] at length
    · exact (ih _ _ tag isLater).imp_left fun isNew isSeen => isNew (mem_cons_of_mem _ isSeen)

theorem nodup_resolveTagsFrom : (resolveTagsFrom providerTag index seen entries).Nodup := by
  induction entries generalizing index seen with
  | nil => exact nodup_nil
  | cons entry entries ih =>
    refine nodup_cons.mpr ⟨fun isLater => ?_, ih _ _⟩
    exact (resolveTagsFrom_fresh providerTag _ _ entries _ isLater).1 (by simp)

end Tags

/-! ## What the manager has under a tag -/

/-- Every call that `Create` makes succeeds. -/
def Succeeds (calls : CreateCalls) : Prop :=
  (∃ dependencies, calls.constructs = .ok dependencies) ∧ (∀ stage, calls.starts stage = .ok ()) ∧ calls.closes = .ok ()

variable {manager : OutboundManager}

theorem create_of_succeeds (indexed : manager.Indexed) {tag : String} (named : tag ≠ "")
    (type : String) {calls : CreateCalls} (succeeds : Succeeds calls) :
    ∃ next outbound, manager.Create tag type calls = (next, .ok ()) ∧ outbound.serial = manager.created ∧
      next.Indexed ∧ manager.created < next.created ∧
      ∀ other, next.outboundByTag.lookup other = if other = tag then some outbound else manager.outboundByTag.lookup other := by
  obtain ⟨⟨dependencies, constructs⟩, starts, closes⟩ := succeeds
  have getsThrough : manager.GetsThrough tag calls := ⟨named, fun _ => ⟨fun stage _ => starts stage, closes⟩⟩
  have creates := creates indexed tag type calls
  have next := indexed.perform (.create tag type calls)
  rw [perform] at next
  generalize created : manager.Create tag type calls = result at creates next
  cases creates with
  | refused _ _ _ _ stops => exact absurd getsThrough (stops (by simp [constructs, Except.toOption]))
  | unclosed _ _ _ _ stops => exact absurd getsThrough stops
  | added new made | replaced new made =>
    refine ⟨_, new, rfl, made.serial, next, lt_succ_self _, fun other => ?_⟩
    rw [← made.tag]
    exact Table.lookup_put _ _ _ _

theorem Remove_spec (indexed : manager.Indexed) (tag : String) (closes : Except String Unit) :
    (manager.Remove tag closes).1.created = manager.created ∧
      ∀ other, (manager.Remove tag closes).1.outboundByTag.lookup other =
        if other = tag then none else manager.outboundByTag.lookup other := by
  rcases Remove_cases indexed tag closes with
    ⟨absent, fails⟩ | ⟨outbound, found, ⟨_, fails⟩ | ⟨_, result, _, removes⟩⟩
  · rw [fails]
    refine ⟨rfl, fun other => ?_⟩
    split
    next same => rw [same, absent]
    · rfl
  · rw [fails]
    exact ⟨rfl, fun other => Table.lookup_erase _ _ _⟩
  · rw [removes]
    exact ⟨rfl, fun other => Table.lookup_erase _ _ _⟩

namespace Adapter

variable {adapter : Adapter Payload}

def lookup (adapter : Adapter Payload) (tag : String) : Option ManagedOutbound :=
  adapter.manager.outboundByTag.lookup tag

theorem removeAll (indexed : manager.Indexed) (removals : String → Except String Unit) (tags : List String) :
    let removed := tags.foldl (fun manager tag => (manager.Remove tag (removals tag)).1) manager
    removed.Indexed ∧ removed.created = manager.created ∧
      ∀ other, removed.outboundByTag.lookup other =
        if other ∈ tags then none else manager.outboundByTag.lookup other := by
  induction tags generalizing manager with
  | nil => exact ⟨indexed, rfl, by simp⟩
  | cons tag tags ih =>
    have next : (manager.Remove tag (removals tag)).1.Indexed := indexed.perform (.remove tag (removals tag))
    obtain ⟨laterIndexed, created, found⟩ := ih next
    obtain ⟨createdHere, foundHere⟩ := Remove_spec indexed tag (removals tag)
    refine ⟨laterIndexed, created.trans createdHere, fun other => ?_⟩
    rw [foldl_cons, found, foundHere]
    by_cases later : other ∈ tags <;> by_cases here : other = tag <;> simp [here]

/-! ## What an update should install -/

/-- The manager has the outbounds of the entries under their tags, and the provider lists them. -/
structure Installed (adapter : Adapter Payload) (entries : List (OutboundOptions Payload)) : Prop where
  length : adapter.outbounds.length = entries.length
  each : ∀ (index : Nat) (entry : OutboundOptions Payload) (tag : String), entries[index]? = some entry →
    (resolveOutboundTags adapter.providerTag entries)[index]? = some tag →
      ∃ outbound, adapter.lookup tag = some outbound ∧ adapter.origin outbound.serial = some entry ∧
        adapter.outbounds[index]? = some (.outbound outbound)

/-- An entry that takes over the resolved tag of an old entry, and is the one that the old list
had last under its own tag, is that old entry. -/
def Tells (providerTag : String) (oldOpts newOpts : List (OutboundOptions Payload)) : Prop :=
  ∀ (index oldIndex : Nat) (tag : String) (entry oldEntry : OutboundOptions Payload), newOpts[index]? = some entry →
    (resolveOutboundTags providerTag newOpts)[index]? = some tag → oldOpts[oldIndex]? = some oldEntry →
    (resolveOutboundTags providerTag oldOpts)[oldIndex]? = some tag → entry = oldOptByTag oldOpts entry.tag →
      oldEntry = entry

theorem length_resolveOutboundTags (providerTag : String) (entries : List (OutboundOptions Payload)) :
    (resolveOutboundTags providerTag entries).length = entries.length :=
  length_resolveTagsFrom providerTag 0 [] entries

variable {entries : List (OutboundOptions Payload)}

theorem Installed.activeOutboundTags (indexed : adapter.manager.Indexed) (installed : adapter.Installed entries) :
    adapter.activeOutboundTags = resolveOutboundTags adapter.providerTag entries := by
  have sameLength := length_resolveOutboundTags adapter.providerTag entries
  refine ext_getElem? fun index => ?_
  rw [Adapter.activeOutboundTags, getElem?_map]
  by_cases within : index < entries.length
  · have isEntry := getElem?_eq_getElem within
    have isTag := getElem?_eq_getElem (sameLength ▸ within)
    obtain ⟨outbound, found, _, lists⟩ := installed.each index _ _ isEntry isTag
    rw [lists, isTag]
    exact congrArg some ((indexed.registered _ _).mp found).2
  · have beyond := Nat.le_of_not_lt within
    rw [getElem?_eq_none (installed.length ▸ beyond), getElem?_eq_none (sameLength ▸ beyond)]
    rfl

/-- The outbound of a tag of the list, and the entry that it is of. -/
theorem Installed.of_tag (installed : adapter.Installed entries) {tag : String}
    (isTag : tag ∈ resolveOutboundTags adapter.providerTag entries) :
    ∃ (index : Nat) (entry : OutboundOptions Payload) (outbound : ManagedOutbound), entries[index]? = some entry ∧
      (resolveOutboundTags adapter.providerTag entries)[index]? = some tag ∧ adapter.lookup tag = some outbound ∧
      adapter.origin outbound.serial = some entry := by
  obtain ⟨index, isTag⟩ := mem_iff_getElem?.mp isTag
  have within : index < entries.length := by
    rw [← length_resolveOutboundTags adapter.providerTag entries]
    exact (List.getElem?_eq_some_iff.mp isTag).1
  have isEntry := List.getElem?_eq_getElem within
  obtain ⟨outbound, found, origin, _⟩ := installed.each index _ _ isEntry isTag
  exact ⟨index, _, outbound, isEntry, isTag, found, origin⟩

/-! ## The loop over the new entries -/

/-- The update keeps the outbound that is there. -/
def Keeps (activeTags : List String) (oldOpts : List (OutboundOptions Payload)) (item : Item Payload × String) : Prop :=
  item.2 ∈ activeTags ∧ item.1.entry = oldOptByTag oldOpts item.1.entry.tag

variable {activeTags : List String} {oldOpts : List (OutboundOptions Payload)}
  {item : Item Payload × String}

/-- The entry has got an outbound: a new one, or the one that was there. -/
structure Installs (activeTags : List String) (oldOpts : List (OutboundOptions Payload)) (before after : Adapter Payload)
    (item : Item Payload × String) (outbound : ManagedOutbound) : Prop where
  found : after.lookup item.2 = some outbound
  kept : Keeps activeTags oldOpts item → before.lookup item.2 = some outbound
  built : ¬Keeps activeTags oldOpts item → after.origin outbound.serial = some item.1.entry

theorem Installs.since {before since after : Adapter Payload} {items : List (Item Payload × String)}
    {outbounds : List ManagedOutbound} (same : ∀ item ∈ items, since.lookup item.2 = before.lookup item.2)
    (installs : List.Forall₂ (Installs activeTags oldOpts since after) items outbounds) :
    List.Forall₂ (Installs activeTags oldOpts before after) items outbounds := by
  rw [forall₂_iff_zip] at installs ⊢
  refine ⟨installs.1, fun {item outbound} isPair => ?_⟩
  obtain ⟨found, kept, built⟩ := installs.2 isPair
  exact ⟨found, fun keeps => same item (of_mem_zip isPair).1 ▸ kept keeps, built⟩

/-- What the loop leaves alone. -/
structure Extends (before after : Adapter Payload) (tags : List String) : Prop where
  providerTag : after.providerTag = before.providerTag
  indexed : after.manager.Indexed
  created : before.manager.created ≤ after.manager.created
  origin : ∀ serial < before.manager.created, after.origin serial = before.origin serial
  lookup : ∀ tag ∉ tags, after.lookup tag = before.lookup tag

variable [DecidableEq Payload] (endpoint : String → Bool) (oldOpts)

theorem install_one (indexed : adapter.manager.Indexed) (succeeds : Succeeds item.1.create) (named : item.2 ≠ "")
    (registered : item.2 ∈ activeTags → (adapter.lookup item.2).isSome) :
    let next := install endpoint activeTags oldOpts adapter item
    Extends adapter next [item.2] ∧ ∃ outbound, Installs activeTags oldOpts adapter next item outbound ∧
      next.outbounds = adapter.outbounds ++ [.outbound outbound] := by
  obtain ⟨⟨entry, create, close⟩, tag⟩ := item
  by_cases keeps : Keeps activeTags oldOpts (⟨entry, create, close⟩, tag)
  · obtain ⟨isActive, same⟩ := keeps
    obtain ⟨outbound, found⟩ := isSome_iff_exists.mp (registered isActive)
    have isThere : adapter.manager.Outbound endpoint tag = some (.outbound outbound) := by
      rw [OutboundManager.Outbound, show adapter.manager.outboundByTag.lookup tag = some outbound from found]
    have unchanged : install endpoint activeTags oldOpts adapter (⟨entry, create, close⟩, tag) =
        adapter.list tag (.outbound outbound) := by
      unfold install
      simp only [isThere]
      rw [if_neg (by simp [isActive, ← same])]
    rw [unchanged]
    exact ⟨⟨rfl, indexed, le_refl _, fun _ _ => rfl, fun _ _ => rfl⟩, outbound,
      ⟨found, fun _ => found, fun differs => absurd ⟨isActive, same⟩ differs⟩, rfl⟩
  · obtain ⟨manager, outbound, creates, serial, next, grows, found⟩ := create_of_succeeds indexed named entry.type succeeds
    have isThere : manager.Outbound endpoint tag = some (.outbound outbound) := by
      rw [OutboundManager.Outbound, found, if_pos rfl]
    have built : install endpoint activeTags oldOpts adapter (⟨entry, create, close⟩, tag) =
        { adapter with
          manager, origin := update adapter.origin adapter.manager.created (some entry) }.list tag
            (.outbound outbound) := by
      unfold install
      simp only [creates, isThere, elim_some]
      split
      · rfl
      · refine if_pos ?_
        by_contra both
        simp only [not_or, not_not] at both
        exact keeps both
    rw [built]
    refine ⟨⟨rfl, next, le_of_lt grows, fun older isOlder => ?_, fun other isOther => ?_⟩, outbound,
      ⟨?_, fun isKept => absurd isKept keeps, fun _ => ?_⟩, rfl⟩
    · exact update_of_ne (Nat.ne_of_lt isOlder) _ _
    · refine (found other).trans (if_neg ?_)
      simpa using isOther
    · exact (found tag).trans (if_pos rfl)
    · rw [serial]
      exact update_self _ _ _

theorem install_all {items : List (Item Payload × String)} (indexed : adapter.manager.Indexed)
    (succeeds : ∀ item ∈ items, Succeeds item.1.create) (named : ∀ item ∈ items, item.2 ≠ "")
    (distinct : (items.map Prod.snd).Nodup)
    (registered : ∀ item ∈ items, item.2 ∈ activeTags → (adapter.lookup item.2).isSome) :
    let next := items.foldl (install endpoint activeTags oldOpts) adapter
    Extends adapter next (items.map Prod.snd) ∧ ∃ outbounds : List ManagedOutbound,
      List.Forall₂ (Installs activeTags oldOpts adapter next) items outbounds ∧
      next.outbounds = adapter.outbounds ++ outbounds.map .outbound := by
  induction items generalizing adapter with
  | nil => exact ⟨⟨rfl, indexed, le_refl _, fun _ _ => rfl, fun _ _ => rfl⟩, [], .nil, by simp⟩
  | cons item items ih =>
    simp only [forall_mem_cons] at succeeds named registered
    rw [map_cons, nodup_cons] at distinct
    obtain ⟨first, outbound, installs, lists⟩ := install_one oldOpts endpoint indexed succeeds.1 named.1 registered.1
    -- The turn for this entry leaves the tags of the later entries alone.
    have unchanged (other : Item Payload × String) (isLater : other ∈ items) :
        (install endpoint activeTags oldOpts adapter item).lookup other.2 = adapter.lookup other.2 :=
      first.lookup _ fun same => distinct.1 (mem_singleton.mp same ▸ mem_map_of_mem isLater)
    obtain ⟨later, outbounds, installsLater, listsLater⟩ := ih first.indexed succeeds.2 named.2 distinct.2
      fun other isLater isActive => unchanged other isLater ▸ registered.2 other isLater isActive
    have notLater : item.2 ∉ items.map Prod.snd := distinct.1
    refine ⟨⟨later.providerTag.trans first.providerTag, later.indexed, le_trans first.created later.created,
      fun serial older => ?_, fun tag isOther => ?_⟩, outbound :: outbounds,
      .cons ⟨?_, installs.kept, fun differs => ?_⟩ (Installs.since unchanged installsLater), ?_⟩
    · rw [foldl_cons, later.origin serial (lt_of_lt_of_le older first.created), first.origin serial older]
    · rw [map_cons, mem_cons, not_or] at isOther
      rw [foldl_cons, later.lookup tag isOther.2, first.lookup tag (by simpa using isOther.1)]
    · rw [foldl_cons, later.lookup _ notLater]
      exact installs.found
    · have older := first.indexed.fresh outbound ((first.indexed.registered _ _).mp installs.found).1
      rw [foldl_cons, later.origin _ older]
      exact installs.built differs
    · rw [foldl_cons, listsLater, lists]
      simp

/-! ## The update -/

section
variable {items : List (Item Payload)} (indexed : adapter.manager.Indexed) (installed : adapter.Installed oldOpts)
  (succeeds : ∀ item ∈ items, Succeeds item.create) (removals : String → Except String Unit)
include indexed installed succeeds

theorem UpdateOutbounds_spec :
    let oldTags := resolveOutboundTags adapter.providerTag oldOpts
    let newTags := resolveOutboundTags adapter.providerTag (items.map (·.entry))
    let next := UpdateOutbounds endpoint adapter oldOpts items removals
    next.providerTag = adapter.providerTag ∧ next.manager.Indexed ∧
    (∀ serial < adapter.manager.created, next.origin serial = adapter.origin serial) ∧
    (∀ tag ∈ oldTags, tag ∉ newTags → next.lookup tag = none) ∧
    ∃ outbounds : List ManagedOutbound, next.outbounds = outbounds.map .outbound ∧
      List.Forall₂ (Installs oldTags oldOpts adapter next) (items.zip newTags) outbounds := by
  intro oldTags newTags next
  have active : adapter.activeOutboundTags = oldTags := installed.activeOutboundTags indexed
  have tags : (items.zip newTags).map Prod.snd = newTags := by
    refine map_snd_zip ?_
    rw [length_resolveOutboundTags, length_map]
  have distinct : ((items.zip newTags).map Prod.snd).Nodup := by
    rw [tags]
    exact nodup_resolveTagsFrom _ _ _ _
  obtain ⟨clearedIndexed, created, removed⟩ := removeAll indexed removals (adapter.activeOutboundTags.filter (· ∉ newTags))
  generalize isCleared : ({ adapter.removeUseless newTags removals with outbounds := [], outboundsByTag := {} } :
    Adapter Payload) = cleared
  have lookups (tag : String) :
      cleared.lookup tag = if tag ∈ oldTags ∧ tag ∉ newTags then none else adapter.lookup tag := by
    rw [← isCleared, ← active]
    refine (removed tag).trans ?_
    simp [Adapter.lookup]
  have unchanged (item : Item Payload × String) (isItem : item ∈ items.zip newTags) :
      cleared.lookup item.2 = adapter.lookup item.2 := by
    rw [lookups, if_neg fun gone => gone.2 (of_mem_zip isItem).2]
  have registered (item : Item Payload × String) (isItem : item ∈ items.zip newTags) (isActive : item.2 ∈ oldTags) :
      (cleared.lookup item.2).isSome := by
    rw [unchanged item isItem]
    obtain ⟨_, _, outbound, _, _, found, _⟩ := installed.of_tag isActive
    simp [found]
  have isNext : next = (items.zip newTags).foldl (install endpoint oldTags oldOpts) cleared := by
    rw [← isCleared, ← active]
    rfl
  obtain ⟨extending, outbounds, installs, lists⟩ := @install_all _ cleared _ oldOpts _ endpoint (items.zip newTags)
    (isCleared ▸ clearedIndexed) (fun item isItem => succeeds item.1 (of_mem_zip isItem).1)
    (fun item isItem => (resolveTagsFrom_fresh _ _ _ _ _ (of_mem_zip isItem).2).2) distinct registered
  rw [← isNext] at extending installs lists
  refine ⟨?_, extending.indexed, fun serial older => ?_, fun tag isOld isGone => ?_, outbounds, ?_,
    Installs.since unchanged installs⟩
  · rw [extending.providerTag, ← isCleared]
    rfl
  · rw [extending.origin serial, ← isCleared]
    · rfl
    · rw [← isCleared]
      exact created ▸ older
  · rw [extending.lookup tag (by rwa [tags]), lookups, if_pos ⟨isOld, isGone⟩]
  · rw [lists, ← isCleared]
    rfl

theorem installed_iff :
    (UpdateOutbounds endpoint adapter oldOpts items removals).Installed (items.map (·.entry)) ↔
      Tells adapter.providerTag oldOpts (items.map (·.entry)) := by
  obtain ⟨sameTag, nextIndexed, origin, _, outbounds, lists, installs⟩ :=
    UpdateOutbounds_spec oldOpts endpoint indexed installed succeeds removals
  generalize UpdateOutbounds endpoint adapter oldOpts items removals = next at *
  have sameLength := length_resolveOutboundTags adapter.providerTag (items.map (·.entry))
  -- The outbound that the update has for the entry of an index.
  have atIndex (index : Nat) (entry : OutboundOptions Payload) (tag : String)
      (isEntry : (items.map (·.entry))[index]? = some entry)
      (isTag : (resolveOutboundTags adapter.providerTag (items.map (·.entry)))[index]? = some tag) :
      ∃ item outbound, item.entry = entry ∧ outbounds[index]? = some outbound ∧
        Installs (resolveOutboundTags adapter.providerTag oldOpts) oldOpts adapter next (item, tag) outbound := by
    rw [List.getElem?_map, map_eq_some_iff] at isEntry
    obtain ⟨item, isItem, rfl⟩ := isEntry
    have isPair : (items.zip (resolveOutboundTags adapter.providerTag (items.map (·.entry))))[index]? = some (item, tag) :=
      List.getElem?_zip_eq_some.mpr ⟨isItem, isTag⟩
    obtain ⟨within, isPair⟩ := List.getElem?_eq_some_iff.mp isPair
    have installsHere := installs.get within (installs.length_eq ▸ within)
    rw [List.get_eq_getElem, isPair] at installsHere
    exact ⟨item, _, rfl, List.getElem?_eq_getElem _, installsHere⟩
  -- An outbound that is kept is still of the old entry.
  have keptOrigin (tag : String) (outbound : ManagedOutbound) (found : adapter.lookup tag = some outbound) :
      next.origin outbound.serial = adapter.origin outbound.serial :=
    origin _ (indexed.fresh outbound ((indexed.registered _ _).mp found).1)
  constructor
  · intro nextInstalled index oldIndex tag entry oldEntry isEntry isTag isOldEntry isOldTag isLast
    obtain ⟨outbound, found, isOrigin, _⟩ := nextInstalled.each index entry tag isEntry (sameTag ▸ isTag)
    obtain ⟨item, listed, rfl, _, installsHere⟩ := atIndex index entry tag isEntry isTag
    obtain ⟨oldOutbound, oldFound, oldOrigin, _⟩ := installed.each oldIndex oldEntry tag isOldEntry isOldTag
    have kept := installsHere.kept ⟨mem_of_getElem? isOldTag, isLast⟩
    cases oldFound.symm.trans kept
    cases found.symm.trans installsHere.found
    rw [keptOrigin tag _ oldFound, oldOrigin] at isOrigin
    exact some.inj isOrigin
  · intro tells
    have length : next.outbounds.length = (items.map (·.entry)).length := by
      rw [lists, length_map, ← installs.length_eq, length_zip, sameLength, length_map, min_self]
    refine ⟨length, fun index entry tag isEntry isTag => ?_⟩
    rw [sameTag] at isTag
    obtain ⟨item, outbound, rfl, isListed, installsHere⟩ := atIndex index entry tag isEntry isTag
    refine ⟨outbound, installsHere.found, ?_, by rw [lists, List.getElem?_map, isListed]; rfl⟩
    by_cases keeps : Keeps (resolveOutboundTags adapter.providerTag oldOpts) oldOpts (item, tag)
    · obtain ⟨oldIndex, oldEntry, oldOutbound, isOldEntry, isOldTag, oldFound, oldOrigin⟩ := installed.of_tag keeps.1
      cases oldFound.symm.trans (installsHere.kept keeps)
      rw [keptOrigin tag _ oldFound, oldOrigin,
        tells index oldIndex tag item.entry oldEntry isEntry isTag isOldEntry isOldTag keeps.2]
    · exact installsHere.built keeps

end

end Adapter

/-! ## Successive updates -/

/-- A new list, for which every `Create` succeeds. -/
structure Update (Payload : Type) where
  items : List (Item Payload)
  removals : String → Except String Unit := fun _ => .ok ()
  succeeds : ∀ item ∈ items, Succeeds item.create

def Update.entries (update : Update Payload) : List (OutboundOptions Payload) := update.items.map (·.entry)

/-- A provider, with the list of its last update. -/
structure ProviderState (Payload : Type) where
  adapter : Adapter Payload
  lastOutOpts : List (OutboundOptions Payload) := []

namespace ProviderState

variable [DecidableEq Payload]

/-- The manager may have served others before. -/
def start (providerTag defaultTag : String) (operations : List Operation) : ProviderState Payload where
  adapter := {
    providerTag
    manager := operations.foldl (fun manager operation => (manager.perform operation).1) { defaultTag } }

variable (endpoint : String → Bool) (state : ProviderState Payload)

def update (update : Update Payload) : ProviderState Payload where
  adapter := state.adapter.UpdateOutbounds endpoint state.lastOutOpts update.items update.removals
  lastOutOpts := update.entries

def step (update : Update Payload) : Option (ProviderState Payload) := some (state.update endpoint update)

/-- What is asked of an update. -/
structure InstallsNew (endpoint : String → Bool) (state : ProviderState Payload) (update : Update Payload) : Prop where
  distinct : (resolveOutboundTags state.adapter.providerTag update.entries).Nodup
  installed : (state.update endpoint update).adapter.Installed update.entries
  removed : ∀ outbound ∈ state.adapter.outbounds,
    outbound.tag ∉ resolveOutboundTags state.adapter.providerTag update.entries →
      ∀ holder ∈ (state.update endpoint update).adapter.manager.outbounds, holder.tag ≠ outbound.tag

structure UpToDate (state : ProviderState Payload) : Prop where
  indexed : state.adapter.manager.Indexed
  installed : state.adapter.Installed state.lastOutOpts

omit [DecidableEq Payload] in
theorem upToDate_start (providerTag defaultTag : String) (operations : List Operation) :
    (start providerTag defaultTag operations : ProviderState Payload).UpToDate := by
  refine ⟨?_, rfl, fun index entry tag isEntry => by simp [start] at isEntry⟩
  have indexed (manager : OutboundManager) (isIndexed : manager.Indexed) :
      (operations.foldl (fun manager operation => (manager.perform operation).1) manager).Indexed := by
    induction operations generalizing manager with
    | nil => exact isIndexed
    | cons operation operations ih => exact ih _ (isIndexed.perform operation)
  exact indexed _ (indexed_new defaultTag)

theorem UpToDate.installsNew_iff {endpoint : String → Bool} {state : ProviderState Payload} (upToDate : state.UpToDate)
    (update : Update Payload) :
    InstallsNew endpoint state update ↔ Adapter.Tells state.adapter.providerTag state.lastOutOpts update.entries := by
  have equivalent := Adapter.installed_iff _ endpoint upToDate.indexed upToDate.installed update.succeeds update.removals
  refine ⟨fun installs => equivalent.mp installs.installed, fun tells => ⟨?_, equivalent.mpr tells, ?_⟩⟩
  · exact nodup_resolveTagsFrom _ _ _ _
  · intro outbound isListed isGone holder isHolder sameTag
    obtain ⟨_, indexed, _, removed, _⟩ := Adapter.UpdateOutbounds_spec _ endpoint upToDate.indexed upToDate.installed
      update.succeeds update.removals
    have isOld : outbound.tag ∈ resolveOutboundTags state.adapter.providerTag state.lastOutOpts :=
      upToDate.installed.activeOutboundTags upToDate.indexed ▸ mem_map_of_mem isListed
    have absent := removed outbound.tag isOld isGone
    have found := (indexed.registered outbound.tag holder).mpr ⟨isHolder, sameTag⟩
    cases absent.symm.trans found

/-- The provider installs every new list exactly as long as the tags tell the entries that stay from those that do not. -/
theorem updates_install_iff (endpoint : String → Bool) (providerTag defaultTag : String) (operations : List Operation)
    (updates : List (Update Payload)) :
    EveryStep (step endpoint) (InstallsNew endpoint) (start providerTag defaultTag operations) updates ↔
      EveryStep (step endpoint)
        (fun state update => Adapter.Tells state.adapter.providerTag state.lastOutOpts update.entries)
        (start providerTag defaultTag operations) updates := by
  refine everyStep_iff_everyStep (fun state update upToDate => upToDate.installsNew_iff update)
    (fun state update next upToDate taken tells => ?_) (upToDate_start providerTag defaultTag operations) updates
  cases taken
  have installs := (@UpToDate.installsNew_iff _ _ endpoint _ upToDate update).mpr tells
  exact ⟨(Adapter.UpdateOutbounds_spec _ endpoint upToDate.indexed upToDate.installed update.succeeds update.removals).2.1,
    installs.installed⟩

def untagged (payload : String) : Item String where
  entry := { type := "socks", options := some payload }
  create := { constructs := .ok [] }

def firstList : Update String where
  items := [untagged "x", untagged "y"]
  succeeds := by simp [untagged, Succeeds]

def secondList : Update String where
  items := [untagged "y"]
  succeeds := by simp [untagged, Succeeds]

/-- The first of two entries without a tag goes, the second takes its tag, and its outbound is taken for that of the second. -/
theorem untagged_entry_keeps_outbound :
    ¬EveryStep (step fun _ => false) (InstallsNew fun _ => false) (start "p" "" []) [firstList, secondList] := by
  intro installs
  have second : InstallsNew (fun _ => false) ((start "p" "" []).update (fun _ => false) firstList) secondList :=
    ((installs _ rfl).2 _ rfl).1
  obtain ⟨outbound, found, origin, _⟩ := second.installed.each 0 (untagged "y").entry "p/0" rfl (by decide +kernel)
  have isOld : ((((start "p" "" []).update (fun _ => false) firstList).update (fun _ => false) secondList).adapter.lookup
      "p/0").bind (fun outbound => (((start "p" "" []).update (fun _ => false) firstList).update (fun _ => false)
        secondList).adapter.origin outbound.serial) = some (untagged "x").entry := by decide +kernel
  rw [found, bind_some, origin] at isOld
  exact absurd isOld (by decide)

end ProviderState

end SingBox.Provider
