import SingBox.Lib.Guard
import SingBox.Lib.Machine
import Mathlib.Data.List.Nodup

/-! # Members of groups with providers

`protocol/group/provider_members.go`: an update of a provider makes a group collect its members
anew. A selector, a URL test and a load balancer share the collection and differ in the tags
that they hand over as the configured ones, all of which they take from their dependencies.
-/

namespace SingBox.Group

open Lib.Guard Lib.Machine

/-! ## Configuration -/

inductive Kind where
  | selector
  | urlTest
  | loadBalance
deriving DecidableEq, Repr

/-- A group that has been started: `providerTags` are those of the providers it has found. The
regular expressions are the predicates that they match. -/
structure Options where
  kind : Kind
  tag : String
  outbounds : List String
  providerTags : List String
  udpOutbound : String := ""
  udpFallbackOutbound : String := ""
  «default» : String := ""
  exclude : Option (String → Bool) := none
  «include» : Option (String → Bool) := none

namespace Options

variable (options : Options)

/-- The dependencies that the constructor gives to the adapter. -/
def dependencies : List String :=
  match options.kind with
  | .selector =>
    let udp := if options.udpOutbound ≠ "" then [options.udpOutbound] else []
    let udpFallback := if options.udpFallbackOutbound ≠ "" then [options.udpFallbackOutbound] else []
    (options.outbounds ++ (udp ++ udpFallback)).eraseDups
  | .urlTest =>
    if options.udpOutbound ≠ "" ∨ options.udpFallbackOutbound ≠ "" then
      (options.outbounds ++ [options.udpOutbound, options.udpFallbackOutbound]).eraseDups
    else options.outbounds
  | .loadBalance => options.outbounds

def visibleDependencyTags : List String :=
  options.dependencies.filter fun tag => ¬(tag = options.udpOutbound ∨ tag = options.udpFallbackOutbound)

/-- The tags that `onProviderUpdated` hands over as those of the configured members. -/
def directTags : List String :=
  match options.kind with
  | .selector => options.visibleDependencyTags
  | .urlTest | .loadBalance => options.dependencies

def visible (tag : String) : Bool :=
  !(options.exclude.any (· tag)) && options.«include».all (· tag)

end Options

/-! ## Collecting the members -/

variable {Outbound : Type} (tagOf : Outbound → String)

/-- What a group finds outside at one moment: the outbound manager, which has an outbound under its
own tag, the outbounds of the providers, and the selection that the cache file has for it. -/
structure Managers where
  outbound : String → Option Outbound
  contents : String → List Outbound
  loadSelected : Option String := none
  tagged : ∀ tag detour, outbound tag = some detour → tagOf detour = tag

/-- `outboundsCache`: a provider that has been read has a list, which may be empty. -/
abbrev Cache (Outbound : Type) := String → Option (List Outbound)

variable {tagOf}

def collectDirect (managers : Managers tagOf) : Nat → List String → Except String (List Outbound)
  | _, [] => .ok []
  | index, tag :: tags =>
    match managers.outbound tag with
    | none => .error ("outbound " ++ index.repr ++ " not found: " ++ tag)
    | some detour => do
      let detours ← collectDirect managers (index + 1) tags
      return detour :: detours

/-- The outbounds of a provider that the expressions leave. -/
def visibleOutbounds (tagOf : Outbound → String) (options : Options) (detours : List Outbound) : List Outbound :=
  detours.filter fun detour => options.visible (tagOf detour)

def collectProviders (options : Options) (managers : Managers tagOf) (updatedTag : String) :
    List String → Cache Outbound → Except String (List Outbound × Cache Outbound)
  | [], newCache => .ok ([], newCache)
  | providerTag :: providerTags, newCache =>
    match if providerTag ≠ updatedTag then newCache providerTag else none with
    | some cachedOutbounds => do
      let (later, newCache) ← collectProviders options managers updatedTag providerTags newCache
      return (cachedOutbounds ++ later, newCache)
    | none =>
      if providerTag ∉ options.providerTags then .error ("outbound provider not found: " ++ providerTag)
      else do
        let cachedOutbounds := visibleOutbounds tagOf options (managers.contents providerTag)
        let (later, newCache) ← collectProviders options managers updatedTag providerTags
          (Function.update newCache providerTag (some cachedOutbounds))
        return (cachedOutbounds ++ later, newCache)

/-- What a group has after an update. A selector keeps its outbounds in a map: the list is the
one that the map is filled with, where the last outbound of a tag counts. -/
structure Members (Outbound : Type) where
  tags : List String := []
  outbounds : List Outbound := []
  outboundsCache : Cache Outbound := fun _ => none

variable (options : Options) (managers : Managers tagOf)

def collectProviderOutbounds (updatedTag : String)
    (directTags : List String) (outboundsCache : Cache Outbound) : Except String (Members Outbound) :=
  if updatedTag ∉ options.providerTags then .error ("outbound provider not found: " ++ updatedTag)
  else do
    let direct ← collectDirect managers 0 directTags
    let (provided, newCache) ← collectProviders options managers updatedTag options.providerTags outboundsCache
    let tags := directTags ++ provided.map tagOf
    if tags.isEmpty then
      match managers.outbound "Compatible" with
      | none => .error "fallback outbound not found: Compatible"
      | some detour => return { tags := [tagOf detour], outbounds := [detour], outboundsCache := newCache }
    else return { tags, outbounds := direct ++ provided, outboundsCache := newCache }

/-! ## Start and update -/

def Members.outboundByTag (tagOf : Outbound → String) (members : Members Outbound) (tag : String) : Option Outbound :=
  members.outbounds.reverse.find? fun detour => tagOf detour = tag

variable (members : Members Outbound)

def outboundSelect : Except String (Option Outbound) :=
  let selected := managers.loadSelected.filter fun selected =>
    selected ≠ "" ∧ selected ≠ options.udpOutbound ∧ selected ≠ options.udpFallbackOutbound
  match selected.bind (members.outboundByTag tagOf) with
  | some detour => .ok (some detour)
  | none =>
    if options.default ≠ "" then
      match members.outboundByTag tagOf options.default with
      | none => .error ("default outbound not found: " ++ options.default)
      | some detour => .ok (some detour)
    else .ok (members.tags.head?.bind (members.outboundByTag tagOf))

/-- A group without configured outbounds starts with `Compatible`. -/
def startMembers (tags : List String) (outbounds : List Outbound) : Except String (Members Outbound) :=
  if tags.isEmpty then
    match managers.outbound "Compatible" with
    -- a URL test and a load balancer do not check this and panic
    | none => .error "fallback outbound not found: Compatible"
    | some detour => .ok { members with tags := [tagOf detour], outbounds := [detour] }
  else .ok { members with tags, outbounds }

/-- A URL test and a load balancer start with the configured outbounds and not with the tags that
they use in an update. -/
def start : Except String (Members Outbound) := do
  let tags := match options.kind with
    | .selector => options.visibleDependencyTags
    | .urlTest | .loadBalance => options.outbounds
  ensure (tags.length + options.providerTags.length ≠ 0) "missing outbound and provider tags"
  let outbounds ← collectDirect managers 0 tags
  let members ← startMembers managers members tags outbounds
  if options.kind = .selector then
    let _ ← outboundSelect options managers members
  return members

/-- A selector takes the new members only if it can select one of them. -/
def onProviderUpdated (updatedTag : String) : Except String (Members Outbound) := do
  let members ← (collectProviderOutbounds options managers updatedTag options.directTags
    members.outboundsCache).mapError (options.tag ++ ": " ++ ·)
  if options.kind = .selector then
    let _ ← outboundSelect options managers members
  return members

end SingBox.Group
