import SingBox.Outbound.Manager
import SingBox.Lib.Fresh

/-! # Provider updates

`adapter/provider/adapter.go`: a provider turns the entries of a subscription into outbounds of
the outbound manager. An entry is registered under a resolved tag, which depends on its place
and on the entries before it; whether the outbound of a tag is rebuilt is decided by the tag of
the entry itself.
-/

namespace SingBox.Provider

open Lib Lib.Fresh OutboundManager

variable {Payload : Type}

/-- `option.Outbound`. -/
structure OutboundOptions (Payload : Type) where
  type : String := ""
  tag : String := ""
  options : Option Payload := none
deriving DecidableEq, Repr

/-! ## Resolved tags -/

variable (providerTag : String)

def baseTag (index : Nat) (entry : OutboundOptions Payload) : String :=
  providerTag ++ "/" ++ if entry.tag ≠ "" then entry.tag else index.repr

def numberedTag (base : String) (number : Nat) : String := base ++ " (" ++ number.repr ++ ")"

def resolveTag (seen : List String) (base : String) : String :=
  if base ∈ seen then firstFree (numberedTag base) seen seen.length 2 else base

def resolveTagsFrom (providerTag : String) : Nat → List String → List (OutboundOptions Payload) → List String
  | _, _, [] => []
  | index, seen, entry :: entries =>
    let tag := resolveTag seen (baseTag providerTag index entry)
    tag :: resolveTagsFrom providerTag (index + 1) (tag :: seen) entries

def resolveOutboundTags (entries : List (OutboundOptions Payload)) : List String :=
  resolveTagsFrom providerTag 0 [] entries

/-! ## The update -/

/-- An entry, with what the calls that the manager makes for it return. -/
structure Item (Payload : Type) where
  entry : OutboundOptions Payload
  create : CreateCalls
  close : Except String Unit := .ok ()

/-- The provider and the manager. `origin` tells from which entry an outbound was created. -/
structure Adapter (Payload : Type) where
  providerTag : String
  manager : OutboundManager
  outbounds : List DefaultOutbound := []
  outboundsByTag : Table String DefaultOutbound := .empty
  origin : Nat → Option (OutboundOptions Payload) := fun _ => none

namespace Adapter

variable (adapter : Adapter Payload)

def activeOutboundTags : List String := adapter.outbounds.map (·.tag)

/-- `removals` tells what `Close` returns for the outbound of a tag; the provider only logs it. -/
def removeUseless (newTags : List String) (removals : String → Except String Unit) : Adapter Payload :=
  { adapter with
    manager := (adapter.activeOutboundTags.filter (· ∉ newTags)).foldl
      (fun manager tag => (manager.Remove tag (removals tag)).1) adapter.manager }

/-- The entry that the old list has last with the tag, or the zero value. -/
def oldOptByTag (oldOpts : List (OutboundOptions Payload)) (tag : String) : OutboundOptions Payload :=
  (oldOpts.reverse.find? (·.tag = tag)).getD {}

def list (tag : String) (outbound : DefaultOutbound) : Adapter Payload :=
  { adapter with
    outbounds := adapter.outbounds ++ [outbound], outboundsByTag := adapter.outboundsByTag.put tag outbound }

variable [DecidableEq Payload] (endpoint : String → Bool)

/-- One turn of the loop over the new entries. The lists of `adapter` are those that the loop builds. -/
def install (activeTags : List String) (oldOpts : List (OutboundOptions Payload))
    (adapter : Adapter Payload) (item : Item Payload × String) : Adapter Payload :=
  let (⟨entry, create, close⟩, tag) := item
  let build : Adapter Payload :=
    match adapter.manager.Create tag entry.type create with
    | (manager, .error _) =>
      if tag ∈ activeTags then { adapter with manager := (manager.Remove tag close).1 } else { adapter with manager }
    | (manager, .ok _) =>
      let built := { adapter with
        manager, origin := Function.update adapter.origin adapter.manager.created (some entry) }
      -- A nil outbound would be listed here, but the manager has the outbound that it has created.
      (manager.Outbound endpoint tag).elim built (built.list tag)
  match adapter.manager.Outbound endpoint tag with
  | none => build
  | some outbound =>
    if tag ∉ activeTags ∨ entry ≠ oldOptByTag oldOpts entry.tag then build else adapter.list tag outbound

def UpdateOutbounds (adapter : Adapter Payload) (oldOpts : List (OutboundOptions Payload))
    (items : List (Item Payload)) (removals : String → Except String Unit) : Adapter Payload :=
  let newTags := resolveOutboundTags adapter.providerTag (items.map (·.entry))
  let activeTags := adapter.activeOutboundTags
  let cleared := { adapter.removeUseless newTags removals with outbounds := [], outboundsByTag := .empty }
  (items.zip newTags).foldl (install endpoint activeTags oldOpts) cleared

end Adapter

end SingBox.Provider
