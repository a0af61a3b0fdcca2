import SingBox.Adapter.Inbound

/-! # The selection of a URL test

`URLTestGroup.Select` with everything it looks at: the members in any order and with any
identities, the selections of both networks, the histories and the failure records. The
selection should be a member that is tested and does not fail, with a delay that is within
the tolerance of every other one, and should stay where it is if it is that already.

The search runs with 16-bit numbers and takes a delay of zero for "nothing found yet"
(`SingBox.Group.SelectOptimal`).
-/

namespace SingBox

/-- The health records of a group: tags that failed their tests, tags that failed to
dial, and the delays of the URL test history. -/
structure Health where
  failing : String → Bool := fun _ => false
  dialFailing : String → Bool := fun _ => false
  delay : String → Option UInt16 := fun _ => none

def Health.excessive (health : Health) (tag : String) : Bool := health.failing tag || health.dialFailing tag

structure URLTestFallback where
  enabled : Bool := false
  maxDelay : UInt16 := 0
deriving DecidableEq, Repr

/-- The members are compared by identity. -/
structure URLTestGroup (Outbound : Type) where
  outbounds : List Outbound
  networks : Outbound → List Network
  realTag : Outbound → Network → String
  selectedOutboundTCP : Option Outbound := none
  selectedOutboundUDP : Option Outbound := none
  tolerance : UInt16 := 0
  fallback : URLTestFallback := {}
  health : Health := {}

namespace URLTestGroup

variable {Outbound : Type} [DecidableEq Outbound] (group : URLTestGroup Outbound) (network : Network)

/-! ## The code -/

/-- The current selection for a network. -/
def selected : Option Outbound :=
  match network with
  | .tcp => group.selectedOutboundTCP
  | .udp => group.selectedOutboundUDP
  | .icmp => none

variable (outbound : Outbound)

def supports : Bool := (group.networks outbound).contains network

def memberExcessive : Bool :=
  let tag := group.realTag outbound network
  if group.selectedOutboundTCP = some outbound ∨ group.selectedOutboundUDP = some outbound then group.health.dialFailing tag
  else group.health.failing tag || group.health.dialFailing tag

/-- `LoadURLTestHistory` of the real tag. -/
def loadHistory : Option UInt16 := group.health.delay (group.realTag outbound network)

/-- The variables of the loop. -/
structure Choice (Outbound : Type) where
  minDelay : UInt16 := 0
  minOutbound : Option Outbound := none
  fallbackIgnoreOutboundDelay : UInt16 := 0
  fallbackIgnoreOutbound : Option Outbound := none

def selectLoop : List Outbound → Choice Outbound → Choice Outbound
  | [], choice => choice
  | detour :: rest, choice =>
    if !group.supports network detour then selectLoop rest choice
    else if group.selected network ≠ some detour ∧ group.memberExcessive network detour then selectLoop rest choice
    else match group.loadHistory network detour with
      | none => selectLoop rest choice
      | some delay =>
        if group.fallback.enabled && group.fallback.maxDelay > 0 && delay > group.fallback.maxDelay then
          if choice.fallbackIgnoreOutboundDelay == 0 || delay < choice.fallbackIgnoreOutboundDelay then
            selectLoop rest { choice with fallbackIgnoreOutboundDelay := delay, fallbackIgnoreOutbound := some detour }
          else selectLoop rest choice
        else if group.fallback.enabled then
          let choice := { choice with minDelay := delay, minOutbound := some detour }
          if delay == 0 then selectLoop rest choice else choice
        else if choice.minDelay == 0 || choice.minDelay > delay + group.tolerance then
          selectLoop rest { choice with minDelay := delay, minOutbound := some detour }
        else selectLoop rest choice

/-- What follows the loop. -/
def concludes (choice : Choice Outbound) : Option Outbound × Bool :=
  match choice.minOutbound, choice.fallbackIgnoreOutbound with
  | some outbound, _ => (some outbound, true)
  | none, some outbound => (some outbound, true)
  | none, none =>
    match (group.selected network).filter fun outbound =>
      decide (outbound ∈ group.outbounds) && !group.memberExcessive network outbound with
    | some outbound => (some outbound, false)
    | none => (group.outbounds.find? (group.supports network), false)

def Select : Option Outbound × Bool :=
  match (group.selected network).filter fun outbound =>
    group.supports network outbound && !group.memberExcessive network outbound with
  | none => group.concludes network (group.selectLoop network group.outbounds {})
  | some outbound =>
    match group.loadHistory network outbound with
    | none => (some outbound, false)
    | some delay =>
      group.concludes network
        (group.selectLoop network group.outbounds { minDelay := delay, minOutbound := some outbound })

/-! ## What it should do -/

/-- A member that may be selected. -/
structure Eligible (outbound : Outbound) : Prop where
  isMember : outbound ∈ group.outbounds
  supported : group.supports network outbound
  tested : (group.loadHistory network outbound).isSome
  working : group.memberExcessive network outbound = false

/-- The delay, as a number without bound. -/
def delay : Nat := ((group.loadHistory network outbound).map UInt16.toNat).getD 0

/-- Within the tolerance of every eligible member. -/
def Best : Prop :=
  group.Eligible network outbound ∧
    ∀ other, group.Eligible network other → group.delay network outbound ≤ group.delay network other + group.tolerance.toNat

/-- If there is an eligible member, then a best one is selected, and the current selection if it is one. -/
def Selects : Prop :=
  (∃ outbound, group.Eligible network outbound) →
    (∃ outbound, (group.Select network).1 = some outbound ∧ group.Best network outbound) ∧
      ∀ outbound, group.selected network = some outbound → group.Best network outbound →
        (group.Select network).1 = some outbound

end URLTestGroup

end SingBox
