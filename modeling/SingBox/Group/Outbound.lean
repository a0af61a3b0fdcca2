import SingBox.Group.Select
import SingBox.Rule.Item

/-! # Outbounds and outbound groups

`protocol/group`: a selector, a URL test or a load balancer stands for one of its
members. Each of them answers two questions, with code of its own for each: which
member `Selected` returns for a network, which is what the router follows, and which
member the group dials when it is dialled itself (`SingBox.Group.Dial`).

A group sees of its members only what `Member` holds. The outbounds form a tree, and
a member is its position among the members of its group.
-/

namespace SingBox

/-! ## Leaves -/

inductive PreMatchAction where
  | «continue»
  | flow
  | bypass
  | reject
  | drop
  | hijackDNS
deriving DecidableEq, Repr

theorem noFlow (isPass : Bool) :
    isPass → (none : Option (Network → Option Addr → PreMatchAction)) = none := fun _ => rfl

/-- An outbound that is not a group. A `FlowOutbound` has an answer to `PreMatchFlow`,
which the pass outbound is not, and a `FlowOutboundDomainResolver` options to
resolve a domain with. -/
structure Leaf where
  tag : String
  isPass : Bool := false
  networks : List Network := [.tcp, .udp]
  preMatchFlow : Option (Network → Option Addr → PreMatchAction) := none
  flowDomainResolveOptions : Option DNSQueryOptions := none
  passIsNoFlow : isPass → preMatchFlow = none := by first | exact SingBox.noFlow _ | simp

/-! ## What a group sees -/

structure Member where
  tag : String
  networks : List Network
  realTag : Network → String
  /-- `aliveForTestURL`, under the records of the load balancer that asks. -/
  alive : Health → Bool

def Leaf.member (leaf : Leaf) : Member where
  tag := leaf.tag
  networks := leaf.networks
  realTag _ := leaf.tag
  alive health := !health.excessive leaf.tag && (health.delay leaf.tag).isSome

/-- `udp_outbound`: not set, set to a tag that the outbound manager does not know, or
one of the outbounds below the group. -/
inductive Delegate where
  | unset
  | missing
  | loaded (index : Nat)
deriving DecidableEq, Repr

/-! ## Selectors -/

structure Selector where
  tag : String
  selected : Option Nat
  udpOutbound : Delegate := .unset
deriving DecidableEq, Repr

namespace Selector

variable (group : Selector) (members : List Member)

def networks : List Network :=
  if group.udpOutbound ≠ .unset then [.tcp, .udp]
  else match group.selected.bind (members[·]?) with
    | none => [.tcp, .udp]
    | some member => member.networks

def selectedSupportsUDP : Bool :=
  match group.selected.bind (members[·]?) with
  | none => false
  | some member => member.networks.contains .udp

/-- The selection is by network: what cannot carry UDP hands it to the delegate. -/
def Selected (network : Network) : Option Nat :=
  if network = .udp ∧ group.udpOutbound ≠ .unset ∧ group.selectedSupportsUDP members = false then
    match group.udpOutbound with
    | .loaded index => some index
    | .unset | .missing => group.selected
  else group.selected

end Selector

/-! ## URL tests -/

/-- The members that are tested come first; a delegate may stand after them. -/
structure URLTest where
  tag : String
  candidates : Nat
  selectedOutboundTCP : Option Nat := none
  selectedOutboundUDP : Option Nat := none
  tolerance : UInt16 := 0
  fallback : URLTestFallback := {}
  health : Health := {}
  udpOutbound : Delegate := .unset

namespace URLTest

variable (group : URLTest) (members : List Member) (network : Network)

/-- The latched selection for a network. -/
def latched : Option Nat :=
  match network with
  | .tcp => group.selectedOutboundTCP
  | .udp => group.selectedOutboundUDP
  | .icmp => none

/-- The test of the group, over the positions of its members. -/
def testGroup : URLTestGroup Nat where
  outbounds := List.range (min group.candidates members.length)
  networks index := (members[index]?.map Member.networks).getD []
  realTag index network := (members[index]?.map fun member => member.realTag network).getD ""
  selectedOutboundTCP := group.selectedOutboundTCP
  selectedOutboundUDP := group.selectedOutboundUDP
  tolerance := group.tolerance
  fallback := group.fallback
  health := group.health

/-- `URLTestGroup.Select`, without its flag. -/
def select : Option Nat := ((group.testGroup members).Select network).1

def Selected : Option Nat :=
  match group.latched (if network = .udp then .udp else .tcp) with
  | some index => some index
  | none => group.select members network

end URLTest

end SingBox
