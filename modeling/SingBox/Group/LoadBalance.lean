import SingBox.Group.Outbound

/-! # Load balancing

`protocol/group/loadbalance.go`: a load balancer picks a member for each connection,
by one of three strategies. A strategy may remember something between connections,
so that each of them returns the balancer it leaves behind.
-/

namespace SingBox

open List

/-- What the strategies compute with. `jumpHash` works on floating point numbers and
`hash` has a random seed; `now` are the readings of the clock during one pick. -/
structure Balancing where
  env : Environment := {}
  hash : String → UInt64 := fun _ => 0
  jumpHash : UInt64 → Nat → Nat := fun _ _ => 0
  now : Nat → UInt64 := fun _ => 0
  isIPHost : String → Bool := fun _ => false
  effectiveTLDPlusOne : String → Option String := fun _ => none
  addrString : Addr → String := fun _ => ""

namespace Balancing

variable (balancing : Balancing) (metadata : InboundContext)

def getKey : String :=
  let metadataHost :=
    if balancing.env.isDomain metadata.destination then metadata.destination.fqdn
    else if metadata.sniffHost ≠ "" then metadata.sniffHost
    else metadata.domain
  let destinationAddr := match metadata.destinationAddresses with
    | addr :: _ => some addr
    | [] => metadata.destination.addr
  let byAddress := (destinationAddr.map balancing.addrString).getD ""
  if metadataHost = "" then byAddress
  else if balancing.isIPHost metadataHost then metadataHost
  else (balancing.effectiveTLDPlusOne metadataHost).getD byAddress

def getKeyWithSrcAndDst : String :=
  -- an address that is not valid prints as a text of its own
  (metadata.source.addr.map balancing.addrString).getD "invalid IP" ++ balancing.getKey metadata

end Balancing

/-- The strategies with what they remember: the next index, nothing, or the index last
used for a key. -/
inductive Strategy where
  | roundRobin (index : Nat)
  | consistentHashing
  | stickySessions (lruCache : UInt64 → Option Nat)

structure LoadBalance where
  tag : String
  strategy : Strategy
  fallbackIndex : UInt32 := 0
  health : Health := {}

namespace LoadBalance

variable (group : LoadBalance) (members : List Member)

/-- The first member that carries the network. -/
def Selected (network : Network) : Option Nat :=
  members.findIdx? fun member => member.networks.contains network

/-- `AliveForTestUrl` of the member at a position. -/
def alive (position : Nat) : Bool := members[position]?.any fun member => member.alive group.health

/-- The matcher of a pre-match, which may turn a pick down. -/
def accepts (matcher : Option (Nat → Bool)) (position : Nat) : Bool :=
  match matcher with
  | none => true
  | some test => test position

def nextFallback (touch : Bool) (matcher : Option (Nat → Bool)) : Option Nat × LoadBalance :=
  if members.length = 0 then (none, group)
  else
    let nextIndex := group.fallbackIndex + 1
    let position := nextIndex.toNat % members.length
    if accepts matcher position then
      (some position, if matcher.isNone || touch then { group with fallbackIndex := nextIndex } else group)
    else (none, group)

/-- The loop of `strategyRoundRobin`: the offset of the first member alive. -/
def roundRobinLoop (index : Nat) : Nat → Nat → Option Nat
  | 0, _ => none
  | remaining + 1, offset =>
    if group.alive members ((index + offset) % members.length) then some offset
    else roundRobinLoop index remaining (offset + 1)

def strategyRoundRobin (index : Nat) (touch : Bool) (matcher : Option (Nat → Bool)) : Option Nat × LoadBalance :=
  match group.roundRobinLoop members index members.length 0 with
  | some offset =>
    let position := (index + offset) % members.length
    if accepts matcher position then
      (some position,
        if touch then { group with strategy := .roundRobin ((index + (offset + 1)) % members.length) } else group)
    else (none, group)
  | none => group.nextFallback members touch matcher

/-- The retries of `strategyConsistentHashing`. -/
def consistentHashingLoop (balancing : Balancing) : Nat → UInt64 → Option Nat
  | 0, _ => none
  | retries + 1, key =>
    let position := balancing.jumpHash key members.length
    if group.alive members position then some position else consistentHashingLoop balancing retries (key + 1)

variable (balancing : Balancing) (metadata : InboundContext)

def strategyConsistentHashing (touch : Bool) (matcher : Option (Nat → Bool)) : Option Nat × LoadBalance :=
  let key := balancing.hash (balancing.getKey metadata)
  match (group.consistentHashingLoop members balancing 5 key).or
      ((range members.length).find? (group.alive members)) with
  | some position => (if accepts matcher position then some position else none, group)
  | none => group.nextFallback members touch matcher

/-- The retries of `strategyStickySessionsWithIndex`: the position of a member alive. -/
def stickySessionsLoop (selectIndex : Nat → Nat) : Nat → Nat → Nat → Option Nat
  | 0, _, _ => none
  | retries + 1, reading, position =>
    if group.alive members position then some position
    else stickySessionsLoop selectIndex retries (reading + 1) (selectIndex reading)

def strategyStickySessions
    (lruCache : UInt64 → Option Nat) (matcher : Option (Nat → Bool)) : Option Nat × LoadBalance :=
  let key := balancing.hash (balancing.getKeyWithSrcAndDst metadata)
  let selectIndex := fun reading => balancing.jumpHash (key + balancing.now reading) members.length
  let remember := fun position =>
    { group with strategy := .stickySessions fun other => if other = key then some position else lruCache other }
  let mapping := (lruCache key).filter (· < members.length)
  let index := mapping.getD (selectIndex 0)
  match group.stickySessionsLoop members selectIndex 4 (if mapping.isSome then 0 else 1) index with
  | some position =>
    (if accepts matcher position then some position else none,
      if mapping.isNone || position ≠ index then remember position else group)
  | none =>
    let position := balancing.jumpHash key members.length
    (if accepts matcher position then some position else none, remember position)

def strategyFn (touch : Bool) (matcher : Option (Nat → Bool)) : Option Nat × LoadBalance :=
  match group.strategy with
  | .roundRobin index => group.strategyRoundRobin members index touch matcher
  | .consistentHashing => group.strategyConsistentHashing members balancing metadata touch matcher
  | .stickySessions lruCache => group.strategyStickySessions members balancing metadata lruCache matcher

def Unwrap : Option Nat × LoadBalance :=
  group.strategyFn members balancing metadata true none

def UnwrapPreMatch (matcher : Nat → Bool) : Option Nat × LoadBalance :=
  group.strategyFn members balancing metadata true (some matcher)

/-- What calls of `Unwrap` pick, one after another. -/
def picks (group : LoadBalance) : List InboundContext → List (Option Nat)
  | [] => []
  | metadata :: calls =>
    let pick := group.Unwrap members balancing metadata
    pick.1 :: picks pick.2 calls

/-! ### What a pick tries -/

variable {group members balancing} {index : Nat}

theorem roundRobinLoop_eq_find (remaining offset : Nat) :
    group.roundRobinLoop members index remaining offset =
      (range' offset remaining).find? fun offset => group.alive members ((index + offset) % members.length) := by
  induction remaining generalizing offset with
  | zero => rfl
  | succ remaining ih =>
    rw [roundRobinLoop, ih, range'_succ, find?_cons]
    cases group.alive members ((index + offset) % members.length) <;> rfl

theorem consistentHashingLoop_eq_find (retries : Nat) (key : UInt64) :
    group.consistentHashingLoop members balancing retries key =
      ((iterate (· + 1) key retries).map fun key => balancing.jumpHash key members.length).find?
        (group.alive members) := by
  induction retries generalizing key with
  | zero => rfl
  | succ retries ih =>
    rw [consistentHashingLoop, ih, iterate, map_cons, find?_cons]
    cases group.alive members (balancing.jumpHash key members.length) <;> rfl

theorem stickySessionsLoop_eq_find (selectIndex : Nat → Nat) (retries reading position : Nat) :
    group.stickySessionsLoop members selectIndex (retries + 1) reading position =
      (position :: (range' reading retries).map selectIndex).find? (group.alive members) := by
  induction retries generalizing reading position with
  | zero =>
    rw [stickySessionsLoop, stickySessionsLoop, find?_cons]
    cases group.alive members position <;> rfl
  | succ retries ih =>
    rw [stickySessionsLoop, ih, range'_succ, map_cons]
    conv_rhs => rw [find?_cons]
    cases group.alive members position <;> rfl

/-! ### Round robin -/

theorem roundRobinLoop_le {distance : Nat} (alive : group.alive members ((index + distance) % members.length))
    (near : distance < members.length) :
    ∃ first ≤ distance, group.roundRobinLoop members index members.length 0 = some first := by
  rw [roundRobinLoop_eq_find, ← range_eq_range']
  cases found : (range members.length).find? fun offset => group.alive members ((index + offset) % members.length) with
  | none => exact absurd alive (find?_eq_none.mp found distance (mem_range.mpr near))
  | some first =>
    refine ⟨first, ?_, rfl⟩
    obtain ⟨-, -, earlier⟩ := find?_range_eq_some.mp found
    by_contra later
    have dead := earlier distance (by omega)
    rw [alive] at dead
    cases dead

/-- Every position is some way behind an index, on the circle of the members. -/
theorem exists_offset (index : Nat) {length position : Nat} (inside : position < length) :
    ∃ offset < length, (index + offset) % length = position := by
  refine ⟨(position + index * (length - 1)) % length, Nat.mod_lt _ (by omega), ?_⟩
  have le := Nat.le_mul_of_pos_right index (Nat.zero_lt_of_lt inside)
  have sum : index + (position + index * (length - 1)) = position + index * length := by
    rw [Nat.mul_sub_one]
    omega
  rw [Nat.add_mod_mod, sum, Nat.add_mul_mod_self_right, Nat.mod_eq_of_lt inside]

/-- Round robin starves no member that is alive. -/
theorem roundRobin_picks_alive {target : Nat} {calls : List InboundContext}
    (strategy : group.strategy = .roundRobin index) (alive : group.alive members target)
    (enough : members.length ≤ calls.length) : some target ∈ picks members balancing group calls := by
  have inside : target < members.length := by
    by_contra outside
    simp [LoadBalance.alive, getElem?_eq_none (Nat.le_of_not_lt outside)] at alive
  obtain ⟨distance, near, isTarget⟩ := exists_offset index inside
  replace enough := near.trans_le enough
  -- a pick is the target, or brings the next index nearer to it
  induction calls generalizing group index distance with
  | nil => cases enough
  | cons metadata calls ih =>
    obtain ⟨first, le, found⟩ := roundRobinLoop_le (isTarget ▸ alive) near
    simp only [picks, Unwrap, strategyFn, strategy, strategyRoundRobin, found, accepts, if_true, mem_cons]
    by_cases isFirst : first = distance
    · exact .inl (by rw [isFirst, isTarget])
    · have nearer : ((index + (first + 1)) % members.length + (distance - (first + 1))) % members.length = target := by
        rw [Nat.mod_add_mod, ← isTarget]
        congr 1
        omega
      rw [length_cons] at enough
      exact .inr (ih rfl alive _ (by omega) nearer (by omega))

theorem roundRobin_picks_first : some 0 ∈
    picks [⟨"", [], fun _ => "", fun _ => true⟩, ⟨"", [], fun _ => "", fun _ => true⟩] {}
      { tag := "", strategy := .roundRobin 7 } [{}, {}] :=
  roundRobin_picks_alive rfl rfl (by decide)

end LoadBalance

/-! ## The tree -/

inductive Outbound where
  | leaf (leaf : Leaf)
  | selector (group : Selector) (members : List Outbound)
  | urlTest (group : URLTest) (members : List Outbound)
  | loadBalance (group : LoadBalance) (members : List Outbound)

/-- A group, as the group above it sees it. `RealTag` follows the selection. -/
def groupMember (tag : String) (networks : List Network) (members : List Member)
    (selected : Network → Option Nat) (alive : Health → Bool) : Member :=
  let realTag := fun network =>
    match (selected network).bind (members[·]?) with
    | none => tag
    | some member => member.realTag network
  { tag, networks, realTag, alive := fun health => !health.excessive (realTag .tcp) && alive health }

/-- A selector is alive when what it stands for has been tested; only it is asked for its
history. -/
def testedGroupMember (tag : String) (networks : List Network) (members : List Member)
    (selected : Network → Option Nat) : Member :=
  let untested := groupMember tag networks members selected fun _ => true
  groupMember tag networks members selected fun health => (health.delay (untested.realTag .tcp)).isSome

mutual
def Outbound.member : Outbound → Member
  | .leaf outbound => outbound.member
  | .selector group members =>
    let members := Outbound.memberList members
    testedGroupMember group.tag (group.networks members) members (group.Selected members)
  | .urlTest group members =>
    let members := Outbound.memberList members
    -- with its `URLTest` method it counts as a load balancer: any member may be alive
    groupMember group.tag [.tcp, .udp] members (group.Selected members)
      fun health => (members.take group.candidates).any fun member => member.alive health
  | .loadBalance group members =>
    let members := Outbound.memberList members
    groupMember group.tag [.tcp, .udp] members (LoadBalance.Selected members)
      fun health => members.any fun member => member.alive health
/-- The members of a group, which are their `map` (`Outbound.memberList_eq_map`). -/
def Outbound.memberList : List Outbound → List Member
  | [] => []
  | outbound :: outbounds => outbound.member :: Outbound.memberList outbounds
end

end SingBox
