import SingBox.Group.LoadBalance

/-! # Which outbound carries a connection

The router does not dial a group. `resolveOutbound` follows `Selected` down to a leaf
and hands the connection to that. A group that is dialled itself uses its own
`DialContext` or `ListenPacket`. This module compares the two: they agree as long as
no URL test hands UDP to a delegate and the strategy of every load balancer comes to
the member that it has selected (`Outbound.resolveOutbound_follows_dial_iff`).
-/

open List Option

namespace SingBox

/-- Where a connection goes: the positions of the members on the way, and the leaf. -/
structure Destined where
  path : List Nat
  leaf : Leaf

def Destined.below (index : Nat) (destined : Destined) : Destined := { destined with path := index :: destined.path }

/-! ## The way of the router -/

/-- The result at the chosen member. -/
def resolvedAt (results : List (Option Destined)) (choice : Option Nat) : Option Destined :=
  choice.bind fun index => (results[index]?).join.map (Destined.below index)

mutual
/-- `resolveOutbound`, without the error texts: `none` when a group selects nothing or
the leaf does not carry the network. -/
def Outbound.resolveOutbound (network : Network) : Outbound → Option Destined
  | .leaf outbound => if outbound.networks.contains network then some ⟨[], outbound⟩ else none
  | .selector group members =>
    resolvedAt (Outbound.resolveList network members) (group.Selected (Outbound.memberList members) network)
  | .urlTest group members =>
    resolvedAt (Outbound.resolveList network members) (group.Selected (Outbound.memberList members) network)
  | .loadBalance _ members =>
    resolvedAt (Outbound.resolveList network members) (LoadBalance.Selected (Outbound.memberList members) network)
def Outbound.resolveList (network : Network) : List Outbound → List (Option Destined)
  | [] => []
  | outbound :: outbounds => outbound.resolveOutbound network :: Outbound.resolveList network outbounds
end

/-! ## The way of the groups -/

variable (group : Selector)

/-- The member that `DialContext` (TCP) or `ListenPacket` (UDP) of a selector uses. -/
def Selector.dialMember (members : List Member) (network : Network) : Option Nat :=
  if network = .udp ∧ group.udpOutbound ≠ .unset ∧ group.selectedSupportsUDP members = false then
    match group.udpOutbound with
    | .loaded index => some index
    | .unset | .missing => none
  else group.selected

/-- The same of a URL test. UDP always goes to a delegate. -/
def URLTest.dialMember (group : URLTest) (members : List Member) (network : Network) : Option Nat :=
  if network = .udp ∧ group.udpOutbound ≠ .unset then
    match group.udpOutbound with
    | .loaded index => some index
    | .unset | .missing => none
  else match group.latched network with
    | some index => some index
    | none => group.select members network

/-- The same of a load balancer, with the balancer that the pick leaves behind. -/
def LoadBalance.dialMember (group : LoadBalance) (members : List Member) (balancing : Balancing)
    (metadata : InboundContext) (network : Network) : Option Nat × LoadBalance :=
  let (picked, group) := group.Unwrap members balancing metadata
  (picked.filter fun index => members[index]?.any fun member => member.networks.contains network, group)

/-- The chosen member is dialled; what it does to itself stays in the group. -/
def dialledAt (rebuild : List Outbound → Outbound) (members : List Outbound)
    (results : List (Option Destined × Outbound)) (choice : Option Nat) : Option Destined × Outbound :=
  match choice.bind fun index => results[index]?.map fun result => (index, result) with
  | none => (none, rebuild members)
  | some (index, result) => (result.1.map (Destined.below index), rebuild (members.set index result.2))

mutual
/-- Dialling an outbound: where the connection goes, and the outbound afterwards. -/
def Outbound.dial (balancing : Balancing) (metadata : InboundContext) (network : Network) :
    Outbound → Option Destined × Outbound
  | .leaf outbound => (some ⟨[], outbound⟩, .leaf outbound)
  | .selector group members =>
    dialledAt (.selector group) members (Outbound.dialList balancing metadata network members)
      (group.dialMember (Outbound.memberList members) network)
  | .urlTest group members =>
    dialledAt (.urlTest group) members (Outbound.dialList balancing metadata network members)
      (group.dialMember (Outbound.memberList members) network)
  | .loadBalance group members =>
    let (choice, picked) := group.dialMember (Outbound.memberList members) balancing metadata network
    dialledAt (.loadBalance picked) members (Outbound.dialList balancing metadata network members) choice
def Outbound.dialList (balancing : Balancing) (metadata : InboundContext) (network : Network) :
    List Outbound → List (Option Destined × Outbound)
  | [] => []
  | outbound :: outbounds =>
    outbound.dial balancing metadata network :: Outbound.dialList balancing metadata network outbounds
end

/-! ## Where the two part -/

namespace LoadBalance

variable (group : LoadBalance) (members : List Member)

/-- The index of a round robin. -/
def index : Option Nat :=
  match group.strategy with
  | .roundRobin index => some index
  | .consistentHashing | .stickySessions _ => none

variable (balancing : Balancing) (metadata : InboundContext)

/-- The positions that a strategy tries in turn. -/
def tried : List Nat :=
  let length := members.length
  match group.strategy with
  | .roundRobin index => (List.range length).map fun offset => (index + offset) % length
  | .consistentHashing =>
    let key := balancing.hash (balancing.getKey metadata)
    (List.iterate (· + 1) key 5).map (fun key => balancing.jumpHash key length) ++ List.range length
  | .stickySessions lruCache =>
    let key := balancing.hash (balancing.getKeyWithSrcAndDst metadata)
    let selectIndex := fun reading => balancing.jumpHash (key + balancing.now reading) length
    match (lruCache key).filter (· < length) with
    | some index => index :: (List.range 3).map selectIndex
    | none => (List.range 4).map selectIndex

/-- The position that it takes when none of them is alive. -/
def lastResort : Nat :=
  match group.strategy with
  | .roundRobin _ | .consistentHashing => (group.fallbackIndex + 1).toNat % members.length
  | .stickySessions _ => balancing.jumpHash (balancing.hash (balancing.getKeyWithSrcAndDst metadata)) members.length

/-- The first of the positions tried that is alive. -/
def firstAlive : Option Nat := (group.tried members balancing metadata).find? (group.alive members)

/-- The position is the first one alive, or the last resort when none is. A round robin moves on
behind a member that is alive, so that its index has to be there already. -/
def ComesTo (position : Nat) : Prop :=
  match group.firstAlive members balancing metadata with
  | some first => first = position ∧ ∀ index ∈ group.index, index = (position + 1) % members.length
  | none => group.lastResort members balancing metadata = position

end LoadBalance

namespace Outbound

def members : Outbound → List Outbound
  | .leaf _ => []
  | .selector _ members | .urlTest _ members | .loadBalance _ members => members

variable (balancing : Balancing) (metadata : InboundContext) (network : Network)

/-- A group dials the member that it has selected: no URL test has handed UDP to another one, and
the strategy of a load balancer comes to it. -/
def DialsMember (position : Nat) : Outbound → Prop
  | .leaf _ | .selector .. => True
  | .urlTest group _ => network = .udp → group.udpOutbound = .unset ∨ group.udpOutbound = .loaded position
  | .loadBalance group members => group.ComesTo (memberList members) balancing metadata position

/-- So it is with every group on the way of the router. -/
def DialsSelected : List Nat → Outbound → Prop
  | [], _ => True
  | position :: path, outbound =>
    outbound.DialsMember balancing metadata network position ∧
      ∀ member ∈ outbound.members[position]?, member.DialsSelected path

/-! ## What the groups remember -/

/-- The index of the round robin at the end of a path. -/
def indexAt : List Nat → Outbound → Option Nat
  | [], .loadBalance group _ => group.index
  | [], .leaf _ | [], .selector .. | [], .urlTest .. => none
  | position :: path, outbound => outbound.members[position]?.bind (indexAt path)

/-- Every round robin is where it was. -/
def SameIndices (before after : Outbound) : Prop := ∀ path, after.indexAt path = before.indexAt path

theorem sameIndices_iff {whole other outbound below : Outbound} {index : Nat}
    (isMember : whole.members[index]? = some outbound) (isSet : other.members = whole.members.set index below) :
    whole.SameIndices other ↔ other.indexAt [] = whole.indexAt [] ∧ outbound.SameIndices below := by
  have inRange := (List.getElem?_eq_some_iff.mp isMember).1
  constructor
  · intro same
    refine ⟨same [], fun path => ?_⟩
    have sameBelow := same (index :: path)
    rwa [indexAt, indexAt, isSet, getElem?_set_self inRange, isMember] at sameBelow
  · rintro ⟨here, within⟩ path
    cases path with
    | nil => exact here
    | cons position path =>
      rw [indexAt, indexAt, isSet]
      by_cases isIndex : index = position
      · subst isIndex
        rw [getElem?_set_self inRange, isMember]
        exact within path
      · rw [getElem?_set_ne isIndex]

end Outbound

/-! ## What the strategies come to -/

namespace LoadBalance

variable {group : LoadBalance} {members : List Member} {position : Nat} {balancing : Balancing} {metadata : InboundContext}

theorem nextFallback_eq (nonempty : members.length ≠ 0) :
    group.nextFallback members true none =
      (some ((group.fallbackIndex + 1).toNat % members.length),
        { group with fallbackIndex := group.fallbackIndex + 1 }) := by
  rw [nextFallback, if_neg nonempty]
  rfl

/-- Every strategy is a search among the positions that it tries. -/
theorem unwrap_eq (nonempty : members.length ≠ 0) :
    (group.Unwrap members balancing metadata).1 =
        (group.firstAlive members balancing metadata).or (some (group.lastResort members balancing metadata)) ∧
      (group.Unwrap members balancing metadata).2.index =
        match group.firstAlive members balancing metadata with
        | some position => group.index.map fun _ => (position + 1) % members.length
        | none => group.index := by
  unfold firstAlive
  cases isStrategy : group.strategy with
  | roundRobin index =>
    simp only [Unwrap, strategyFn, tried, lastResort, LoadBalance.index, isStrategy, strategyRoundRobin,
      roundRobinLoop_eq_find, ← range_eq_range', find?_map, Function.comp_def]
    cases (List.range members.length).find? fun offset => group.alive members ((index + offset) % members.length) with
    | none => simp [nextFallback_eq nonempty, isStrategy]
    | some offset => simp [accepts, Nat.add_assoc]
  | consistentHashing =>
    simp only [Unwrap, strategyFn, tried, lastResort, LoadBalance.index, isStrategy, strategyConsistentHashing,
      consistentHashingLoop_eq_find, find?_append]
    cases (((List.iterate _ _ _).map _).find? (group.alive members)).or _ with
    | none => simp [nextFallback_eq nonempty, isStrategy]
    | some first => simp [accepts, isStrategy]
  | stickySessions lruCache =>
    simp only [Unwrap, strategyFn, tried, lastResort, LoadBalance.index, isStrategy, strategyStickySessions,
      stickySessionsLoop_eq_find]
    cases (lruCache (balancing.hash (balancing.getKeyWithSrcAndDst metadata))).filter _ with
    | none =>
      simp only [getD_none, isSome_none, Bool.false_eq_true, if_false]
      rw [show List.range 4 = 0 :: List.range' 1 3 from rfl, map_cons]
      cases (_ :: (List.range' 1 3).map _).find? (group.alive members) <;> simp [accepts]
    | some remembered =>
      simp only [getD_some, isSome_some, if_true]
      rw [← range_eq_range']
      cases (remembered :: (List.range 3).map _).find? (group.alive members) with
      | none => simp [accepts]
      | some first =>
        by_cases isRemembered : first = remembered <;> simp [accepts, isRemembered, isStrategy]

theorem unwrap_iff (inside : position < members.length) :
    (group.Unwrap members balancing metadata).1 = some position ∧
        (group.Unwrap members balancing metadata).2.index = group.index ↔
      group.ComesTo members balancing metadata position := by
  obtain ⟨picks, moves⟩ := @unwrap_eq group members balancing metadata (Nat.ne_zero_of_lt inside)
  rw [picks, moves, ComesTo]
  cases group.firstAlive members balancing metadata with
  | none => simp
  | some first => cases group.index <;> simp +contextual [eq_comm]

end LoadBalance

namespace Outbound

/-- Induction over the tree, with the hypothesis for every member. -/
@[elab_as_elim] theorem induction {motive : Outbound → Prop} (leaf : ∀ outbound, motive (.leaf outbound))
    (selector : ∀ group members, (∀ member ∈ members, motive member) → motive (.selector group members))
    (urlTest : ∀ group members, (∀ member ∈ members, motive member) → motive (.urlTest group members))
    (loadBalance : ∀ group members, (∀ member ∈ members, motive member) → motive (.loadBalance group members))
    (outbound : Outbound) : motive outbound := by
  refine @Outbound.rec motive (fun members => ∀ member ∈ members, motive member) leaf selector urlTest loadBalance
    nofun ?_ outbound
  exact fun _ _ headHolds restHold => forall_mem_cons.mpr ⟨headHolds, restHold⟩

variable (outbounds : List Outbound)

theorem memberList_eq_map : memberList outbounds = outbounds.map member := by
  induction outbounds with
  | nil => rfl
  | cons outbound outbounds ih => rw [memberList, ih, map_cons]

theorem resolveList_eq_map (network : Network) (outbounds : List Outbound) :
    resolveList network outbounds = outbounds.map (resolveOutbound network) := by
  induction outbounds with
  | nil => rfl
  | cons outbound outbounds ih => rw [resolveList, ih, map_cons]

variable {balancing : Balancing} {metadata : InboundContext} {network : Network}

theorem dialList_eq_map : dialList balancing metadata network outbounds = outbounds.map (dial balancing metadata network) := by
  induction outbounds with
  | nil => rfl
  | cons outbound outbounds ih => rw [dialList, ih, map_cons]

variable {members : List Outbound} {choice : Option Nat} {index : Nat} {outbound : Outbound} {destined : Destined}

theorem resolvedAt_eq_some (resolved : resolvedAt (resolveList network members) choice = some destined) :
    ∃ index outbound below, choice = some index ∧ members[index]? = some outbound ∧
      outbound.resolveOutbound network = some below ∧ destined = below.below index := by
  rw [resolveList_eq_map] at resolved
  simp only [resolvedAt, bind_eq_some_iff, map_eq_some_iff, getElem?_map, join_eq_some_iff]
    at resolved
  obtain ⟨index, isChoice, below, ⟨outbound, isMember, isBelow⟩, rfl⟩ := resolved
  exact ⟨index, outbound, below, isChoice, isMember, isBelow, rfl⟩

theorem resolveOutbound_eq_none (session : network ≠ .icmp) (outbound : Outbound)
    (uncarried : outbound.member.networks.contains network = false) : outbound.resolveOutbound network = none := by
  have both : ([.tcp, .udp] : List Network).contains network := by
    cases network with
    | tcp | udp => rfl
    | icmp => exact absurd rfl session
  induction outbound using Outbound.induction with
  | leaf outbound =>
    rw [resolveOutbound, if_neg]
    exact Bool.eq_false_iff.mp uncarried
  | urlTest group members => exact absurd both (Bool.eq_false_iff.mp uncarried)
  | loadBalance group members => exact absurd both (Bool.eq_false_iff.mp uncarried)
  | selector group members ih =>
    rw [member] at uncarried
    unfold Selector.networks at uncarried
    rw [resolveOutbound, eq_none_iff_forall_not_mem]
    intro destined resolved
    obtain ⟨index, outbound, below, isSelected, isMember, isBelow, -⟩ := resolvedAt_eq_some resolved
    split at uncarried
    · exact absurd both (Bool.eq_false_iff.mp uncarried)
    next unset =>
      rw [Selector.Selected, if_neg fun delegates => unset delegates.2.1] at isSelected
      rw [isSelected, bind_some, memberList_eq_map, getElem?_map, isMember] at uncarried
      have uncarriedBelow := ih outbound (mem_of_getElem? isMember) uncarried
      rw [uncarriedBelow] at isBelow
      cases isBelow

/-- A dialled group ends where the member at `index` ends exactly when it dials that
member. -/
theorem dialledAt_iff {rebuild : List Outbound → Outbound} {below : Destined} (isMember : members[index]? = some outbound) :
    (dialledAt rebuild members (dialList balancing metadata network members) choice).1 = some (below.below index) ↔
      choice = some index ∧ (outbound.dial balancing metadata network).1 = some below := by
  rw [dialList_eq_map]
  cases choice with
  | none => simp [dialledAt]
  | some chosen =>
    simp only [dialledAt, bind_some, getElem?_map, some.injEq]
    by_cases same : chosen = index
    · subst same
      obtain ⟨path, leaf⟩ := below
      simp only [isMember, map_some, map_eq_some_iff, true_and]
      refine ⟨?_, fun isBelow => ⟨_, isBelow, rfl⟩⟩
      rintro ⟨⟨otherPath, otherLeaf⟩, isOther, isBelow⟩
      simp only [Destined.below, Destined.mk.injEq, cons.injEq, true_and] at isBelow
      rw [isOther, isBelow.1, isBelow.2]
    · -- the path would begin at another position
      simp only [same, false_and, iff_false]
      cases members[chosen]? with
      | none => simp
      | some other =>
        simp only [map_some, map_eq_some_iff]
        rintro ⟨destined, -, isBelow⟩
        simp only [Destined.below, Destined.mk.injEq, cons.injEq] at isBelow
        exact absurd isBelow.1.1 same

/-- The connection goes to the leaf, and every round robin is afterwards where it was. -/
def Follows (balancing : Balancing) (metadata : InboundContext) (network : Network) (outbound : Outbound)
    (destined : Destined) : Prop :=
  (outbound.dial balancing metadata network).1 = some destined ∧
    outbound.SameIndices (outbound.dial balancing metadata network).2

/-- One step of the way: the group dials the member, and its own index stays. -/
theorem follows_below {whole : Outbound} {rebuild : List Outbound → Outbound} {below : Destined} (own : Option Nat)
    (isDial : whole.dial balancing metadata network =
      dialledAt rebuild whole.members (dialList balancing metadata network whole.members) choice)
    (rebuilds : ∀ members, (rebuild members).members = members ∧ (rebuild members).indexAt [] = own)
    (isMember : whole.members[index]? = some outbound)
    (dials : choice = some index ∧ own = whole.indexAt [] ↔ whole.DialsMember balancing metadata network index)
    (within : outbound.Follows balancing metadata network below ↔
      outbound.DialsSelected balancing metadata network below.path) :
    whole.Follows balancing metadata network (below.below index) ↔
      whole.DialsSelected balancing metadata network (below.below index).path := by
  simp only [Destined.below, DialsSelected, isMember, mem_def, some.injEq, forall_eq', ← dials, ← within]
  rw [Follows, isDial, ← Destined.below, dialledAt_iff isMember]
  by_cases isChoice : choice = some index
  · have after : (dialledAt rebuild whole.members (dialList balancing metadata network whole.members) choice).2 =
        rebuild (whole.members.set index (outbound.dial balancing metadata network).2) := by
      rw [dialList_eq_map, dialledAt, isChoice, bind_some, getElem?_map, isMember]
      rfl
    rw [after, sameIndices_iff isMember (rebuilds _).1, (rebuilds _).2, Follows]
    tauto
  · simp [isChoice]

/-- The selection of a selector is the member it dials, unless its delegate is missing. -/
theorem selector_dialMember_eq (members : List Member)
    (reachable : ¬(network = .udp ∧ group.udpOutbound = .missing ∧ group.selectedSupportsUDP members = false)) :
    group.dialMember members network = group.Selected members network := by
  unfold Selector.dialMember Selector.Selected
  split
  next delegates =>
    cases isDelegate : group.udpOutbound with
    | loaded => rfl
    | unset => exact absurd isDelegate delegates.2.1
    | missing => exact absurd ⟨delegates.1, isDelegate, delegates.2.2⟩ reachable
  · rfl

theorem urlTest_dialMember_iff (session : network ≠ .icmp) (group : URLTest) (members : List Member)
    (isSelected : group.Selected members network = some index) :
    group.dialMember members network = some index ↔
      (network = .udp → group.udpOutbound = .unset ∨ group.udpOutbound = .loaded index) := by
  have sameNetwork : (if network = .udp then Network.udp else .tcp) = network := by
    cases network with
    | tcp | udp => rfl
    | icmp => exact absurd rfl session
  unfold URLTest.dialMember
  split
  next delegates =>
    cases isDelegate : group.udpOutbound with
    | unset => exact absurd isDelegate delegates.2
    | missing => simp [delegates.1]
    | loaded delegate => simp [delegates.1]
  next keeps =>
    rw [URLTest.Selected, sameNetwork] at isSelected
    refine iff_of_true isSelected fun isUDP => .inl ?_
    by_contra isSet
    exact keeps ⟨isUDP, isSet⟩

/-- The router opens a connection where the groups on the way would open it, and every round
robin is where it would be, exactly when each of them dials the member that it has selected. -/
theorem resolveOutbound_follows_dial_iff (balancing : Balancing) (metadata : InboundContext) (network : Network)
    (session : network ≠ .icmp) (root : Outbound) (destined : Destined)
    (resolved : root.resolveOutbound network = some destined) :
    root.Follows balancing metadata network destined ↔
      root.DialsSelected balancing metadata network destined.path := by
  induction root using Outbound.induction generalizing destined with
  | leaf outbound =>
    rw [resolveOutbound] at resolved
    split at resolved
    · cases resolved
      refine iff_of_true ?_ trivial
      rw [Follows, dial]
      exact ⟨rfl, fun _ => rfl⟩
    · cases resolved
  | selector group members ih =>
    obtain ⟨index, outbound, below, isSelected, isMember, isBelow, rfl⟩ := resolvedAt_eq_some resolved
    have reachable : ¬(network = .udp ∧ group.udpOutbound = .missing ∧
        group.selectedSupportsUDP (memberList members) = false) := by
      rintro ⟨rfl, isMissing, unsupported⟩
      have keeps : group.selected = some index := by
        simpa [Selector.Selected, isMissing] using isSelected
      rw [Selector.selectedSupportsUDP, keeps, bind_some, memberList_eq_map, getElem?_map, isMember]
        at unsupported
      rw [resolveOutbound_eq_none session outbound unsupported] at isBelow
      cases isBelow
    refine follows_below none (by rw [dial]; rfl) (fun _ => ⟨rfl, rfl⟩) isMember ?_
      (ih outbound (mem_of_getElem? isMember) below isBelow)
    rw [selector_dialMember_eq group _ reachable]
    exact iff_of_true ⟨isSelected, rfl⟩ trivial
  | urlTest group members ih =>
    obtain ⟨index, outbound, below, isSelected, isMember, isBelow, rfl⟩ := resolvedAt_eq_some resolved
    refine follows_below none (by rw [dial]; rfl) (fun _ => ⟨rfl, rfl⟩) isMember ?_
      (ih outbound (mem_of_getElem? isMember) below isBelow)
    exact (and_iff_left rfl).trans (urlTest_dialMember_iff session group _ isSelected)
  | loadBalance group members ih =>
    obtain ⟨index, outbound, below, isSelected, isMember, isBelow, rfl⟩ := resolvedAt_eq_some resolved
    obtain ⟨inRange, carries, -⟩ := findIdx?_eq_some_iff_getElem.mp isSelected
    refine follows_below (group.Unwrap (memberList members) balancing metadata).2.index (by rw [dial]; rfl)
      (fun _ => ⟨rfl, rfl⟩) isMember (Iff.trans ?_ (LoadBalance.unwrap_iff inRange))
      (ih outbound (mem_of_getElem? isMember) below isBelow)
    -- the member selected carries the network, so that the pick is not refused
    refine and_congr_left' (filter_eq_some_iff.trans (and_iff_left ?_))
    rw [getElem?_eq_getElem inRange, any_some]
    exact carries

/-- A selector over a round robin of which only the first member is alive, with its index behind it. -/
def selectedPair : Outbound :=
  .selector ⟨"outer", some 0, .unset⟩
    [.loadBalance
      { tag := "inner"
        strategy := .roundRobin 1
        health := { delay := fun tag => if tag = "first" then some 100 else none } }
      [.leaf { tag := "first" }, .leaf { tag := "second" }]]

theorem resolveOutbound_follows_pair : selectedPair.Follows {} {} .tcp ⟨[0, 0], { tag := "first" }⟩ := by
  refine (resolveOutbound_follows_dial_iff {} {} .tcp (by decide) selectedPair _ rfl).mpr ⟨trivial, ?_⟩
  rintro _ ⟨⟩
  refine ⟨⟨rfl, by decide⟩, ?_⟩
  rintro _ ⟨⟩
  trivial

/-- A URL test with a delegate for UDP. -/
def delegatingTest : Outbound :=
  .urlTest { tag := "auto", candidates := 1, selectedOutboundUDP := some 0, udpOutbound := .loaded 1 }
    [.leaf { tag := "proxy" }, .leaf { tag := "relay" }]

/-- A load balancer that is about to use its second member. -/
def balancingPair : Outbound :=
  .loadBalance { tag := "balance", strategy := .roundRobin 1, health := { delay := fun _ => some 100 } }
    [.leaf { tag := "first" }, .leaf { tag := "second" }]

/-- UDP goes past the delegate of the URL test, and the load balancer is not asked. -/
theorem resolveOutbound_passes_over :
    (delegatingTest.resolveOutbound .udp).map (·.leaf.tag) = some "proxy" ∧
      (delegatingTest.dial {} {} .udp).1.map (·.leaf.tag) = some "relay" ∧
      (balancingPair.resolveOutbound .tcp).map (·.leaf.tag) = some "first" ∧
      (balancingPair.dial {} {} .tcp).1.map (·.leaf.tag) = some "second" := by
  decide

end Outbound

end SingBox
