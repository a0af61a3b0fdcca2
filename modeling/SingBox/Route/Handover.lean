import SingBox.Lib.Stack
import SingBox.Route.MatchRule

/-! # Handing a connection on

`routeConnection` and `routePacketConnection`: after the rules have been matched, what the
sniff actions have read is put back in front of the connection, and the connection is
handed to an outbound or answered as DNS. A connection is what reading it will yield.
-/

namespace SingBox

open Lib.Walk Lib.Stack

/-! ## Connections -/

inductive Handler where
  | outbound (destined : Destined)
  | hijackDNS

structure HandedConn where
  handler : Handler
  conn : List Octet

/-- A packet connection is handed to an outbound behind a translation when its destination
was a FakeIP or was overridden: `nat` is the original and the new destination. -/
structure HandedPacketConn where
  handler : Handler
  nat : Option (Socksaddr × Socksaddr) := none
  conn : List Packet

def rewriteReadDestination (nat : Option (Socksaddr × Socksaddr)) (packet : Packet) : Packet :=
  match nat with
  | none => packet
  | some (origin, destination) =>
    if packet.destination.addr = origin.addr then
      { packet with destination := destination.withPort packet.destination.port }
    else packet

/-- What the handler reads. -/
def HandedPacketConn.read (handed : HandedPacketConn) :
    List Packet := handed.conn.map (rewriteReadDestination handed.nat)

namespace Router

variable (router : Router)

/-! ## Routing -/

variable (network : Network)

/-- The outbound a connection is dialled through. -/
def outboundHandler (outbound : Option Outbound) : Option Handler :=
  (outbound.bind fun outbound => outbound.resolveOutbound network).map .outbound

/-- What is done with a connection for which the rule was selected; `none` is an error.
Only route, bypass, reject and hijack-dns rules are selected. -/
def selectedHandler (rule : RouteRule) : Option Handler :=
  match rule.action with
  | .route outbound _ | .bypass outbound _ => outboundHandler network (router.outbound outbound)
  | .hijackDNS => some .hijackDNS
  | .reject _ | .routeOptions _ | .direct | .sniff _ | .sniffOverrideDestination | .resolve _ => none

/-- The handler and the state after `matchRule`. -/
def handlerOf : Ending MatchState MatchStop → Option (Handler × MatchState)
  | .ended state => (outboundHandler network router.defaultOutbound).map (·, state)
  | .halted position stop =>
    match stop.fatalErr with
    | some _ => none
    | none => (router.rules[position]?.bind (router.selectedHandler network)).map (·, stop.state)

variable (metadata : InboundContext)

/-- DNS queries that the tun inbound has recognised are not matched. -/
def isTunDNS : Bool := metadata.inboundType = "tun" && metadata.protocol = "dns"

variable (cache : QUICSniffCache)

/-- `routeConnection`. Both handlers get the buffers put in front by the same loop. -/
def routeConnection (cache : QUICSniffCache) (metadata : InboundContext) (reads : List StreamRead) :
    Option HandedConn :=
  let metadata := { metadata with network := .tcp }
  if router.isReserved metadata.destination.fqdn then none
  else if isTunDNS metadata then some ⟨.hijackDNS, StreamRead.octets reads⟩
  else
    let start : MatchState := { metadata, input := .stream reads, quicSniffCache := cache }
    ((router.matchRule start).bind (router.handlerOf .tcp)).map fun (handler, state) =>
      ⟨handler, stack state.buffers state.input.octets⟩

/-- `NewDNSPacketConnection` answers the packets it is given in reverse order before it
reads others. -/
def hijackDNSPacket (packetBuffers : List Packet) (conn : List Packet) : HandedPacketConn :=
  { handler := .hijackDNS, conn := packetBuffers.reverse ++ conn }

/-- The packets that were read are put back from the last one on. -/
def handPackets (destined : Destined) (state : MatchState) : HandedPacketConn where
  handler := .outbound destined
  nat := if state.metadata.fakeIP || state.metadata.destOverride then
      some (state.metadata.originDestination, state.metadata.destination)
    else none
  conn := stackBackward (state.packetBuffers.map fun packet => [packet]) state.input.packetList

def routePacketConnection (cache : QUICSniffCache) (metadata : InboundContext) (reads : List PacketRead) :
    Option HandedPacketConn :=
  let metadata := { metadata with network := .udp }
  if isTunDNS metadata then some (hijackDNSPacket [] (PacketRead.packets reads))
  else
    let start : MatchState := { metadata, input := .packets reads, quicSniffCache := cache }
    ((router.matchRule start).bind (router.handlerOf .udp)).map fun
      | (.hijackDNS, state) => hijackDNSPacket state.packetBuffers state.input.packetList
      | (.outbound destined, state) => handPackets destined state

end Router

end SingBox
