import SingBox.Lib.Goroutine
import SingBox.Route.PreMatch

/-! # The connection manager

`ConnectionManager.NewConnection` and `NewPacketConnection`: dial the remote side, report the
handshake, hand both sides to a splicer or start one goroutine for each direction. The two
goroutines share the flag `done`.

What the rest of the program answers (dialers, wrappers of the connections, the splicer, the
copy loops of `bufio`) is given by a record of answers. A session keeps the events that the
other side can see, in order.
-/

namespace SingBox

open Lib.Goroutine

/-! ## Sessions -/

inductive Side where
  | client
  | remote
deriving DecidableEq, Repr

/-- An error: its text, whether it is one of `os.ErrInvalid`, `context.DeadlineExceeded` and
`io.EOF`, and whether it is a timeout. -/
structure Failure where
  text : String
  isMulti : Bool := false
  isTimeout : Bool := false
deriving DecidableEq, Repr

/-- `E.Cause`; what an error is survives the wrapping. -/
def Failure.cause (err : Failure) (message : String) : Failure := { err with text := message ++ ": " ++ err.text }

structure PacketNAT where
  destination : Socksaddr
  origin : Socksaddr := {}
  fakeIP : Bool := false
  unidirectional : Bool := false
deriving DecidableEq

/-- How the packets of a relayed connection are rewritten. -/
inductive Translation where
  | none
  | updateDestination (address : Addr)
  | nat (destination origin : Socksaddr)
  | unidirectionalNAT (destination origin : Socksaddr)
  | destinationNAT (destination origin : Socksaddr)
deriving DecidableEq

inductive Event where
  | opened
  | wrote (side : Side) (payload : List UInt8)
  | spliced
  | splicedPackets (nat : PacketNAT) (timeout : Nat) (cached : List Packet)
  | relays (translation : Translation) (timeout : Nat)
  | closedWrite (side : Side)
  | closed (side : Side)
  | onClose (err : Option Failure)

structure Session where
  done : Bool := false
  /-- What the cached readers of each side hold, the outermost first. -/
  cached : Side → List (List UInt8) := fun _ => []
  packets : List Packet := []
  events : List Event := []

def emit (event : Event) : Proc Session Unit :=
  .act (fun session => { session with events := session.events ++ [event] }) fun _ => .pure ()

variable (side : Side)

def close : Proc Session Unit := emit (.closed side)

/-- `done.Swap(true)`. -/
def swapDone : Proc Session Bool := .act
    (fun session => { session with done := true }) fun session => .pure session.done

def readCached : Proc Session (Option (List UInt8)) :=
  .act (fun session => { session with cached := Function.update session.cached side (session.cached side).tail })
    fun session => .pure (session.cached side).head?

def takePackets : Proc Session (List Packet) :=
  .act (fun session => { session with packets := [] }) fun session => .pure session.packets

/-- `NewCachedPacketConn` around the client connection. -/
def cachePacket (packet : Packet) : Proc Session Unit :=
  .act (fun session => { session with packets := packet :: session.packets }) fun _ => .pure ()

/-- A write, with its outcome. -/
def write (payload : List UInt8) (outcome : Option Failure) : Proc Session (Option Failure) :=
  match outcome with
  | some err => pure (some err)
  | none => do
    emit (.wrote side payload)
    pure none

section OnClose

-- whether the close handler is not nil
variable (hasOnClose : Bool)

def callOnClose (err : Option Failure) : Proc Session Unit :=
  if hasOnClose then emit (.onClose err) else pure ()

/-- `N.CloseOnHandshakeFailure` on the client connection. -/
def closeOnHandshakeFailure (err : Failure) : Proc Session Unit := do
  close .client
  callOnClose hasOnClose (some err)

/-! ## Goroutines -/

/-- How one direction ends: the copy, and what is done to the side written to. -/
structure CopyEnd where
  copy : Option Failure := none
  isDuplex : Bool := true
  closeWrite : Option Failure := none

variable (source destination : Side) (ending : CopyEnd)

/-- What a direction does when its copy has returned. -/
def finishWrite : Proc Session (Option Failure) :=
  match ending.copy with
  | some err => do
    close source
    close destination
    pure (some err)
  | none =>
    if ending.isDuplex then
      match ending.closeWrite with
      | some err => do
        close source
        close destination
        pure (some err)
      | none => do
        emit (.closedWrite destination)
        pure none
    else do
      close destination
      pure none

def connectionCopy : Proc Session Unit := do
  let err ← finishWrite source destination ending
  -- the direction that ends last calls the handler
  if ← swapDone then
    callOnClose hasOnClose err
    close source
    close destination

def packetConnectionCopy (err : Option Failure) : Proc Session Unit := do
  -- here it is the direction that ends first
  if !(← swapDone) then
    callOnClose hasOnClose err
  close source
  close destination

/-- What the splicer calls when it has ended. -/
def spliceClose (err : Option Failure) : Proc Session Unit := do
  callOnClose hasOnClose err
  close .client
  close .remote

/-! ## Streams -/

/-- The write handshake of one side. -/
structure WriteHandshake where
  needHandshakeForWrite : Bool := false
  write : Option Failure := none

variable (serverFirst : Bool) (handshake : WriteHandshake)

/-- The write that makes the handshake, and whether it carried a payload. -/
def writeHandshake : Proc Session (Option Failure × Bool) :=
  if serverFirst then do
    let err ← write destination [] handshake.write
    pure (err, false)
  else do
    match ← readCached source with
    | some payload =>
      let err ← write destination payload handshake.write
      pure (err, true)
    | none =>
      let err ← write destination [] handshake.write
      pure (err, false)

def kickWriteHandshake : Proc Session Bool :=
  if !handshake.needHandshakeForWrite then pure false
  else do
    match ← writeHandshake source destination serverFirst handshake with
    | (none, _) => pure false
    | (some err, wrotePayload) =>
      if !wrotePayload && (err.isMulti || err.isTimeout) then pure false
      else do
        if !(← swapDone) then
          callOnClose hasOnClose (some err)
        close source
        close destination
        pure true

/-- What decides whether a stream is spliced. -/
structure Splice where
  isGoConn : Bool := false
  isSpliceTarget : Bool := false
  /-- The outcomes of writing what is cached, by how much is left. -/
  writes : Nat → Option Failure := fun _ => none
  isGoReader : Bool := true
  splices : Bool := true
  ending : Option Failure := none

/-- Write what the cached readers of the client hold. -/
def forwardCached (writes : Nat → Option Failure) : Nat → Proc Session (Option Failure)
  | 0 => pure none
  | left + 1 => do
    match ← readCached .client with
    | none => pure none
    | some payload =>
      match ← write .remote payload (writes left) with
      | some err => pure (some err)
      | none => forwardCached writes left

/-- The number of cached readers of the client. -/
def cachedDepth : Proc Session Nat := .act id fun session => .pure (session.cached .client).length

def spliceConnection (splice : Splice) : Proc Session (Except Failure Bool) :=
  if !splice.isGoConn || !splice.isSpliceTarget then pure (.ok false)
  else do
    match ← forwardCached splice.writes (← cachedDepth) with
    | some err => pure (.error err)
    | none =>
      if !splice.isGoReader || !splice.splices then pure (.ok false)
      else do
        emit .spliced
        pure (.ok true)

/-! ## Texts -/

def typeLoadBalance : String := "loadbalance"

/-- What is printed of a dialer: an outbound's type, tag and chain. -/
structure DialerName where
  type : String
  tag : String
  realOutboundChain : List String := []

def dialerString : Option DialerName → String
  | none => ""
  | some outbound =>
    " using outbound/" ++ outbound.type ++ "[" ++ outbound.tag ++ "]" ++
      if outbound.type = typeLoadBalance then "[" ++ " -> ".intercalate outbound.realOutboundChain ++ "]" else ""

/-- The `String` methods of addresses. -/
structure AddressTexts where
  addr : Addr → String := fun _ => ""
  socksaddr : Socksaddr → String := fun _ => ""

def remoteString (texts : AddressTexts) (metadata : InboundContext) : String :=
  if metadata.destinationAddresses ≠ [] then
    "[" ++ ",".intercalate (metadata.destinationAddresses.map texts.addr) ++ "]"
  else texts.socksaddr metadata.destination

/-- What is answered to `NewConnection`. -/
structure ConnAnswers where
  name : Option DialerName := none
  texts : AddressTexts := {}
  dialSerialNetwork : Option Failure := none
  dialContext : Option Failure := none
  reportHandshakeSuccess : Option Failure := none
  splice : Splice := {}
  spoofSetup : Option Failure := none
  uploadHandshake : WriteHandshake := {}
  downloadHandshake : WriteHandshake := {}
  upload : CopyEnd := {}
  download : CopyEnd := {}

variable (metadata : InboundContext) (answers : ConnAnswers)

def dialConn : Option Failure :=
  if metadata.destinationAddresses ≠ [] || metadata.destination.isIP then answers.dialSerialNetwork
  else answers.dialContext

/-- The connection is spliced only when its first bytes need not be rewritten. -/
def trySplice : Proc Session (Except Failure Bool) :=
  if !metadata.tlsFragment && !metadata.tlsRecordFragment && metadata.tlsSpoof == "" then spliceConnection answers.splice
  else pure (.ok false)

/-- From the write handshakes on; the result is the goroutines that are started. -/
def startCopies : Proc Session (List (Proc Session Unit)) := do
  let serverFirst := sniffSkip metadata
  if ← kickWriteHandshake hasOnClose .client .remote serverFirst answers.uploadHandshake then
    pure []
  else if ← kickWriteHandshake hasOnClose .remote .client serverFirst answers.downloadHandshake then
    pure []
  else
    pure [connectionCopy hasOnClose .client .remote answers.upload,
      connectionCopy hasOnClose .remote .client answers.download]

def NewConnection : Proc Session (List (Proc Session Unit)) :=
  match dialConn metadata answers with
  | some err => do
    closeOnHandshakeFailure hasOnClose
      (err.cause ("open connection to " ++ remoteString answers.texts metadata ++ dialerString answers.name))
    pure []
  | none => do
    emit .opened
    match answers.reportHandshakeSuccess with
    | some err =>
      close .remote
      closeOnHandshakeFailure hasOnClose (err.cause "report handshake success")
      pure []
    | none =>
      match ← trySplice metadata answers with
      | .error err =>
        closeOnHandshakeFailure hasOnClose err
        close .remote
        pure []
      | .ok true => pure [spliceClose hasOnClose answers.splice.ending]
      | .ok false =>
        match if metadata.tlsSpoof ≠ "" then answers.spoofSetup else none with
        | some err =>
          close .remote
          closeOnHandshakeFailure hasOnClose (err.cause "tls_spoof setup")
          pure []
        | none => startCopies hasOnClose metadata answers

/-! ## Packets -/

/-- What is answered to `NewPacketConnection`; opening the remote side yields an address. -/
structure PacketAnswers where
  name : Option DialerName := none
  texts : AddressTexts := {}
  isParallelDialer : Bool := false
  dialSerialNetwork : Except Failure (Option Addr) := .ok none
  dialSerial : Except Failure (Option Addr) := .ok none
  dialContext : Except Failure (Option Addr) := .ok none
  listenSerialNetworkPacket : Except Failure (Option Addr) := .ok none
  /-- `none` when the dialer is no `PacketDialerWithDestination`. -/
  listenPacketWithDestination : Option (Except Failure (Option Addr)) := none
  listenPacket : Option Failure := none
  reportHandshakeSuccess : Option Failure := none
  isFakeIP : Bool := false
  isSpliceSource : Bool := false
  isSpliceTarget : Bool := false
  splices : Bool := true
  spliceEnding : Option Failure := none
  isNATConn : Bool := false
  upload : Option Failure := none
  download : Option Failure := none

variable (answers : PacketAnswers)

/-- The connected remote side, when `udp_connect` is set. -/
def dialPacketConn : Except Failure (Option Addr) :=
  if metadata.destinationAddresses ≠ [] then
    if answers.isParallelDialer then answers.dialSerialNetwork else answers.dialSerial
  else if metadata.destination.isIP then
    if answers.isParallelDialer then answers.dialSerialNetwork else answers.dialContext
  else answers.dialContext

def listenPacketConn : Except Failure (Option Addr) :=
  if metadata.destinationAddresses ≠ [] then answers.listenSerialNetworkPacket
  else match answers.listenPacketWithDestination with
    | some result => result
    | none => match answers.listenPacket with
      | some err => .error err
      | none => .ok none

/-- Open the remote side: the address the packets are really sent to, if it is another one. -/
def openPacketConn : Except Failure (Option Addr) :=
  if metadata.udpConnect then
    match dialPacketConn metadata answers with
    | .error err => .error
        (err.cause ("open packet connection to " ++ remoteString answers.texts metadata ++ dialerString answers.name))
    | .ok connRemoteAddr => .ok (if connRemoteAddr ≠ metadata.destination.addr then connRemoteAddr else none)
  else
    match listenPacketConn metadata answers with
    | .error err => .error (err.cause ("listen packet connection" ++ dialerString answers.name))
    | .ok destinationAddress => .ok destinationAddress

def packetTimeout : Nat :=
  if metadata.udpTimeout > 0 then metadata.udpTimeout
  else
    let protocol := if metadata.protocol = "" then (portProtocols metadata.destination.port).getD "" else metadata.protocol
    if protocol ≠ "" then protocolTimeouts protocol else 0

section Packets

variable (env : Environment) (metadata : InboundContext)

/-- Whether a rule has replaced the destination. -/
def isRerouted : Bool :=
  env.isValid metadata.routeOriginalDestination && metadata.routeOriginalDestination != metadata.destination

variable (destinationAddress : Option Addr)

/-- The translation that the splicer is given. -/
def spliceNAT (isFakeIP : Bool) : PacketNAT where
  destination := match destinationAddress with
    | some address => { addr := some address, port := metadata.destination.port }
    | none => metadata.destination
  origin :=
    if isFakeIP then metadata.originDestination
    else if isRerouted env metadata then metadata.routeOriginalDestination
    else if destinationAddress.isSome && metadata.destination.isIP then metadata.destination
    else {}
  fakeIP := isFakeIP
  unidirectional := !isFakeIP && metadata.udpDisableDomainUnmapping && !metadata.destination.isIP

/-- The translation of a relayed connection. -/
def relayTranslation (isNATConn : Bool) : Translation :=
  match destinationAddress with
  | some address =>
    let originDestination :=
      if env.isValid metadata.routeOriginalDestination then metadata.routeOriginalDestination else metadata.destination
    if isNATConn then .updateDestination address
    else
      let destination : Socksaddr := { addr := some address, port := metadata.destination.port }
      if metadata.destination ≠ destination then
        if metadata.udpDisableDomainUnmapping then .unidirectionalNAT destination originDestination
        else .nat destination originDestination
      else if isRerouted env metadata then .destinationNAT metadata.destination metadata.routeOriginalDestination
      else .none
  | none =>
    if isRerouted env metadata then .destinationNAT metadata.destination metadata.routeOriginalDestination else .none

/-- Put packets back in front of the client connection, the last one first. -/
def cacheBackward : List Packet → Proc Session Unit
  | [] => pure ()
  | packet :: cached => do
    cacheBackward cached
    cachePacket packet

def splicePacketConnection (answers : PacketAnswers) : Proc Session Bool :=
  if !answers.isSpliceSource || !answers.isSpliceTarget then pure false
  else do
    let cached ← takePackets
    if answers.splices then
      emit (.splicedPackets (spliceNAT env metadata destinationAddress answers.isFakeIP) (packetTimeout metadata) cached)
      pure true
    else
      cacheBackward cached
      pure false

def NewPacketConnection (metadata : InboundContext) (answers : PacketAnswers) :
    Proc Session (List (Proc Session Unit)) :=
  match openPacketConn metadata answers with
  | .error err => do
    closeOnHandshakeFailure hasOnClose err
    pure []
  | .ok destinationAddress => do
    emit .opened
    match answers.reportHandshakeSuccess with
    | some _ =>
      close .client
      close .remote
      pure []
    | none =>
      if ← splicePacketConnection env metadata destinationAddress answers then
        pure [spliceClose hasOnClose answers.spliceEnding]
      else
        emit (.relays (relayTranslation env metadata destinationAddress answers.isNATConn) (packetTimeout metadata))
        pure [packetConnectionCopy hasOnClose .client .remote answers.upload,
          packetConnectionCopy hasOnClose .remote .client answers.download]

end Packets

end OnClose

end SingBox
