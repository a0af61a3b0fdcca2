import SingBox.Adapter.Inbound

/-! # Sniffing

`common/sniff`: the sniffers look at what a client has sent and fill in the protocol,
the host and the client of the metadata. What each of them recognises is left open;
`PeekStream` and `PeekPacket`, which drive them, are modelled with what they read.

Octets and packets carry the position at which the client sent them. Nothing reads it;
it tells equal ones apart.
-/

open List

namespace SingBox

/-! ## What a client sends -/

structure Octet where
  value : UInt8
  position : Nat
deriving DecidableEq, Repr

structure Packet where
  payload : List UInt8
  destination : Socksaddr
  position : Nat
deriving DecidableEq

/-- What the next read of a stream does. A timeout is a failed read like any other. -/
inductive StreamRead where
  | data (octets : List Octet)
  | failed
  | deadlineFailed
deriving DecidableEq, Repr

/-- What the next read of a packet connection does. -/
inductive PacketRead where
  | packet (packet : Packet)
  | timeout
  | failed
  | canceled
deriving DecidableEq

/-- The octets of a stream that are still to be read. -/
def StreamRead.octets : List StreamRead → List Octet
  | [] => []
  | .data octets :: reads => octets ++ StreamRead.octets reads
  | .failed :: reads | .deadlineFailed :: reads => StreamRead.octets reads

/-- The packets that are still to be read. -/
def PacketRead.packets : List PacketRead → List Packet
  | [] => []
  | .packet sent :: reads => sent :: PacketRead.packets reads
  | .timeout :: reads | .failed :: reads | .canceled :: reads => PacketRead.packets reads

/-! ## Sniffers -/

inductive StreamSniffer where
  | tlsClientHello
  | httpHost
  | streamDomainNameQuery
  | bitTorrent
  | ssh
  | rdp
deriving DecidableEq, Repr

inductive PacketSniffer where
  | domainNameQuery
  | quicClientHello
  | quicShortHeader
  | stunMessage
  | utp
  | udpTracker
  | dtlsRecord
  | ntp
deriving DecidableEq, Repr

/-- The part of the metadata that sniffers read and write. -/
structure SniffRecord where
  protocol : String
  sniffHost : String
  client : String
  sniffContext : List CryptoFragment
  domain : String
deriving DecidableEq, Repr

namespace InboundContext

variable (metadata : InboundContext)

def sniffRecord : SniffRecord where
  protocol := metadata.protocol
  sniffHost := metadata.sniffHost
  client := metadata.client
  sniffContext := metadata.sniffContext
  domain := metadata.domain

def withSniffRecord (record : SniffRecord) : InboundContext :=
  { metadata with
    protocol := record.protocol
    sniffHost := record.sniffHost
    client := record.client
    sniffContext := record.sniffContext
    domain := record.domain }

end InboundContext

/-- What each sniffer makes of the bytes it is shown, and the size of a sniff buffer. -/
structure Sniffers where
  stream : StreamSniffer → SniffRecord → List UInt8 → SniffRecord × Option SniffError :=
    fun _ record _ => (record, some .failed)
  packet : PacketSniffer → SniffRecord → List UInt8 → SniffRecord × Option SniffError :=
    fun _ record _ => (record, some .failed)
  bufferSize : Nat := 16384

/-- `E.Errors`: an error that is `ErrNeedMoreData` if one of them is. -/
def SniffError.errors : List SniffError → Option SniffError
  | [] => none
  | errors => some (if errors.contains .needMoreData then .needMoreData else .failed)

section Peek

variable (sniffers : Sniffers)

/-- One sniffer after the other, until one recognises the bytes. -/
def runSniffers {α : Type} (sniffer : α → SniffRecord → List UInt8 → SniffRecord × Option SniffError)
    (bytes : List UInt8) : List α → List SniffError → SniffRecord → SniffRecord × Option SniffError
  | [], errors, record => (record, SniffError.errors errors)
  | kind :: kinds, errors, record =>
    match sniffer kind record bytes with
    | (record, none) => (record, none)
    | (record, some error) => runSniffers sniffer bytes kinds (errors ++ [error]) record

def PeekPacket (kinds : List PacketSniffer) (metadata : InboundContext) (payload : List UInt8) :
    InboundContext × Option SniffError :=
  let (record, error) := runSniffers sniffers.packet payload kinds [] metadata.sniffRecord
  (metadata.withSniffRecord record, error)

/-- The result of `PeekStream`: the metadata and the error, the buffer that was filled
and the reads that are left. -/
structure PeekedStream where
  metadata : InboundContext
  error : Option SniffError
  buffer : List Octet
  reads : List StreamRead

/-- `PeekStream` from some iteration on. `sniffError` is that of the iteration before,
and `none` in the first, where a failed read is an error of its own. -/
def peekStreamLoop (kinds : List StreamSniffer) (buffers : List (List Octet)) :
    List StreamRead → Option SniffError → List Octet → InboundContext → PeekedStream
  | [], sniffError, buffer, metadata => ⟨metadata, some (sniffError.getD .failed), buffer, []⟩
  | .deadlineFailed :: reads, _, buffer, metadata => ⟨metadata, some .failed, buffer, reads⟩
  | .failed :: reads, sniffError, buffer, metadata => ⟨metadata, some (sniffError.getD .failed), buffer, reads⟩
  | .data octets :: reads, sniffError, buffer, metadata =>
    let free := sniffers.bufferSize - buffer.length
    -- a full buffer is not read into
    if free = 0 then ⟨metadata, some (sniffError.getD .failed), buffer, .data octets :: reads⟩
    else
      let buffer := buffer ++ octets.take free
      let left := octets.drop free
      let bytes := (buffers.flatten ++ buffer).map Octet.value
      let (record, error) := runSniffers sniffers.stream bytes kinds [] metadata.sniffRecord
      let metadata := metadata.withSniffRecord record
      match error with
      | none => ⟨metadata, none, buffer, if left = [] then reads else .data left :: reads⟩
      | some .failed => ⟨metadata, some .failed, buffer, if left = [] then reads else .data left :: reads⟩
      | some .needMoreData =>
        if left = [] then peekStreamLoop kinds buffers reads (some .needMoreData) buffer metadata
        else ⟨metadata, some .needMoreData, buffer, .data left :: reads⟩

def PeekStream (kinds : List StreamSniffer) (buffers : List (List Octet)) (reads : List StreamRead)
    (metadata : InboundContext) : PeekedStream :=
  peekStreamLoop sniffers kinds buffers reads none [] metadata

end Peek

/-- `sniff.Skip`: protocols in which the server speaks first. -/
def sniffSkip (metadata : InboundContext) : Bool :=
  [25, 465, 587, 143, 993, 110, 995].contains metadata.destination.port

/-! ## What a peek leaves -/

/-- Peeking takes octets from the front of the stream and keeps them all. -/
theorem peekStreamLoop_octets (sniffers : Sniffers) (kinds : List StreamSniffer) (buffers : List (List Octet))
    (reads : List StreamRead) (sniffError : Option SniffError) (buffer : List Octet) (metadata : InboundContext) :
    let peeked := peekStreamLoop sniffers kinds buffers reads sniffError buffer metadata
    peeked.buffer ++ StreamRead.octets peeked.reads = buffer ++ StreamRead.octets reads := by
  induction reads generalizing sniffError buffer metadata with
  | nil => rfl
  | cons read reads ih =>
    cases read with
    | failed | deadlineFailed => rfl
    | data octets =>
      simp only [peekStreamLoop]
      split
      · rfl
      · -- what did not fit stays in front of the other reads
        have kept : ∀ free, octets.take free ++
            StreamRead.octets (if octets.drop free = [] then reads else .data (octets.drop free) :: reads) =
              octets ++ StreamRead.octets reads := by
          intro free
          split
          next nothing =>
            rw [take_of_length_le (drop_eq_nil_iff.mp nothing)]
          · rw [StreamRead.octets, ← append_assoc, take_append_drop]
        split
        · simp only [append_assoc, kept, StreamRead.octets]
        · simp only [append_assoc, kept, StreamRead.octets]
        · split
          next nothing =>
            rw [ih, StreamRead.octets, append_assoc]
            have all := kept (sniffers.bufferSize - buffer.length)
            rw [if_pos nothing] at all
            rw [all]
          next left =>
            have all := kept (sniffers.bufferSize - buffer.length)
            rw [if_neg left] at all
            rw [append_assoc, all, StreamRead.octets]

end SingBox
