import SingBox.Transport.Xmux

/-! # Packet-up uploads

`packetConn.Write` of `transport/v2rayxhttp/conn.go` sends a write as posts that are numbered, and the
server puts their payloads together in the order of the numbers. A post takes its number before it is
sent and does not give it back when it fails, so nothing that comes after a failed post is ever read.
-/

open List

namespace SingBox.PacketUp

open Xmux (IntRange)

abbrev Bytes := List UInt8

/-- `base64.RawURLEncoding`. -/
structure Base64 where
  encodeToString : Bytes → Bytes
  decodeString : Bytes → Bytes
  decode_encode (payload : Bytes) : decodeString (encodeToString payload) = payload

/-- Headers and cookies differ in the names of the chunks only. -/
inductive Placement where
  | body
  | header
  | cookie
deriving DecidableEq, Repr

inductive UplinkData where
  | body (payload : Bytes)
  | chunks (values : List Bytes)

structure Client where
  base64 : Base64
  uplinkDataPlacement : Placement := .body
  uplinkChunkSize : IntRange := {}
  scMaxEachPostBytes : IntRange := {}

/-- What a connection meets: whether the post with a number is delivered, and the numbers that are drawn
for the sizes of its chunks. -/
structure Network where
  delivers : Nat → Bool
  draws : Nat → Nat → Nat := fun _ _ => 0

/-- `delivered` are the posts that have reached the server, with their numbers. -/
structure PacketConn where
  seq : Nat := 0
  delivered : List (Nat × UplinkData) := []

/-- One call of `Write`, with the number that is drawn for the size of its posts. -/
structure Call where
  draw : Nat := 0
  b : Bytes

/-! ## The client -/

/-- Every round takes at least one byte of the text, so there are no more rounds than bytes. -/
def chunkEncoded (size : IntRange) (draws : Nat → Nat) : Nat → Bytes → List Bytes
  | rounds + 1, char :: encoded =>
    let n := size.rand (draws rounds)
    let n := if n ≤ 0 ∨ (char :: encoded).length < n then (char :: encoded).length else n.toNat
    (char :: encoded).take n :: chunkEncoded size draws rounds ((char :: encoded).drop n)
  | _, _ => []

variable (client : Client) (network : Network)

def applyUplinkData (seq : Nat) (payload : Bytes) : UplinkData :=
  match client.uplinkDataPlacement with
  | .body => .body payload
  | .header | .cookie =>
    let encoded := client.base64.encodeToString payload
    .chunks (chunkEncoded client.uplinkChunkSize (network.draws seq) encoded.length encoded)

/-- Whether the post was delivered, and the connection after it. -/
def sendPacket (conn : PacketConn) (b : Bytes) : Bool × PacketConn :=
  (network.delivers conn.seq,
    { seq := conn.seq + 1
      delivered :=
        if network.delivers conn.seq then conn.delivered ++ [(conn.seq, applyUplinkData client network conn.seq b)]
        else conn.delivered })

/-- The loop of `Write`, which takes at least one byte in each round: the number of bytes written. -/
def writeLoop (maxEach : Nat) : Nat → Bytes → PacketConn → Nat × PacketConn
  | rounds + 1, byte :: b, conn =>
    let sent := sendPacket client network conn ((byte :: b).take maxEach)
    if sent.1 then
      let rest := writeLoop maxEach rounds ((byte :: b).drop maxEach) sent.2
      (((byte :: b).take maxEach).length + rest.1, rest.2)
    else (0, sent.2)
  | _, _, conn => (0, conn)

def write (call : Call) (conn : PacketConn) : Nat × PacketConn :=
  let maxEach := client.scMaxEachPostBytes.rand call.draw
  writeLoop client network (if maxEach ≤ 0 then call.b.length else maxEach.toNat) call.b.length call.b conn

/-- The connection after the calls, and the bytes that they have reported as written. -/
def writes (calls : List Call) : PacketConn × Bytes :=
  calls.foldl (fun run call =>
    let written := write client network call run.1
    (written.2, run.2 ++ call.b.take written.1)) ({}, [])

/-! ## The server -/

def UplinkData.payload : UplinkData → Bytes
  | .body payload => payload
  | .chunks values => client.base64.decodeString values.flatten

/-- The payloads with consecutive numbers. -/
def reassemble : Nat → List (Nat × UplinkData) → Bytes
  | _, [] => []
  | expected, (seq, data) :: rest =>
    if seq = expected then data.payload client ++ reassemble (expected + 1) rest else []

theorem flatten_chunkEncoded {size : IntRange} {draws : Nat → Nat} {rounds : Nat} {encoded : Bytes}
    (enough : encoded.length ≤ rounds) : (chunkEncoded size draws rounds encoded).flatten = encoded := by
  induction rounds generalizing encoded with
  | zero => simp [length_eq_zero_iff.mp (Nat.le_zero.mp enough), chunkEncoded]
  | succ rounds ih =>
    cases encoded with
    | nil => simp [chunkEncoded]
    | cons char encoded =>
      rw [chunkEncoded, flatten_cons, ih, take_append_drop]
      simp only [length_drop, length_cons] at enough ⊢
      split <;> omega

@[simp] theorem payload_applyUplinkData (seq : Nat) (payload : Bytes) :
    (applyUplinkData client network seq payload).payload client = payload := by
  unfold applyUplinkData
  cases client.uplinkDataPlacement <;>
    simp [UplinkData.payload, flatten_chunkEncoded, client.base64.decode_encode]

/-- A number that is missing hides what comes after it. -/
theorem reassemble_concat {expected missing later : Nat} {posts : List (Nat × UplinkData)} {data : UplinkData}
    (isMissing : ∀ post ∈ posts, post.1 ≠ missing) (before : expected ≤ missing) (after : missing < later) :
    reassemble client expected (posts ++ [(later, data)]) = reassemble client expected posts := by
  induction posts generalizing expected with
  | nil => simp [reassemble, show later ≠ expected by omega]
  | cons post posts ih =>
    obtain ⟨differs, isMissing⟩ := forall_mem_cons.mp isMissing
    simp only [cons_append, reassemble]
    split
    · rw [ih isMissing (by omega)]
    · rfl

/-! ## Runs -/

variable {client network}

/-- The server has read what was reported, and reads on as long as no post has failed. -/
structure Keeps (client : Client) (network : Network) (conn : PacketConn) (reported : Bytes) : Prop where
  same : reassemble client 0 conn.delivered = reported
  goesOn : (∀ seq < conn.seq, network.delivers seq) → ∀ more,
    reassemble client 0 (conn.delivered ++ more) = reported ++ reassemble client conn.seq more

section
variable (stays : ∀ first later, first < later → network.delivers first = false → network.delivers later = false)
include stays

variable {conn : PacketConn}

theorem Keeps.sendPacket {reported : Bytes} (keeps : Keeps client network conn reported) (b : Bytes) :
    Keeps client network (sendPacket client network conn b).2
      (reported ++ if network.delivers conn.seq then b else []) := by
  cases isDelivered : network.delivers conn.seq with
  | true =>
    have allDelivered : ∀ seq < conn.seq, network.delivers seq := by
      intro seq isBefore
      by_contra failed
      simp [stays seq conn.seq isBefore (by simpa using failed)] at isDelivered
    have goesOn := keeps.goesOn allDelivered
    constructor <;> simp [PacketUp.sendPacket, isDelivered, goesOn, reassemble]
  | false =>
    constructor
    · simp [PacketUp.sendPacket, isDelivered, keeps.same]
    · intro allDelivered
      rw [allDelivered conn.seq (Nat.lt_succ_self _)] at isDelivered
      cases isDelivered

theorem Keeps.writeLoop {reported b : Bytes} {maxEach rounds : Nat} (keeps : Keeps client network conn reported) :
    Keeps client network (writeLoop client network maxEach rounds b conn).2
      (reported ++ b.take (writeLoop client network maxEach rounds b conn).1) := by
  induction rounds generalizing conn reported b with
  | zero => simpa [PacketUp.writeLoop] using keeps
  | succ rounds ih =>
    cases b with
    | nil => simpa [PacketUp.writeLoop] using keeps
    | cons byte b =>
      have sent := keeps.sendPacket stays ((byte :: b).take maxEach)
      rw [PacketUp.writeLoop]
      cases isDelivered : network.delivers conn.seq with
      | true =>
        have later := @ih _ _ ((byte :: b).drop maxEach) sent
        simp only [PacketUp.sendPacket, isDelivered, if_true] at later ⊢
        rw [append_assoc, ← take_length_add_append, take_append_drop] at later
        exact later
      | false => simpa [PacketUp.sendPacket, isDelivered] using sent

theorem Keeps.writes (calls : List Call) :
    Keeps client network (writes client network calls).1 (writes client network calls).2 := by
  induction calls using reverseRecOn with
  | nil => exact ⟨rfl, fun _ _ => rfl⟩
  | append_singleton calls call ih =>
    rw [PacketUp.writes, foldl_concat]
    exact ih.writeLoop stays

end

/-- A write of one byte is one post, whatever the size of posts. -/
theorem write_byte (conn : PacketConn) : write client network { b := [0] } conn =
    ((sendPacket client network conn [0]).1.toNat, (sendPacket client network conn [0]).2) := by
  obtain ⟨bound, isBound⟩ : ∃ bound, (if client.scMaxEachPostBytes.rand 0 ≤ 0 then 1
      else (client.scMaxEachPostBytes.rand 0).toNat) = bound + 1 := Nat.exists_eq_add_one.mpr (by split <;> omega)
  simp only [write, length_singleton, isBound, writeLoop, take_succ_cons, take_nil]
  split <;> simp_all

theorem writes_byte (count : Nat) : writes client network (replicate (count + 1) { b := [0] }) =
      let run := writes client network (replicate count { b := [0] })
      let sent := sendPacket client network run.1 [0]
      (sent.2, run.2 ++ [0].take sent.1.toNat) := by
  rw [writes, replicate_succ', foldl_concat, write_byte]
  rfl

theorem writes_bytes (count : Nat) : (writes client network (replicate count { b := [0] })).1.seq = count ∧
      ∀ post ∈ (writes client network (replicate count { b := [0] })).1.delivered, network.delivers post.1 := by
  induction count with
  | zero => simp [writes]
  | succ count ih =>
    rw [writes_byte]
    refine ⟨congrArg (· + 1) ih.1, ?_⟩
    simp only [sendPacket]
    split
    · rename_i isDelivered
      exact forall_mem_append.mpr ⟨ih.2, by simpa using isDelivered⟩
    · exact ih.2

/-- The server reads exactly what `Write` has reported, whatever is written, exactly if no post is
delivered after one that has failed. -/
theorem reassemble_writes_iff (client : Client) (network : Network) :
    (∀ calls, reassemble client 0 (writes client network calls).1.delivered = (writes client network calls).2) ↔
      ∀ first later, first < later → network.delivers first = false → network.delivers later = false := by
  constructor
  · intro reads first later isLater failed
    by_contra succeeds
    rw [Bool.not_eq_false] at succeeds
    obtain ⟨isSeq, allDelivered⟩ := @writes_bytes client network later
    have before := reads (replicate later { b := [0] })
    have after := reads (replicate (later + 1) { b := [0] })
    rw [writes_byte] at after
    simp only [sendPacket, isSeq, succeeds, if_true, Bool.toNat_true, take_succ_cons, take_zero] at after
    rw [reassemble_concat client (fun post isPost isFirst => by simp [← isFirst, allDelivered post isPost] at failed)
      (Nat.zero_le _) isLater, before] at after
    simp at after
  · exact fun stays calls => (Keeps.writes stays calls).same

/-- The first post fails, and the second write reports a byte that the server never reads. -/
theorem write_after_failure_lost :
    let client : Client := { base64 := ⟨id, id, fun _ => rfl⟩ }
    let run := writes client { delivers := fun seq => seq != 0 } [{ b := [1] }, { b := [2] }]
    run.2 = [2] ∧ reassemble client 0 run.1.delivered = [] := by decide

end SingBox.PacketUp
