import SingBox.Lib.Tally

/-! # Pooled connections

`transport/v2rayxhttp/xmux.go`: XHTTP dials share a pool of HTTP connections. A dial obtains a
connection from the manager and counts itself as a stream of it afterwards; a connection that is
retired is closed when it has no streams, at once or when the last one leaves.

`get` runs under the lock of the manager, every change of a connection under the lock of that
connection. The steps of the dials, of the streams and of the manager's `Close` interleave
freely. Connections are numbered in the order in which they are opened, dials in the order in
which they obtain a connection.
-/

namespace SingBox.Xmux

open Lib

abbrev Time := Int

/-! ## Connections -/

structure IntRange where
  min : Int := 0
  max : Int := 0
deriving DecidableEq, Repr

/-- `rand`, with the number that is drawn. -/
def IntRange.rand (range : IntRange) (draw : Nat) : Int :=
  if range.max ≤ range.min then range.min else range.min + draw % (range.max - range.min + 1)

structure XmuxConfig where
  maxConcurrency : IntRange := {}
  maxConnections : IntRange := {}
  cMaxReuseTimes : IntRange := {}
  hMaxRequestTimes : IntRange := {}
  hMaxReusableSecs : IntRange := {}
deriving DecidableEq, Repr

/-- `closes` counts the calls of `conn.Close`; `reuse` and `handed` are the limit that was rolled
for the connection and the number of times it was handed out. -/
structure XmuxClient where
  openUsage : Int := 0
  leftUsage : Int := -1
  leftRequests : Int32 := Int32.maxValue
  unreusableAt : Option Time := none
  consecFails : Int32 := 0
  failing : Bool := false
  closed : Bool := false
  closes : Nat := 0
  reuse : Int := 0
  handed : Nat := 0
deriving DecidableEq, Repr

namespace XmuxClient

variable (client : XmuxClient)

def close : XmuxClient :=
  { client with closed := true, closes := if client.openUsage ≤ 0 then client.closes + 1 else client.closes }

def addOpenUsage (delta : Int) : XmuxClient :=
  let openUsage := client.openUsage + delta
  { client with
    openUsage
    closes := if client.closed ∧ openUsage ≤ 0 then client.closes + 1 else client.closes }

def takeRequest : XmuxClient := { client with leftRequests := client.leftRequests - 1 }

def xmuxBreakerThreshold : Int32 := 3

/-- `noteFailure`, up to the manager; the second component is whether the breaker trips. -/
def noteFailure : XmuxClient × Bool :=
  let consecFails := client.consecFails + 1
  if consecFails ≠ xmuxBreakerThreshold then ({ client with consecFails }, false)
  else ({ client with consecFails, failing := true }, true)

def noteSuccess : XmuxClient := { client with consecFails := 0 }

def isClosed : Bool := 0 < client.closes

end XmuxClient

inductive EvictCause where
  | closed
  | failing
  | reuse
  | requests
  | expired
deriving DecidableEq, Repr

variable (client : XmuxClient)

def XmuxClient.evictCause (now : Time) : Option EvictCause :=
  if client.isClosed then some .closed
  else if client.failing then some .failing
  else if client.leftUsage = 0 then some .reuse
  else if client.leftRequests ≤ 0 then some .requests
  else if client.unreusableAt.any (now > ·) then some .expired
  else none

/-! ## The manager -/

structure XmuxManager where
  config : XmuxConfig
  concurrency : Int
  connections : Int
  /-- Every connection that was ever opened, and how many there are. -/
  conns : Nat → XmuxClient := fun _ => {}
  opened : Nat := 0
  /-- The pool. -/
  clients : List Nat := []
  backoffDelay : Int := 0
  blockedUntil : Time := 0
  backoffArmed : Bool := false

def newXmuxManager (config : XmuxConfig) (concurrencyDraw connectionsDraw : Nat) : XmuxManager where
  config := config
  concurrency := config.maxConcurrency.rand concurrencyDraw
  connections := config.maxConnections.rand connectionsDraw

/-- The time and the numbers that a call of `get` draws. -/
structure Roll where
  now : Time
  reuse : Nat := 0
  requests : Nat := 0
  secs : Nat := 0
  choice : Nat := 0
deriving DecidableEq, Repr

namespace XmuxManager

variable (manager : XmuxManager)

def update (client : Nat) (change : XmuxClient → XmuxClient) : XmuxManager :=
  { manager with conns := Function.update manager.conns client (change (manager.conns client)) }

def xmuxBackoffInitial : Int := 100

def xmuxBackoffCap : Int := 3000

variable (now : Time)

def noteBreakerTrip : XmuxManager :=
  let backoffDelay :=
    if manager.backoffDelay = 0 then xmuxBackoffInitial
    else if manager.backoffDelay * 2 > xmuxBackoffCap then xmuxBackoffCap
    else manager.backoffDelay * 2
  { manager with backoffDelay, blockedUntil := now + backoffDelay, backoffArmed := true }

def resetBackoff : XmuxManager :=
  if manager.backoffArmed then { manager with backoffDelay := 0, blockedUntil := 0, backoffArmed := false }
  else manager

variable (roll : Roll)

/-- The connection that `newClientLocked` opens. It is handed out by its caller. -/
def newClient : XmuxClient :=
  let reuse := manager.config.cMaxReuseTimes.rand roll.reuse
  let requests := manager.config.hMaxRequestTimes.rand roll.requests
  let secs := manager.config.hMaxReusableSecs.rand roll.secs
  { leftUsage := if reuse > 0 then reuse - 1 else -1
    leftRequests := if requests > 0 then .ofInt requests else Int32.maxValue
    unreusableAt := if secs > 0 then some (roll.now + secs * 1000) else none
    reuse
    handed := 1 }

def newClientLocked : XmuxManager × Except Int Nat :=
  ({ manager with
      conns := Function.update manager.conns manager.opened (manager.newClient roll)
      opened := manager.opened + 1
      clients := manager.clients ++ [manager.opened] }, .ok manager.opened)

def evicts (client : Nat) : Bool := ((manager.conns client).evictCause now).isSome

/-- The first half of `get`: the connections that may not be used any more leave the pool, and
are closed. -/
def evict : XmuxManager :=
  let evicted := manager.clients.filter (manager.evicts now)
  let remaining := { manager with clients := manager.clients.filter fun client => !manager.evicts now client }
  evicted.foldl (fun manager client => manager.update client XmuxClient.close) remaining

/-- The connections that may take another stream. -/
def candidates : List Nat :=
  if manager.concurrency > 0 then
    manager.clients.filter fun client => (manager.conns client).openUsage < manager.concurrency
  else manager.clients

def handOut : XmuxClient :=
  { client with
    leftUsage := if client.leftUsage > 0 then client.leftUsage - 1 else client.leftUsage
    handed := client.handed + 1 }

/-- The second half of `get`. -/
def choose : XmuxManager × Except Int Nat :=
  if manager.clients = [] then
    if manager.backoffArmed ∧ manager.blockedUntil - roll.now > 0 then (manager, .error (manager.blockedUntil - roll.now))
    else manager.newClientLocked roll
  else if manager.connections > 0 ∧ manager.clients.length < manager.connections then manager.newClientLocked roll
  else
    match manager.candidates[roll.choice % manager.candidates.length]? with
    | none => manager.newClientLocked roll
    | some client => (manager.update client handOut, .ok client)

/-- A connection for a new stream, or the time to wait. -/
def get : XmuxManager × Except Int Nat := (manager.evict roll.now).choose roll

end XmuxManager

/-! ## Interleavings -/

/-- A dial has obtained a connection, is a stream of it, or has released it. -/
inductive Dial where
  | idle
  | obtained (client : Nat)
  | streaming (client : Nat)
  | released (client : Nat)
deriving DecidableEq, Repr

/-- `retiring` are the connections that `Close` has taken from the pool and not closed yet. -/
structure State where
  manager : XmuxManager
  retiring : List Nat := []
  dials : Nat → Dial := fun _ => .idle
  dialled : Nat := 0

inductive Label where
  | get (roll : Roll)
  | addOpenUsage (dial : Nat)
  | release (dial : Nat)
  | takeRequest (client : Nat)
  | noteFailure (client : Nat) (now : Time)
  | noteSuccess (client : Nat)
  /-- `Close` empties the pool, and closes the connections one by one. -/
  | takeClients
  | closeClient (client : Nat)

namespace State

variable (state : State)

def setDial (dial : Nat) (phase : Dial) : State := { state with dials := Function.update state.dials dial phase }

/-- A dial obtains a connection. -/
def obtain (manager : XmuxManager) (client : Nat) : State :=
  { state with
    manager
    dials := Function.update state.dials state.dialled (.obtained client)
    dialled := state.dialled + 1 }

def dialGet (roll : Roll) : State :=
  match state.manager.get roll with
  | (manager, .error _) => { state with manager }
  | (manager, .ok client) => state.obtain manager client

/-- `xmuxRelease.release`: the second call of a stream does nothing. -/
def release (dial : Nat) : Option State :=
  match state.dials dial with
  | .streaming client =>
    some { state.setDial dial (.released client) with manager := state.manager.update client (·.addOpenUsage (-1)) }
  | .released _ => some state
  | _ => none

def step : Label → Option State
  | .get roll => some (state.dialGet roll)
  | .addOpenUsage dial =>
    match state.dials dial with
    | .obtained client =>
      some { state.setDial dial (.streaming client) with manager := state.manager.update client (·.addOpenUsage 1) }
    | _ => none
  | .release dial => state.release dial
  | .takeRequest client => some { state with manager := state.manager.update client XmuxClient.takeRequest }
  | .noteFailure client now =>
    let manager := state.manager.update client fun conn => conn.noteFailure.1
    some { state with manager := if (state.manager.conns client).noteFailure.2 then manager.noteBreakerTrip now else manager }
  | .noteSuccess client =>
    some { state with manager := (state.manager.update client XmuxClient.noteSuccess).resetBackoff }
  | .takeClients =>
    some
      { state with
        manager := { state.manager with clients := [] }
        retiring := state.retiring ++ state.manager.clients }
  | .closeClient client =>
    if client ∈ state.retiring then
      some
        { state with
          manager := state.manager.update client XmuxClient.close
          retiring := state.retiring.erase client }
    else none

end State

end SingBox.Xmux
