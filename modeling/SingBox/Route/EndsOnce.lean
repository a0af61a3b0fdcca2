import SingBox.Route.Conn

/-! # Every connection ends once

When no goroutine of a routed connection is left, its close handler has been called exactly
once and both sides are closed. Up to the point where goroutines are started the code runs
alone; from there on `Lib.Goroutine` says what any interleaving of two goroutines that swap
one flag adds to the events.

One path of `NewPacketConnection` closes both sides without calling the handler.
-/

namespace SingBox

open Lib.Goroutine Session

/-! ## Ending -/

def Event.isCall : Event → Bool
  | .onClose _ => true
  | _ => false

/-- The handler has been called once, the client is closed, and so is the remote side if it
was opened. -/
structure EndsOnce (events : Multiset Event) : Prop where
  calls : events.countP (·.isCall) = 1
  client : .closed .client ∈ events
  remote : .opened ∈ events → .closed .remote ∈ events

/-- Events that end a connection on which the handler was not called. -/
structure Concludes (events : Multiset Event) : Prop where
  calls : events.countP (·.isCall) = 1
  closed (side : Side) : .closed side ∈ events

/-- The connection goes on: nobody has set `done` or called the handler. -/
structure Session.GoesOn (session : Session) : Prop where
  notDone : session.done = false
  noCalls : session.events.countP Event.isCall = 0

variable {session : Session} {schedule : List Nat}

theorem Session.GoesOn.endsOnce (goesOn : session.GoesOn) {added : Multiset Event}
    (concludes : Concludes added) : EndsOnce (session.events + added) where
  calls := by
    have : (session.events : Multiset Event).countP (·.isCall) = 0 := by simpa using goesOn.noCalls
    rw [Multiset.countP_add, this, concludes.calls]
  client := Multiset.mem_add.mpr (.inr (concludes.closed .client))
  remote _ := Multiset.mem_add.mpr (.inr (concludes.closed .remote))

/-- Anything may happen besides, as long as it does not call the handler. -/
theorem Concludes.add {added events : Multiset Event} (noCalls : added.countP (·.isCall) = 0)
    (concludes : Concludes events) : Concludes (added + events) where
  calls := by rw [Multiset.countP_add, noCalls, concludes.calls]
  closed side := Multiset.mem_add.mpr (.inr (concludes.closed side))

/-! ## What the actions do -/

variable (event : Event)

@[simp] theorem run_emit (session : Session) :
    (emit event).run session = ({ session with events := session.events ++ [event] }, ()) := rfl

variable (side : Side)

@[simp] theorem run_close (session : Session) :
    (close side).run session = ({ session with events := session.events ++ [.closed side] }, ()) := rfl

@[simp] theorem run_swapDone (session : Session) :
    swapDone.run session = ({ session with done := true }, session.done) := rfl

@[simp] theorem run_callOnClose (err : Option Failure) (session : Session) :
    (callOnClose true err).run session = ({ session with events := session.events ++ [.onClose err] }, ()) := rfl

@[simp] theorem run_closeOnHandshakeFailure (err : Failure) (session : Session) :
    (closeOnHandshakeFailure true err).run session =
      ({ session with events := session.events ++ [.closed .client, .onClose err] }, ()) := by
  simp [closeOnHandshakeFailure]

theorem Session.GoesOn.emit {session : Session} (goesOn : session.GoesOn) {event : Event}
    (noCall : event.isCall = false) : Session.GoesOn { session with events := session.events ++ [event] } where
  notDone := goesOn.notDone
  noCalls := by simp [goesOn.noCalls, noCall]

theorem emit_keeps {event : Event} (noCall : event.isCall = false) : (emit event).Keeps Session.GoesOn :=
  fun _ goesOn => goesOn.emit noCall

theorem readCached_keeps : (readCached side).Keeps Session.GoesOn :=
  fun _ goesOn => ⟨goesOn.notDone, goesOn.noCalls⟩

theorem write_keeps (payload : List UInt8) (outcome : Option Failure) :
    (write side payload outcome).Keeps Session.GoesOn := by
  cases outcome with
  | some err => exact .pure _
  | none => exact .bind (emit_keeps rfl) fun _ => .pure _

theorem forwardCached_keeps (writes : Nat → Option Failure) (left : Nat) :
    (forwardCached writes left).Keeps Session.GoesOn := by
  induction left with
  | zero => exact .pure _
  | succ left ih =>
    refine .bind (readCached_keeps .client) fun cached => ?_
    cases cached with
    | none => exact .pure _
    | some payload =>
      refine .bind (write_keeps _ _ _) fun outcome => ?_
      cases outcome with
      | some err => exact .pure _
      | none => exact ih

theorem spliceConnection_keeps (splice : Splice) : (spliceConnection splice).Keeps Session.GoesOn := by
  unfold spliceConnection
  split
  · exact .pure _
  · refine .bind (fun _ goesOn => goesOn) fun depth => .bind (forwardCached_keeps _ _) fun outcome => ?_
    cases outcome with
    | some err => exact .pure _
    | none =>
      dsimp only
      split
      · exact .pure _
      · exact .bind (emit_keeps rfl) fun _ => .pure _

variable (metadata : InboundContext) (answers : ConnAnswers)

theorem trySplice_keeps : (trySplice metadata answers).Keeps Session.GoesOn := by
  unfold trySplice
  split
  · exact spliceConnection_keeps _
  · exact .pure _

variable (source destination : Side)

theorem writeHandshake_keeps (serverFirst : Bool) (handshake : WriteHandshake) :
    (writeHandshake source destination serverFirst handshake).Keeps Session.GoesOn := by
  unfold writeHandshake
  split
  · exact .bind (write_keeps _ _ _) fun _ => .pure _
  · refine .bind (readCached_keeps source) fun cached => ?_
    cases cached <;> exact .bind (write_keeps _ _ _) fun _ => .pure _

theorem concludes_of_perm {source destination : Side} (differ : source ≠ destination) {err : Option Failure}
    {events : List Event} (perm : events.Perm [.onClose err, .closed source, .closed destination]) : Concludes events := by
  rw [Multiset.coe_eq_coe.mpr perm]
  constructor
  · rfl
  · intro side
    cases side <;> cases source <;> cases destination <;> simp at differ ⊢

theorem Session.GoesOn.endsOnce_append (goesOn : session.GoesOn) {added : List Event}
    (concludes : Concludes added) : EndsOnce (session.events ++ added : List Event) := by
  exact goesOn.endsOnce concludes

theorem kickWriteHandshake_run {source destination : Side} (differ : source ≠ destination) (serverFirst : Bool)
    (handshake : WriteHandshake) {session : Session} (goesOn : session.GoesOn) :
    let after := (kickWriteHandshake true source destination serverFirst handshake).run session
    (after.2 = false ∧ after.1.GoesOn) ∨ (after.2 ∧ EndsOnce after.1.events) := by
  unfold kickWriteHandshake
  split
  · exact .inl ⟨rfl, goesOn⟩
  · have written := writeHandshake_keeps source destination serverFirst handshake session goesOn
    rw [Proc.run_bind]
    revert written
    generalize (writeHandshake source destination serverFirst handshake).run session = result
    obtain ⟨session, err, wrotePayload⟩ := result
    intro (written : session.GoesOn)
    cases err with
    | none => exact .inl ⟨rfl, written⟩
    | some err =>
      dsimp only
      split
      · exact .inl ⟨rfl, written⟩
      · have ended := written.endsOnce_append (concludes_of_perm differ (.refl [Event.onClose (some err), _, _]))
        exact .inr (by simpa [written.notDone] using ended)

/-! ## What the goroutines add -/

/-- The events so far; their order is lost. -/
def Session.trace (session : Session) : Multiset Event := session.events

theorem trace_emit (event : Event) (session : Session) :
    trace { session with events := session.events ++ [event] } = session.trace + {event} := by
  simp [trace, ← Multiset.coe_add]

theorem adds_emit_bind {total : Multiset Event} {rest : Unit → Proc Session Unit}
    (adds : Adds done trace total (rest ())) : Adds done trace (event ::ₘ total) (emit event >>= rest) := by
  rw [← Multiset.singleton_add]
  exact .act (fun _ => rfl) (trace_emit event) fun _ => adds

theorem adds_emit : Adds done trace {event} (emit event) :=
  @adds_emit_bind event 0 Proc.pure .pure

variable {first later : Multiset Event}

theorem swaps_emit_bind {rest : Unit → Proc Session Unit} (swaps : Swaps done trace first later (rest ())) :
    Swaps done trace (event ::ₘ first) (event ::ₘ later) (emit event >>= rest) := by
  rw [← Multiset.singleton_add, ← Multiset.singleton_add]
  exact .act (fun _ => rfl) (trace_emit event) fun _ => swaps

theorem swaps_swapDone {rest : Bool → Proc Session Unit}
    (ifUnset : Adds done trace first (rest false)) (ifSet : Adds done trace later (rest true)) :
    Swaps done trace first later (swapDone >>= rest) := by
  refine .swap (fun _ => rfl) (fun _ => rfl) (fun session unset => ?_) fun session isSet => ?_
  · change Adds _ _ first (rest session.done)
    rwa [unset]
  · change Adds _ _ later (rest session.done)
    rwa [isSet]

theorem adds_closeBoth : Adds done trace {.closed source, .closed destination} (do close source; close destination) :=
  adds_emit_bind (.closed source) (adds_emit (.closed destination))

theorem adds_conclusion (err : Option Failure) :
    Adds done trace {.onClose err, .closed source, .closed destination}
      (do callOnClose true err; close source; close destination) :=
  adds_emit_bind (.onClose err) (adds_closeBoth source destination)

theorem swaps_finishWrite (ending : CopyEnd) :
    ∃ err added, added.countP (·.isCall) = 0 ∧ ∀ {first later rest},
      Swaps done trace first later (rest err) →
      Swaps done trace (added + first) (added + later)
        (finishWrite source destination ending >>= rest) := by
  have closesBoth (err : Failure) : ∀ {first later rest},
      Swaps done trace first later (rest (some err)) →
      Swaps done trace ({.closed source, .closed destination} + first)
        ({.closed source, .closed destination} + later)
        ((do close source; close destination; pure (some err) : Proc Session (Option Failure)) >>= rest) := by
    intro first later rest swaps
    simp only [close, bind_assoc, pure_bind, Multiset.insert_eq_cons, Multiset.cons_add, Multiset.singleton_add]
    apply swaps_emit_bind
    exact swaps_emit_bind _ swaps
  unfold finishWrite
  split
  case h_1 err _ => exact ⟨some err, _, rfl, closesBoth err⟩
  case h_2 =>
    split
    · split
      case h_1 err _ => exact ⟨some err, _, rfl, closesBoth err⟩
      case h_2 =>
        refine ⟨none, {.closedWrite destination}, rfl, fun swaps => ?_⟩
        simpa [pure_bind] using swaps_emit_bind _ swaps
    · refine ⟨none, {.closed destination}, rfl, fun swaps => ?_⟩
      simpa [close] using swaps_emit_bind _ swaps

theorem swaps_connectionCopy (source destination : Side) (ending : CopyEnd) :
    ∃ err added, added.countP (·.isCall) = 0 ∧
      Swaps done trace added (added + {.onClose err, .closed source, .closed destination})
        (connectionCopy true source destination ending) := by
  obtain ⟨err, added, noCalls, swaps⟩ := swaps_finishWrite source destination ending
  refine ⟨err, added, noCalls, ?_⟩
  rw [← add_zero added, add_assoc, zero_add]
  exact swaps (swaps_swapDone .pure (adds_conclusion source destination err))

theorem swaps_packetConnectionCopy (source destination : Side) (err : Option Failure) :
    Swaps done trace {.onClose err, .closed source, .closed destination}
      {.closed source, .closed destination} (packetConnectionCopy true source destination err) :=
  swaps_swapDone (adds_conclusion source destination err) (adds_closeBoth source destination)

/-! ## Interleavings -/

/-- However the goroutines are interleaved, the session ends once. -/
def AlwaysEndsOnce (result : Session × List (Proc Session Unit)) : Prop :=
  ∀ schedule, (Pool.interleave ⟨result.1, result.2⟩ schedule).isFinished →
    EndsOnce (Pool.interleave ⟨result.1, result.2⟩ schedule).state.events

theorem concludes_call {source destination : Side} (differ : source ≠ destination) (err : Option Failure) :
    Concludes {.onClose err, .closed source, .closed destination} :=
  concludes_of_perm differ (.refl [Event.onClose err, _, _])

section
variable (goesOn : session.GoesOn)
include goesOn

/-- Both directions of a stream: the last one to end concludes the session. -/
theorem connectionCopies_endOnce (upload download : CopyEnd) : AlwaysEndsOnce (session,
    [connectionCopy true .client .remote upload, connectionCopy true .remote .client download]) := by
  intro schedule finished
  obtain ⟨_, uploadAdds, uploadQuiet, uploadSwaps⟩ := swaps_connectionCopy .client .remote upload
  obtain ⟨_, downloadAdds, downloadQuiet, downloadSwaps⟩ := swaps_connectionCopy .remote .client download
  obtain ⟨total, oneFirst, trace⟩ := @interleave_oneFirst _ _ _ Session.done Session.trace
    [(_, _), (_, _)] ⟨session, _⟩ (by simp) (.cons uploadSwaps (.cons downloadSwaps .nil)) goesOn.notDone schedule finished
  change EndsOnce (Session.trace _)
  rw [trace]
  refine goesOn.endsOnce ?_
  rcases oneFirst_pair oneFirst with rfl | rfl
  · exact .add uploadQuiet (.add downloadQuiet (concludes_call (by decide) _))
  · rw [add_assoc, add_comm _ downloadAdds]
    exact .add uploadQuiet (.add downloadQuiet (concludes_call (by decide) _))

/-- Both directions of a packet connection: the first one to end concludes the session. -/
theorem packetConnectionCopies_endOnce (upload download : Option Failure) : AlwaysEndsOnce (session,
    [packetConnectionCopy true .client .remote upload, packetConnectionCopy true .remote .client download]) := by
  intro schedule finished
  obtain ⟨total, oneFirst, trace⟩ := @interleave_oneFirst _ _ _ Session.done Session.trace
    [(_, _), (_, _)] ⟨session, _⟩ (by simp)
    (.cons (swaps_packetConnectionCopy _ _ _) (.cons (swaps_packetConnectionCopy _ _ _) .nil)) goesOn.notDone schedule
    finished
  change EndsOnce (Session.trace _)
  rw [trace]
  refine goesOn.endsOnce ?_
  rcases oneFirst_pair oneFirst with rfl | rfl
  · rw [add_comm]
    exact .add rfl (concludes_call (by decide) _)
  · exact .add rfl (concludes_call (by decide) _)

theorem spliceClose_endsOnce (err : Option Failure) : AlwaysEndsOnce (session, [spliceClose true err]) := by
  intro schedule finished
  have trace := interleave_alone (adds_conclusion .client .remote err) finished
  change EndsOnce (Session.trace _)
  rw [spliceClose, trace]
  exact goesOn.endsOnce (concludes_call (by decide) err)

end

/-! ## Routed connections -/

/-- A connection given to the manager, with everything that is answered to it. -/
inductive Routed where
  | conn (metadata : InboundContext) (answers : ConnAnswers) (cached : Side → List (List UInt8))
  | packetConn (env : Environment) (metadata : InboundContext) (answers : PacketAnswers) (packets : List Packet)

/-- The session and its goroutines when the manager has returned. -/
def Routed.start (hasOnClose : Bool) : Routed → Pool Session
  | conn metadata answers cached =>
    let result := (NewConnection hasOnClose metadata answers).run { cached }
    ⟨result.1, result.2⟩
  | packetConn env metadata answers packets =>
    let result := (NewPacketConnection hasOnClose env metadata answers).run { packets }
    ⟨result.1, result.2⟩

theorem alwaysEndsOnce_of_ended (ended : EndsOnce session.events) : AlwaysEndsOnce (session, []) := by
  intro schedule _
  rwa [Pool.interleave_empty]

theorem AlwaysEndsOnce.bind {α : Type} {process : Proc Session α} {rest : α → Proc Session (List (Proc Session Unit))}
    (keeps : process.Keeps Session.GoesOn) (goesOn : session.GoesOn)
    (further : ∀ session result, session.GoesOn → AlwaysEndsOnce ((rest result).run session)) :
    AlwaysEndsOnce ((process >>= rest).run session) := by
  rw [Proc.run_bind]
  exact further _ _ (keeps session goesOn)

theorem startCopies_alwaysEndsOnce (goesOn : session.GoesOn) :
    AlwaysEndsOnce ((startCopies true metadata answers).run session) := by
  unfold startCopies
  rw [Proc.run_bind]
  obtain ⟨continues, goesOn⟩ | ⟨ends, ended⟩ := @kickWriteHandshake_run .client .remote (by decide)
    (sniffSkip metadata) answers.uploadHandshake _ goesOn
  · rw [continues, if_neg (by decide), Proc.run_bind]
    obtain ⟨continues, goesOn⟩ | ⟨ends, ended⟩ := @kickWriteHandshake_run .remote .client (by decide)
      (sniffSkip metadata) answers.downloadHandshake _ goesOn
    · rw [continues, if_neg (by decide)]
      exact connectionCopies_endOnce goesOn _ _
    · rw [ends, if_pos rfl]
      exact alwaysEndsOnce_of_ended ended
  · rw [ends, if_pos rfl]
    exact alwaysEndsOnce_of_ended ended

theorem goesOn_fresh (notDone : session.done = false) (noEvents : session.events = []) :
    session.GoesOn := ⟨notDone, by simp [noEvents]⟩

theorem newConnection_alwaysEndsOnce (goesOn : session.GoesOn) (noEvents : session.events = []) :
    AlwaysEndsOnce ((NewConnection true metadata answers).run session) := by
  unfold NewConnection
  split
  case h_1 err _ =>
    rw [Proc.run_bind, run_closeOnHandshakeFailure, noEvents]
    exact alwaysEndsOnce_of_ended ⟨rfl, by simp, by simp⟩
  case h_2 =>
    refine .bind (emit_keeps rfl) goesOn fun session _ opened => ?_
    split
    case h_1 err _ =>
      simp only [Proc.run_bind, run_close, run_closeOnHandshakeFailure, Proc.run_pure, List.append_assoc]
      refine alwaysEndsOnce_of_ended (opened.endsOnce_append ?_)
      exact @concludes_of_perm .remote .client (by decide) _ _ (@List.perm_append_comm _ [_, _] [_])
    case h_2 =>
      refine .bind (trySplice_keeps metadata answers) opened fun session result spliced => ?_
      match result with
      | .error err =>
        simp only [Proc.run_bind, run_close, run_closeOnHandshakeFailure, Proc.run_pure, List.append_assoc]
        refine alwaysEndsOnce_of_ended (spliced.endsOnce_append ?_)
        exact @concludes_of_perm .client .remote (by decide) _ _ (.swap _ _ _)
      | .ok true => exact spliceClose_endsOnce spliced _
      | .ok false =>
        dsimp only
        split
        case h_1 err _ =>
          simp only [Proc.run_bind, run_close, run_closeOnHandshakeFailure, Proc.run_pure, List.append_assoc]
          refine alwaysEndsOnce_of_ended (spliced.endsOnce_append ?_)
          exact @concludes_of_perm .remote .client (by decide) _ _ (@List.perm_append_comm _ [_, _] [_])
        case h_2 => exact startCopies_alwaysEndsOnce metadata answers spliced

theorem cacheBackward_keeps (cached : List Packet) : (cacheBackward cached).Keeps Session.GoesOn := by
  induction cached with
  | nil => exact .pure _
  | cons packet cached ih =>
    exact .bind ih fun _ _ goesOn => ⟨goesOn.notDone, goesOn.noCalls⟩

variable (env : Environment) (metadata : InboundContext)

theorem splicePacketConnection_keeps (destinationAddress : Option Addr) (answers : PacketAnswers) :
    (splicePacketConnection env metadata destinationAddress answers).Keeps Session.GoesOn := by
  unfold splicePacketConnection
  split
  · exact .pure _
  · refine .bind (fun _ goesOn => ⟨goesOn.notDone, goesOn.noCalls⟩) fun cached => ?_
    split
    · exact .bind (emit_keeps rfl) fun _ => .pure _
    · exact .bind (cacheBackward_keeps cached) fun _ => .pure _

/-- Whether the remote side is opened and then cannot be reported. -/
def PacketAnswers.reportFails (answers : PacketAnswers) (metadata : InboundContext) : Bool :=
  (openPacketConn metadata answers).toBool && answers.reportHandshakeSuccess.isSome

def Routed.reportFails : Routed → Bool
  | conn _ _ _ => false
  | packetConn _ metadata answers _ => answers.reportFails metadata

/-- Every path of `NewPacketConnection` but one ends the session once. -/
theorem newPacketConnection_alwaysEndsOnce (answers : PacketAnswers)
    (goesOn : session.GoesOn) (noEvents : session.events = []) (reported : answers.reportFails metadata = false) :
    AlwaysEndsOnce ((NewPacketConnection true env metadata answers).run session) := by
  unfold NewPacketConnection
  cases opens : openPacketConn metadata answers with
  | error err =>
    rw [Proc.run_bind, run_closeOnHandshakeFailure, noEvents]
    exact alwaysEndsOnce_of_ended ⟨rfl, by simp, by simp⟩
  | ok destinationAddress =>
    have reports : answers.reportHandshakeSuccess = none := by
      simpa [PacketAnswers.reportFails, opens, Except.toBool] using reported
    rw [reports]
    refine .bind (emit_keeps rfl) goesOn fun session _ opened => ?_
    refine .bind (splicePacketConnection_keeps env metadata _ answers) opened fun session result spliced => ?_
    cases result with
    | true => exact spliceClose_endsOnce spliced _
    | false => exact packetConnectionCopies_endOnce (spliced.emit rfl) _ _

theorem newPacketConnection_unreported (env : Environment) (metadata : InboundContext) (answers : PacketAnswers)
    {session : Session} (noEvents : session.events = []) (unreported : answers.reportFails metadata) :
    let result := (NewPacketConnection true env metadata answers).run session
    result.1.events = [.opened, .closed .client, .closed .remote] ∧ result.2 = [] := by
  rw [PacketAnswers.reportFails, Bool.and_eq_true] at unreported
  unfold NewPacketConnection
  cases opens : openPacketConn metadata answers with
  | error err => simp [opens, Except.toBool] at unreported
  | ok destAddr =>
    obtain ⟨err, report⟩ := Option.isSome_iff_exists.mp unreported.2
    simp [report, noEvents]

/-- Every routed connection ends exactly once, however its goroutines are interleaved,
unless it is a packet connection whose remote side was opened but not reported. -/
theorem routed_endsOnce_iff (routed : Routed) (schedule : List Nat)
    (finished : ((routed.start true).interleave schedule).isFinished) :
    EndsOnce ((routed.start true).interleave schedule).state.events ↔ routed.reportFails = false := by
  cases routed with
  | conn metadata answers cached =>
    refine iff_of_true ?_ rfl
    exact newConnection_alwaysEndsOnce metadata answers (goesOn_fresh rfl rfl) rfl schedule finished
  | packetConn env metadata answers packets =>
    constructor
    · intro endsOnce
      rw [Bool.eq_false_iff]
      intro unreported
      obtain ⟨events, noProcs⟩ := @newPacketConnection_unreported env metadata answers { packets } rfl unreported
      have calls := endsOnce.calls
      simp only [Routed.start, noProcs, Pool.interleave_empty, events] at calls
      cases calls
    · intro reported
      exact newPacketConnection_alwaysEndsOnce env metadata answers (goesOn_fresh rfl rfl) rfl reported schedule finished

/-- A stream whose upload ends first. -/
theorem routed_endsOnce_uploadFirst :
    let routed := Routed.conn {} { download := { isDuplex := false } } fun _ => []
    EndsOnce ((routed.start true).interleave [0, 0, 1, 1, 1, 1, 1]).state.events :=
  (routed_endsOnce_iff _ _ rfl).mpr rfl

/-- A packet connection whose handshake cannot be reported is closed on both sides, and its
handler is never called. -/
theorem unreported_packetConn_never_ends :
    let routed := Routed.packetConn {} {} { reportHandshakeSuccess := some ⟨"broken pipe", false, false⟩ } []
    (routed.start true).isFinished ∧ ¬ EndsOnce ((routed.start true).interleave []).state.events :=
  ⟨rfl, fun ended => absurd ended.calls (by decide)⟩

end SingBox
