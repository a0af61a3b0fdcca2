import Mathlib.Data.List.Nodup
import SingBox.Lib.Machine
import SingBox.Transport.Xmux

/-! # Limits of the pool

A connection is to be closed once, when it is retired and all streams that obtained it have
released it, and the limits on its streams and on its handouts are to hold.

A dial is counted as a stream only some time after it has obtained its connection. `Counted` is
the condition on a step under which no dial in between is missed, and `limits_of_counted` says
that every run of such steps keeps to the limits.
-/

open List Option Nat

namespace SingBox.Xmux

open Lib Lib.Machine XmuxClient Function XmuxManager List.Sublist

/-! ## The property -/

namespace State

variable (state : State) (client : Nat)

/-- The dials that have obtained the connection and are not counted yet. -/
def waiting : Nat := tally state.dialled (· = Dial.obtained client) state.dials

def streams : Nat := tally state.dialled (· = Dial.streaming client) state.dials

/-- The dials that have obtained the connection and not released it. -/
def unreleased : Nat :=
  tally state.dialled (fun dial => dial = Dial.obtained client ∨ dial = Dial.streaming client) state.dials

theorem unreleased_eq : state.unreleased client = state.waiting client + state.streams client :=
  tally_or state.dialled fun _ obtained streaming => by rw [obtained] at streaming; cases streaming

end State

structure Limits (state : State) : Prop where
  closedAtTheEnd : ∀ client, 0 < (state.manager.conns client).closes → state.unreleased client = 0
  closedOnce : ∀ client, (state.manager.conns client).closes ≤ 1
  closedIfRetired : ∀ client, (state.manager.conns client).closed → state.unreleased client = 0 →
    0 < (state.manager.conns client).closes
  concurrency : 0 < state.manager.concurrency → ∀ client, state.unreleased client ≤ state.manager.concurrency
  reuse : ∀ client, 0 < (state.manager.conns client).reuse →
    (state.manager.conns client).handed ≤ (state.manager.conns client).reuse

/-! ## The condition -/

/-- A connection is not retired, nor left by its last stream, while it has dials that are not
counted and no stream; and such dials do not hide that it is full. -/
def Counted (state : State) : Label → Prop
  | .get roll =>
    ∀ client ∈ state.manager.clients,
      (state.manager.evicts roll.now client →
        0 < (state.manager.conns client).openUsage ∨ state.waiting client = 0) ∧
      (0 < state.manager.concurrency → state.manager.evicts roll.now client = false →
        (state.manager.conns client).openUsage < state.manager.concurrency →
        (state.manager.conns client).openUsage + state.waiting client < state.manager.concurrency)
  | .closeClient client => 0 < (state.manager.conns client).openUsage ∨ state.waiting client = 0
  | .release dial => ∀ client, state.dials dial = .streaming client → (state.manager.conns client).closed →
    (state.manager.conns client).openUsage = 1 → state.waiting client = 0
  | _ => True

/-! ## One connection -/

/-- The counters of a connection agree with its dials. -/
structure Sound (concurrency : Int) (conn : XmuxClient) (waiting streams : Nat) : Prop where
  usage : conn.openUsage = streams
  closes : conn.closes = if conn.closed ∧ waiting + streams = 0 then 1 else 0
  reuse : 0 < conn.reuse → conn.leftUsage = conn.reuse - conn.handed ∧ conn.handed ≤ conn.reuse
  concurrency : 0 < concurrency → (waiting + streams : Nat) ≤ concurrency

namespace Sound

variable {concurrency : Int} {conn : XmuxClient} {waiting streams : Nat}

theorem close (sound : Sound concurrency conn waiting streams) (open' : conn.closed = false)
    (counted : 0 < conn.openUsage ∨ waiting = 0) : Sound concurrency conn.close waiting streams := by
  have usage := sound.usage
  have closes := sound.closes
  rw [open', if_neg (by simp)] at closes
  refine ⟨usage, ?_, sound.reuse, sound.concurrency⟩
  simp only [XmuxClient.close, closes, true_and]
  split <;> split <;> omega

theorem addOpenUsage (sound : Sound concurrency conn (waiting + 1) streams) :
    Sound concurrency (conn.addOpenUsage 1) waiting (streams + 1) := by
  have usage := sound.usage
  have closes := sound.closes
  refine ⟨?_, ?_, sound.reuse, fun limited => ?_⟩
  · simp only [XmuxClient.addOpenUsage]
    omega
  · rw [if_neg (by omega)] at closes
    simp only [XmuxClient.addOpenUsage, closes]
    split <;> split <;> omega
  · have bound := sound.concurrency limited
    omega

theorem release (sound : Sound concurrency conn waiting (streams + 1))
    (counted : conn.closed → conn.openUsage = 1 → waiting = 0) :
    Sound concurrency (conn.addOpenUsage (-1)) waiting streams := by
  have usage := sound.usage
  have closes := sound.closes
  refine ⟨?_, ?_, sound.reuse, fun limited => ?_⟩
  · simp only [XmuxClient.addOpenUsage]
    omega
  · rw [if_neg (by omega)] at closes
    simp only [XmuxClient.addOpenUsage, closes]
    split
    · rename_i last
      have waits := counted last.1 (by omega)
      rw [if_pos ⟨last.1, by omega⟩]
    · rename_i notLast
      rw [if_neg fun empty => notLast ⟨empty.1, by omega⟩]
  · have bound := sound.concurrency limited
    omega

theorem handOut (sound : Sound concurrency conn waiting streams) (open' : conn.closed = false)
    (reusable : conn.leftUsage ≠ 0) (room : 0 < concurrency → conn.openUsage + waiting < concurrency) :
    Sound concurrency (XmuxManager.handOut conn) (waiting + 1) streams := by
  have usage := sound.usage
  have closes := sound.closes
  rw [open', if_neg (by simp)] at closes
  refine ⟨usage, ?_, fun limited => ?_, fun limited => ?_⟩
  · simp only [XmuxManager.handOut, closes, open']
    rw [if_neg (by simp)]
  · obtain ⟨left, handed⟩ := sound.reuse limited
    simp only [XmuxManager.handOut]
    omega
  · have bound := room limited
    omega

end Sound

/-! ## The invariant -/

structure Invariant (state : State) : Prop where
  sound : ∀ client, Sound state.manager.concurrency (state.manager.conns client) (state.waiting client)
    (state.streams client)
  nodup : (state.manager.clients ++ state.retiring).Nodup
  pooled : ∀ client ∈ state.manager.clients ++ state.retiring,
    client < state.manager.opened ∧ (state.manager.conns client).closed = false
  /-- A dial is one of a connection that has been opened. -/
  known : ∀ client, state.manager.opened ≤ client → state.unreleased client = 0
  started : ∀ dial, state.dialled ≤ dial → state.dials dial = .idle

theorem Invariant.limits {state : State} (invariant : Invariant state) : Limits state := by
  constructor
  · intro client isClosed
    rw [state.unreleased_eq]
    rw [(invariant.sound client).closes] at isClosed
    split at isClosed
    · rename_i last
      exact last.2
    · cases isClosed
  · intro client
    rw [(invariant.sound client).closes]
    split <;> decide
  · intro client retired isFree
    rw [state.unreleased_eq] at isFree
    rw [(invariant.sound client).closes, if_pos ⟨retired, isFree⟩]
    decide
  · intro limited client
    rw [state.unreleased_eq]
    exact (invariant.sound client).concurrency limited
  · exact fun client limited => ((invariant.sound client).reuse limited).2

theorem Invariant.initial (config : XmuxConfig) (concurrencyDraw connectionsDraw : Nat) :
    Invariant { manager := newXmuxManager config concurrencyDraw connectionsDraw } where
  sound _ := ⟨rfl, rfl, nofun, fun limited => Int.le_of_lt limited⟩
  nodup := nodup_nil
  pooled _ isMember := by cases isMember
  known _ _ := rfl
  started _ _ := rfl

theorem Invariant.update {state next : State} {client : Nat} (invariant : Invariant state)
    (sound : Sound state.manager.concurrency (next.manager.conns client) (next.waiting client) (next.streams client))
    (others : ∀ other, other ≠ client → next.manager.conns other = state.manager.conns other ∧
      next.waiting other = state.waiting other ∧ next.streams other = state.streams other)
    (sameConcurrency : next.manager.concurrency = state.manager.concurrency)
    (sameOpened : next.manager.opened = state.manager.opened)
    (lists : (next.manager.clients ++ next.retiring).Sublist (state.manager.clients ++ state.retiring))
    (remains : client ∈ next.manager.clients ++ next.retiring → (next.manager.conns client).closed = false)
    (known : state.manager.opened ≤ client → next.unreleased client = 0)
    (started : ∀ dial, next.dialled ≤ dial → next.dials dial = .idle) : Invariant next := by
  refine ⟨fun other => ?_, lists.nodup invariant.nodup, fun other isMember => ?_, fun other isUnknown => ?_, started⟩
  · by_cases same : other = client
    · subst same
      rwa [sameConcurrency]
    · obtain ⟨sameConn, sameWaiting, sameStreams⟩ := others other same
      rw [sameConn, sameWaiting, sameStreams, sameConcurrency]
      exact invariant.sound other
  · obtain ⟨isOpened, isOpen⟩ := invariant.pooled other (lists.subset isMember)
    rw [sameOpened]
    refine ⟨isOpened, ?_⟩
    by_cases same : other = client
    · subst same
      exact remains isMember
    · rwa [(others other same).1]
  · rw [sameOpened] at isUnknown
    by_cases same : other = client
    · subst same
      exact known isUnknown
    · obtain ⟨_, sameWaiting, sameStreams⟩ := others other same
      rw [next.unreleased_eq, sameWaiting, sameStreams, ← state.unreleased_eq]
      exact invariant.known other isUnknown

/-! ## The steps of a connection -/

section Steps

variable {state : State} {dial client : Nat}

theorem Invariant.held (invariant : Invariant state)
    (held : state.dials dial = .obtained client ∨ state.dials dial = .streaming client) :
    dial < state.dialled ∧ client < state.manager.opened := by
  have below : dial < state.dialled := by
    by_contra beyond
    simp [invariant.started dial (Nat.le_of_not_lt beyond)] at held
  refine ⟨below, ?_⟩
  by_contra unknown
  exact tally_eq_zero_iff.mp (invariant.known client (Nat.le_of_not_lt unknown)) dial below held

variable {conn : XmuxClient}

theorem Invariant.frame (invariant : Invariant state) {manager : XmuxManager}
    (isConns : manager.conns = Function.update state.manager.conns client conn)
    (sameConcurrency : manager.concurrency = state.manager.concurrency)
    (sameOpened : manager.opened = state.manager.opened) (sameClients : manager.clients = state.manager.clients)
    (sound : Sound state.manager.concurrency conn (state.waiting client) (state.streams client))
    (sameClosed : conn.closed = (state.manager.conns client).closed) : Invariant { state with manager } := by
  refine @Invariant.update state _ client invariant ?_ (fun other isOther => ⟨?_, rfl, rfl⟩) sameConcurrency sameOpened ?_
    (fun isMember => ?_) (invariant.known client) invariant.started
  · rw [isConns, update_self]
    exact sound
  · rw [isConns, update_of_ne isOther]
  · rw [sameClients]
  · rw [sameClients] at isMember
    rw [isConns, update_self, sameClosed]
    exact (invariant.pooled client isMember).2

theorem Invariant.takeRequest (invariant : Invariant state) :
    Invariant { state with manager := state.manager.update client takeRequest } := by
  obtain ⟨usage, closes, reuse, concurrency⟩ := invariant.sound client
  exact invariant.frame rfl rfl rfl rfl ⟨usage, closes, reuse, concurrency⟩ rfl

theorem Sound.noteFailure {concurrency : Int} {waiting streams : Nat}
    (sound : Sound concurrency conn waiting streams) : Sound concurrency conn.noteFailure.1 waiting streams := by
  obtain ⟨usage, closes, reuse, concurrency⟩ := sound
  unfold XmuxClient.noteFailure
  dsimp only
  split <;> exact ⟨usage, closes, reuse, concurrency⟩

theorem noteFailure_closed (conn : XmuxClient) : conn.noteFailure.1.closed = conn.closed := by
  unfold noteFailure
  dsimp only
  split <;> rfl

section
variable (invariant : Invariant state)
include invariant

theorem Invariant.noteFailure (now : Time) :
    Invariant
      { state with
        manager :=
          let manager := state.manager.update client fun conn => conn.noteFailure.1
          if (state.manager.conns client).noteFailure.2 then manager.noteBreakerTrip now else manager } := by
  have sound := (invariant.sound client).noteFailure
  split <;> exact invariant.frame rfl rfl rfl rfl sound (noteFailure_closed _)

theorem Invariant.noteSuccess :
    Invariant { state with manager := (state.manager.update client noteSuccess).resetBackoff } := by
  obtain ⟨usage, closes, reuse, concurrency⟩ := invariant.sound client
  unfold resetBackoff
  split <;> exact invariant.frame rfl rfl rfl rfl ⟨usage, closes, reuse, concurrency⟩ rfl

theorem Invariant.move {phase : Dial} {change : XmuxClient → XmuxClient} (below : dial < state.dialled)
    (ofClient : ∀ other, other ≠ client → (state.dials dial ≠ .obtained other ∧ state.dials dial ≠ .streaming other) ∧
      phase ≠ .obtained other ∧ phase ≠ .streaming other)
    (isOpened : client < state.manager.opened)
    (sameClosed : (change (state.manager.conns client)).closed = (state.manager.conns client).closed)
    (sound : ∀ waiting streams,
      waiting + (if state.dials dial = .obtained client then 1 else 0) =
          state.waiting client + (if phase = .obtained client then 1 else 0) →
        streams + (if state.dials dial = .streaming client then 1 else 0) =
            state.streams client + (if phase = .streaming client then 1 else 0) →
          Sound state.manager.concurrency (change (state.manager.conns client)) waiting streams) :
    Invariant { state.setDial dial phase with manager := state.manager.update client change } := by
  have isConn : (state.manager.update client change).conns client = change (state.manager.conns client) :=
    update_self ..
  refine @Invariant.update state _ client invariant ?_ (fun other isOther => ⟨?_, ?_, ?_⟩) rfl rfl (refl _)
    (fun isMember => ?_) (fun isUnknown => ?_) (fun other beyond => ?_)
  · rw [isConn]
    exact sound _ _ (tally_update below phase) (tally_update below phase)
  · exact update_of_ne isOther _ _
  · have same := @tally_update _ (· = Dial.obtained other) _ state.dials _ _ below phase
    rw [if_neg (ofClient other isOther).1.1, if_neg (ofClient other isOther).2.1] at same
    exact same
  · have same := @tally_update _ (· = Dial.streaming other) _ state.dials _ _ below phase
    rw [if_neg (ofClient other isOther).1.2, if_neg (ofClient other isOther).2.2] at same
    exact same
  · rw [isConn, sameClosed]
    exact (invariant.pooled client isMember).2
  · exact absurd isOpened (not_lt.mpr isUnknown)
  · rw [← invariant.started other beyond]
    exact update_of_ne (below.trans_le beyond).ne' _ _

end

section
variable (invariant : Invariant state)
include invariant

theorem Invariant.addOpenUsage (obtained : state.dials dial = .obtained client) :
    Invariant
      { state.setDial dial (.streaming client) with manager := state.manager.update client (·.addOpenUsage 1) } := by
  obtain ⟨below, isOpened⟩ := invariant.held (.inl obtained)
  refine invariant.move below ?_ isOpened rfl ?_
  · intro other isOther
    rw [obtained]
    simp [Ne.symm isOther]
  · intro waiting streams isWaiting isStreams
    have before := invariant.sound client
    rw [obtained] at isWaiting isStreams
    simp only [if_true, reduceCtorEq, if_false] at isWaiting isStreams
    have after : Sound state.manager.concurrency (state.manager.conns client) (waiting + 1) (state.streams client) := by
      rwa [isWaiting]
    rw [show streams = state.streams client + 1 from isStreams]
    exact after.addOpenUsage

theorem Invariant.release (streaming : state.dials dial = .streaming client)
    (counted : (state.manager.conns client).closed → (state.manager.conns client).openUsage = 1 →
      state.waiting client = 0) :
    Invariant
      { state.setDial dial (.released client) with manager := state.manager.update client (·.addOpenUsage (-1)) } := by
  obtain ⟨below, isOpened⟩ := invariant.held (.inr streaming)
  refine invariant.move below ?_ isOpened rfl ?_
  · intro other isOther
    rw [streaming]
    simp [Ne.symm isOther]
  · intro waiting streams isWaiting isStreams
    have before := invariant.sound client
    rw [streaming] at isWaiting isStreams
    simp only [if_true, reduceCtorEq, if_false, Nat.add_zero] at isWaiting isStreams
    subst isWaiting
    rw [← isStreams] at before
    exact before.release counted

theorem Invariant.takeClients :
    Invariant
      { state with
        manager := { state.manager with clients := [] }
        retiring := state.retiring ++ state.manager.clients } where
  sound := invariant.sound
  nodup := by
    rw [nil_append]
    exact nodup_append_comm.mp invariant.nodup
  pooled client isMember := invariant.pooled client (by
    simp only [nil_append, mem_append] at isMember ⊢
    exact isMember.symm)
  known := invariant.known
  started := invariant.started

/-- A connection is closed once it is in neither list any more. -/
theorem Invariant.close {retiring : List Nat}
    (lists : (state.manager.clients ++ retiring).Sublist (state.manager.clients ++ state.retiring))
    (left : client ∉ state.manager.clients ++ retiring) (isOpen : (state.manager.conns client).closed = false)
    (counted : 0 < (state.manager.conns client).openUsage ∨ state.waiting client = 0) :
    Invariant { state with manager := state.manager.update client .close, retiring } := by
  have isConn : (state.manager.update client .close).conns client = (state.manager.conns client).close :=
    update_self ..
  refine @Invariant.update state _ client invariant ?_ (fun other isOther => ⟨update_of_ne isOther _ _, rfl, rfl⟩) rfl rfl
    lists (fun isMember => absurd isMember left) (invariant.known client) invariant.started
  rw [isConn]
  exact (invariant.sound client).close isOpen counted

theorem Invariant.closeClient (retires : client ∈ state.retiring)
    (counted : 0 < (state.manager.conns client).openUsage ∨ state.waiting client = 0) :
    Invariant
      { state with
        manager := state.manager.update client .close
        retiring := state.retiring.erase client } := by
  have nodup := nodup_append'.mp invariant.nodup
  refine invariant.close (append (refl _) erase_sublist) (fun isMember => ?_)
    (invariant.pooled client (mem_append_right _ retires)).2 counted
  rcases mem_append.mp isMember with isPooled | remains
  · exact absurd retires (nodup.2.2 isPooled)
  · exact absurd remains (nodup.2.1.not_mem_erase)

end

end Steps

/-! ## `get` -/

section Get

variable {state : State}

theorem foldl_close (evicted : List Nat) (manager : XmuxManager) :
    let after := evicted.foldl (fun manager client => manager.update client .close) manager
    after.clients = manager.clients ∧ after.opened = manager.opened ∧ after.concurrency = manager.concurrency ∧
      ∀ client, client ∉ evicted → after.conns client = manager.conns client := by
  induction evicted generalizing manager with
  | nil => exact ⟨rfl, rfl, rfl, fun _ _ => rfl⟩
  | cons first evicted ih =>
    obtain ⟨clients, opened, concurrency, conns⟩ := ih (manager.update first .close)
    refine ⟨clients, opened, concurrency, fun client isOther => ?_⟩
    rw [mem_cons, not_or] at isOther
    exact (conns client isOther.2).trans (update_of_ne isOther.1 _ _)

theorem Invariant.closeAll (evicted : List Nat) (invariant : Invariant state) (nodup : evicted.Nodup)
    (left : ∀ client ∈ evicted, client ∉ state.manager.clients ++ state.retiring)
    (isOpen : ∀ client ∈ evicted, (state.manager.conns client).closed = false)
    (counted : ∀ client ∈ evicted, 0 < (state.manager.conns client).openUsage ∨ state.waiting client = 0) :
    Invariant
      { state with
        manager := evicted.foldl (fun manager client => manager.update client .close) state.manager } := by
  induction evicted generalizing state with
  | nil => exact invariant
  | cons first evicted ih =>
    have same : ∀ client ∈ evicted,
        (state.manager.update first .close).conns client = state.manager.conns client := by
      intro client isMember
      refine update_of_ne ?_ _ _
      rintro rfl
      exact (nodup_cons.mp nodup).1 isMember
    have once : Invariant { state with manager := state.manager.update first .close } :=
      invariant.close (refl _) (left first mem_cons_self) (isOpen first mem_cons_self) (counted first mem_cons_self)
    refine ih once (nodup_cons.mp nodup).2 ?_ ?_ ?_
    · exact fun client isMember => left client (mem_cons_of_mem _ isMember)
    · intro client isMember
      rw [same client isMember]
      exact isOpen client (mem_cons_of_mem _ isMember)
    · intro client isMember
      rw [same client isMember]
      exact counted client (mem_cons_of_mem _ isMember)

theorem Invariant.evict (invariant : Invariant state) {roll : Roll} (counted : Counted state (.get roll)) :
    Invariant { state with manager := state.manager.evict roll.now } := by
  have nodup := nodup_append'.mp invariant.nodup
  have remaining : Invariant
      { state with
        manager :=
          { state.manager with
            clients := state.manager.clients.filter fun client => !state.manager.evicts roll.now client } } := by
    have lists := append (@filter_sublist _ (fun client => !state.manager.evicts roll.now client)
      state.manager.clients) (refl state.retiring)
    exact ⟨invariant.sound, lists.nodup invariant.nodup, fun client isMember =>
      invariant.pooled client (lists.subset isMember), invariant.known, invariant.started⟩
  refine remaining.closeAll (state.manager.clients.filter (state.manager.evicts roll.now)) (nodup.1.filter _) ?_ ?_ ?_
  · intro client isEvicted isMember
    obtain ⟨isPooled, hasCause⟩ := mem_filter.mp isEvicted
    rcases mem_append.mp isMember with remains | retires
    · have noCause := (mem_filter.mp remains).2
      rw [hasCause] at noCause
      cases noCause
    · exact nodup.2.2 isPooled retires
  · intro client isEvicted
    exact (invariant.pooled client (mem_append_left _ (mem_filter.mp isEvicted).1)).2
  · intro client isEvicted
    obtain ⟨isPooled, hasCause⟩ := mem_filter.mp isEvicted
    exact (counted client isPooled).1 hasCause

variable (manager : XmuxManager) (client other : Nat)

theorem waiting_obtain :
    (state.obtain manager client).waiting other = state.waiting other + if client = other then 1 else 0 := by
  rw [State.waiting, State.obtain, tally_succ, tally_update_of_le le_rfl]
  simp [State.waiting]

theorem streams_obtain : (state.obtain manager client).streams other = state.streams other := by
  rw [State.streams, State.obtain, tally_succ, tally_update_of_le le_rfl]
  simp [State.streams]

theorem Invariant.started_obtain (invariant : Invariant state) (manager : XmuxManager) (client : Nat) :
    ∀ dial, (state.obtain manager client).dialled ≤ dial → (state.obtain manager client).dials dial = .idle := by
  intro dial beyond
  have later : state.dialled + 1 ≤ dial := beyond
  rw [State.obtain, ← invariant.started dial (by omega)]
  exact update_of_ne (by omega) _ _

theorem sound_newClient (roll : Roll) : Sound manager.concurrency (manager.newClient roll) 1 0 := by
  refine ⟨rfl, rfl, fun limited => ?_, fun limited => ?_⟩
  · have positive : manager.config.cMaxReuseTimes.rand roll.reuse > 0 := limited
    simp only [newClient, if_pos positive]
    omega
  · omega

theorem Invariant.newClientLocked (invariant : Invariant state) (roll : Roll) :
    Invariant (state.obtain (state.manager.newClientLocked roll).1 state.manager.opened) := by
  have unknown := invariant.known state.manager.opened le_rfl
  rw [state.unreleased_eq, Nat.add_eq_zero_iff] at unknown
  have isConn : (state.manager.newClientLocked roll).1.conns state.manager.opened = state.manager.newClient roll :=
    update_self ..
  have fresh : state.manager.opened ∉ state.manager.clients ++ state.retiring :=
    fun isMember => lt_irrefl _ (invariant.pooled _ isMember).1
  have same : ∀ other, other ≠ state.manager.opened →
      (state.manager.newClientLocked roll).1.conns other = state.manager.conns other :=
    fun other isOther => update_of_ne isOther _ _
  refine ⟨fun other => ?_, ?_, fun other isMember => ?_, fun other isUnknown => ?_, invariant.started_obtain _ _⟩
  · rw [waiting_obtain, streams_obtain]
    by_cases isNew : other = state.manager.opened
    · subst isNew
      rw [unknown.1, unknown.2, if_pos rfl]
      have sound := sound_newClient state.manager roll
      rw [← isConn] at sound
      exact sound
    · rw [if_neg (Ne.symm isNew)]
      have sound := invariant.sound other
      rw [← same other isNew] at sound
      exact sound
  · change ((state.manager.clients ++ [state.manager.opened]) ++ state.retiring).Nodup
    rw [append_assoc, singleton_append, nodup_middle]
    exact nodup_cons.mpr ⟨fresh, invariant.nodup⟩
  · have isMember' : other ∈ state.manager.clients ++ [state.manager.opened] ++ state.retiring := isMember
    by_cases isNew : other = state.manager.opened
    · subst isNew
      exact ⟨lt_succ_self _, congrArg closed isConn⟩
    · have isOld : other ∈ state.manager.clients ++ state.retiring := by
        simp only [mem_append, mem_singleton, isNew, or_false] at isMember' ⊢
        exact isMember'
      obtain ⟨isOpened, isOpen⟩ := invariant.pooled other isOld
      exact ⟨lt_succ_of_lt isOpened, (congrArg closed (same other isNew)).trans isOpen⟩
  · have beyond : state.manager.opened + 1 ≤ other := isUnknown
    rw [State.unreleased_eq, waiting_obtain, streams_obtain, if_neg (by omega), Nat.add_zero, ← state.unreleased_eq]
    exact invariant.known other (by omega)

variable {client : Nat}

theorem Invariant.handOut (invariant : Invariant state) (isPooled : client ∈ state.manager.clients)
    (reusable : (state.manager.conns client).leftUsage ≠ 0) (room : 0 < state.manager.concurrency →
      (state.manager.conns client).openUsage + state.waiting client < state.manager.concurrency) :
    Invariant (state.obtain (state.manager.update client XmuxManager.handOut) client) := by
  obtain ⟨isOpened, isOpen⟩ := invariant.pooled client (mem_append_left _ isPooled)
  have isConn : (state.manager.update client XmuxManager.handOut).conns client =
      XmuxManager.handOut (state.manager.conns client) := update_self ..
  refine @Invariant.update state _ client invariant ?_ (fun other isOther => ⟨?_, ?_, ?_⟩) rfl rfl (refl _)
    (fun _ => ?_) (fun isUnknown => absurd isOpened (not_lt.mpr isUnknown)) (invariant.started_obtain _ _)
  · rw [waiting_obtain, streams_obtain, if_pos rfl]
    have sound := (invariant.sound client).handOut isOpen reusable room
    rw [← isConn] at sound
    exact sound
  · exact update_of_ne isOther _ _
  · rw [waiting_obtain, if_neg (Ne.symm isOther), Nat.add_zero]
  · rw [streams_obtain]
  · exact (congrArg closed isConn).trans isOpen

theorem leftUsage_of_evictCause {conn : XmuxClient} {now : Time} (noCause : conn.evictCause now = none) :
    conn.leftUsage ≠ 0 := by
  intro used
  rw [evictCause, used] at noCause
  split at noCause
  · cases noCause
  · split at noCause <;> cases noCause

theorem remains_evict {now : Time} (isPooled : client ∈ (state.manager.evict now).clients) :
    client ∈ state.manager.clients ∧ state.manager.evicts now client = false ∧
      (state.manager.evict now).conns client = state.manager.conns client := by
  obtain ⟨clients, _, _, conns⟩ := foldl_close (state.manager.clients.filter (state.manager.evicts now))
    { state.manager with clients := state.manager.clients.filter fun client => !state.manager.evicts now client }
  rw [evict, clients] at isPooled
  obtain ⟨isMember, remains⟩ := mem_filter.mp isPooled
  have noCause : state.manager.evicts now client = false := by simpa using remains
  refine ⟨isMember, noCause, conns client fun isEvicted => ?_⟩
  rw [(mem_filter.mp isEvicted).2] at noCause
  cases noCause

theorem concurrency_evict (now : Time) : (manager.evict now).concurrency = manager.concurrency :=
  (foldl_close _ _).2.2.1

theorem mem_candidates {manager : XmuxManager} (isCandidate : client ∈ manager.candidates) :
    client ∈ manager.clients ∧ (0 < manager.concurrency → (manager.conns client).openUsage < manager.concurrency) := by
  unfold candidates at isCandidate
  split at isCandidate
  · obtain ⟨isPooled, room⟩ := mem_filter.mp isCandidate
    exact ⟨isPooled, fun _ => by simpa using room⟩
  · rename_i unlimited
    exact ⟨isCandidate, fun limited => absurd limited unlimited⟩

theorem Invariant.dialGet (invariant : Invariant state) {roll : Roll} (counted : Counted state (.get roll)) :
    Invariant (state.dialGet roll) := by
  have evicted := invariant.evict counted
  unfold State.dialGet XmuxManager.get XmuxManager.choose
  split
  · -- the dial has to wait
    rename_i manager wait isChoice
    split at isChoice
    · split at isChoice
      · cases isChoice
        exact evicted
      · cases isChoice
    · split at isChoice
      · cases isChoice
      · split at isChoice <;> cases isChoice
  · rename_i manager client isChoice
    have opens : (state.manager.evict roll.now).newClientLocked roll = (manager, .ok client) →
        Invariant (state.obtain manager client) := by
      rintro ⟨⟩
      exact evicted.newClientLocked roll
    split at isChoice
    · split at isChoice
      · cases isChoice
      · exact opens isChoice
    · split at isChoice
      · exact opens isChoice
      · split at isChoice
        · exact opens isChoice
        · rename_i chosen isChosen
          cases isChoice
          obtain ⟨isPooled, room⟩ := mem_candidates (mem_of_getElem? isChosen)
          obtain ⟨wasPooled, noCause, sameConn⟩ := remains_evict isPooled
          refine evicted.handOut isPooled ?_ fun limited => ?_
          · rw [sameConn]
            exact leftUsage_of_evictCause (isSome_eq_false_iff.mp noCause |> isNone_iff_eq_none.mp)
          · have notFull := room limited
            rw [concurrency_evict] at limited notFull ⊢
            rw [sameConn] at notFull ⊢
            exact (counted _ wasPooled).2 limited noCause notFull

end Get

/-! ## Runs -/

/-- In every run whose steps meet the condition, the pool keeps to its limits in every state. -/
theorem limits_of_counted (config : XmuxConfig) (concurrencyDraw connectionsDraw : Nat) (labels : List Label)
    (counted : EveryStep State.step Counted { manager := newXmuxManager config concurrencyDraw connectionsDraw } labels) :
    EveryState State.step Limits { manager := newXmuxManager config concurrencyDraw connectionsDraw } labels := by
  have holds : ∀ state, Invariant state → Limits state := fun _ => Invariant.limits
  have initially := Invariant.initial config concurrencyDraw connectionsDraw
  refine everyState_of_everyStep holds ?_ initially counted
  intro state label next invariant isNext meets
  cases label with
  | get roll =>
    cases isNext
    exact invariant.dialGet meets
  | addOpenUsage dial =>
    simp only [State.step] at isNext
    split at isNext
    · rename_i client obtained
      cases isNext
      exact invariant.addOpenUsage obtained
    · cases isNext
  | release dial =>
    simp only [State.step, State.release] at isNext
    split at isNext
    · rename_i client streaming
      cases isNext
      exact invariant.release streaming (meets client streaming)
    · cases isNext
      exact invariant
    · cases isNext
  | takeRequest client =>
    cases isNext
    exact invariant.takeRequest
  | noteFailure client now =>
    cases isNext
    exact invariant.noteFailure now
  | noteSuccess client =>
    cases isNext
    exact invariant.noteSuccess
  | takeClients =>
    cases isNext
    exact invariant.takeClients
  | closeClient client =>
    simp only [State.step] at isNext
    split at isNext
    · rename_i retires
      cases isNext
      exact invariant.closeClient retires meets
    · cases isNext

/-- Two dials that obtain a connection one after the other, with a stream and its end in between. -/
theorem limits_of_counted_in_turn :
    EveryState State.step Limits { manager := newXmuxManager { maxConcurrency := ⟨1, 1⟩ } 0 0 }
      [.get { now := 0 }, .addOpenUsage 0, .get { now := 1 }, .addOpenUsage 1, .release 0, .takeClients, .closeClient 0] := by
  refine limits_of_counted { maxConcurrency := ⟨1, 1⟩ } 0 0 _ ?_
  rintro _ ⟨⟩
  refine ⟨nofun, ?_⟩
  rintro _ ⟨⟩
  refine ⟨trivial, ?_⟩
  rintro _ ⟨⟩
  refine ⟨?_, ?_⟩
  · intro client isPooled
    cases List.mem_singleton.mp isPooled
    decide
  rintro _ ⟨⟩
  refine ⟨trivial, ?_⟩
  rintro _ ⟨⟩
  refine ⟨?_, ?_⟩
  · intro client isStreaming retired
    cases isStreaming
    cases retired
  rintro _ ⟨⟩
  refine ⟨trivial, ?_⟩
  rintro _ ⟨⟩
  exact ⟨.inr (by decide), trivial⟩

/-- Two dials obtain the connection before either is counted: with a limit of one stream it has
two, and with a limit of one handout the second dial closes it under the first. -/
theorem uncounted_dials : ¬EveryState State.step Limits { manager := newXmuxManager { maxConcurrency := ⟨1, 1⟩ } 0 0 }
        [.get { now := 0 }, .get { now := 0 }] ∧
      ¬EveryState State.step Limits { manager := newXmuxManager { cMaxReuseTimes := ⟨1, 1⟩ } 0 0 }
        [.get { now := 0 }, .get { now := 0 }] := by
  constructor
  · intro everyState
    have limits := everyState.final rfl
    exact absurd (limits.concurrency (by decide) 0) (by decide)
  · intro everyState
    have limits := everyState.final rfl
    exact absurd (limits.closedAtTheEnd 0 (by decide)) (by decide)

end SingBox.Xmux
