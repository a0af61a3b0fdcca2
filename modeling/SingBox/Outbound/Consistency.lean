import SingBox.Outbound.Index
import SingBox.Lib.Machine
import Mathlib.Dynamics.FixedPoints.Basic

/-! # Consistency of the outbound manager

The manager's two indexes, its record of dependents and its default outbound, along any
sequence of `Create`, `Remove` and `Start`. They stay right exactly as long as no operation
meets one of the places where the manager is updated by halves: a `Remove` that is refused has
taken the outbound out already, a replacement leaves the records of the outbound that it
replaces where they are, and an outbound whose `Close` failed stays registered and is closed
again.
-/

open List Option Nat Prod

namespace SingBox

open Lib Lib.Machine

/-! ## The record of dependents -/

variable (dependByTag : Table String (List String))

theorem dependByOf_put (key : String) (tags : List String) (tag : String) :
    dependByOf (dependByTag.put key tags) tag = if tag = key then tags else dependByOf dependByTag tag := by
  rw [dependByOf, Table.lookup_put]
  split <;> rfl

theorem dependByOf_erase (key tag : String) :
    dependByOf (dependByTag.erase key) tag = if tag = key then [] else dependByOf dependByTag tag := by
  rw [dependByOf, Table.lookup_erase]
  split <;> rfl

variable (tag : String) (dependencies : List String)

theorem dependByOf_addDependencies (dependByTag : Table String (List String)) (dependency : String) :
    dependByOf (dependencies.foldl (addDependency tag) dependByTag) dependency =
      dependByOf dependByTag dependency ++ List.replicate (dependencies.count dependency) tag := by
  induction dependencies generalizing dependByTag with
  | nil => simp
  | cons first rest ih =>
    rw [foldl_cons, ih, addDependency, dependByOf_put, count_cons]
    by_cases same : dependency = first
    · subst same
      simp [replicate_succ]
    · simp [same, Ne.symm same]

/-- What one turn of the loop of `Remove` makes of the dependents of the dependency. -/
def droppedFrom (tag : String) (dependents : List String) : List String :=
  if dependents.length = 1 then [] else dependents.filter (· ≠ tag)

theorem dependByOf_dropDependency (dependByTag : Table String (List String)) (dropped dependency : String) :
    dependByOf (dropDependency tag dependByTag dropped) dependency =
      if dependency = dropped then droppedFrom tag (dependByOf dependByTag dependency)
      else dependByOf dependByTag dependency := by
  unfold dropDependency droppedFrom
  by_cases same : dependency = dropped
  · subst same
    split <;> simp [dependByOf_erase, dependByOf_put]
  · split <;> simp [dependByOf_erase, dependByOf_put, same]

theorem dependByOf_dropDependencies (dependByTag : Table String (List String)) (dependency : String) :
    dependByOf (dependencies.foldl (dropDependency tag) dependByTag) dependency =
      (droppedFrom tag)^[dependencies.count dependency] (dependByOf dependByTag dependency) := by
  induction dependencies generalizing dependByTag with
  | nil => rfl
  | cons first rest ih =>
    rw [foldl_cons, ih, dependByOf_dropDependency, count_cons]
    by_cases same : dependency = first
    · subst same
      simp
    · simp [same, Ne.symm same]

variable {dependents : List String}

theorem droppedFrom_of_mem {tag : String} (depends : tag ∈ dependents) :
    droppedFrom tag dependents = dependents.filter (· ≠ tag) := by
  unfold droppedFrom
  split
  case isTrue single =>
    obtain ⟨only, rfl⟩ := length_eq_one_iff.mp single
    simp_all
  case isFalse => rfl

/-- The loop sees a dependency that is listed twice once more, without the tag, and takes a
last dependent for the tag. -/
theorem iterate_droppedFrom {tag : String} (absent : tag ∉ dependents) (turns : Nat) :
    (droppedFrom tag)^[turns] dependents = if 0 < turns ∧ dependents.length = 1 then [] else dependents := by
  have kept : dependents.filter (· ≠ tag) = dependents :=
    filter_eq_self.mpr fun other isMember => by
      have different : other ≠ tag := fun same => absent (same ▸ isMember)
      simpa using different
  have once : droppedFrom tag dependents = if dependents.length = 1 then [] else dependents := by
    rw [droppedFrom, kept]
  have empty : Function.IsFixedPt (droppedFrom tag) [] := rfl
  by_cases single : dependents.length = 1
  · cases turns with
    | zero => simp
    | succ turns =>
      rw [Function.iterate_succ_apply, once, if_pos single, Function.IsFixedPt.iterate empty turns]
      simp [single]
  · have fixed : Function.IsFixedPt (droppedFrom tag) dependents := by
      change droppedFrom tag dependents = dependents
      rw [once, if_neg single]
    rw [Function.IsFixedPt.iterate fixed turns]
    simp [single]

theorem mem_iterate_droppedFrom {tag : String} (depends : tag ∈ dependents) (turns : Nat) (other : String) :
    other ∈ (droppedFrom tag)^[turns + 1] dependents ↔
      (other ∈ dependents ∧ other ≠ tag) ∧ ¬(0 < turns ∧ (dependents.filter (· ≠ tag)).length = 1) := by
  rw [Function.iterate_succ_apply, droppedFrom_of_mem depends,
    iterate_droppedFrom (by simp : tag ∉ dependents.filter (· ≠ tag))]
  split
  case isTrue lost => exact ⟨fun isMember => (not_mem_nil isMember).elim, fun kept => absurd lost kept.2⟩
  case isFalse kept => simpa using fun _ _ => by simpa using kept

/-! ## What the manager should keep -/

namespace OutboundManager

structure Consistent (manager : OutboundManager) : Prop where
  registered : ∀ tag outbound,
    manager.outboundByTag.lookup tag = some outbound ↔ outbound ∈ manager.outbounds ∧ outbound.tag = tag
  single : (manager.outbounds.map (·.tag)).Nodup
  depended : ∀ dependency tag,
    tag ∈ manager.dependBy dependency ↔
      ∃ outbound ∈ manager.outbounds, outbound.tag = tag ∧ dependency ∈ outbound.dependencies
  default : ∀ outbound, manager.defaultOutbound = some (.outbound outbound) → outbound ∈ manager.outbounds

variable (manager : OutboundManager)

/-- The outbound that goes has not been closed before, by a replacement that failed. -/
def Unclosed (outbound : ManagedOutbound) : Prop :=
  manager.started → outbound ∉ manager.closed

def Safe : Operation → Prop
  | .remove tag _ => ∀ outbound ∈ manager.outboundByTag.lookup tag,
    manager.dependBy tag = [] ∧
    (∀ dependency, 1 < outbound.dependencies.count dependency →
      ((manager.dependBy dependency).filter (· ≠ tag)).length ≠ 1) ∧
    manager.Unclosed outbound
  | .create tag _ calls => ∀ outbound ∈ manager.outboundByTag.lookup tag, ∀ dependencies ∈ calls.constructs.toOption,
    manager.GetsThrough tag calls →
      outbound.dependencies ⊆ dependencies ∧
      (manager.defaultOutbound = some (.outbound outbound) → tag = manager.defaultTag) ∧
      manager.Unclosed outbound
  | .start _ _ => True

end OutboundManager

/-- A manager, and the outbounds that it has let go of since it was started. -/
structure WatchedManager where
  manager : OutboundManager
  dismissed : List ManagedOutbound := []

namespace WatchedManager

open OutboundManager

def new (defaultTag : String) : WatchedManager := { manager := { defaultTag } }

variable (watched : WatchedManager) (operation : Operation)

def next : WatchedManager :=
  let manager := (watched.manager.perform operation).1
  { manager
    dismissed := watched.dismissed ++
      if watched.manager.started then watched.manager.outbounds.filter (· ∉ manager.outbounds) else [] }

def step : Option WatchedManager := some (watched.next operation)

def ClosedOnce : Prop :=
  ∀ outbound ∈ watched.dismissed, watched.manager.closed.count outbound = 1

/-- What is asked of one operation. -/
structure Orderly (watched : WatchedManager) (operation : Operation) : Prop where
  consistent : (watched.next operation).manager.Consistent
  closedOnce : (watched.next operation).ClosedOnce
  refused : ∀ tag dependBy, (watched.manager.perform operation).2 = .error (.dependedBy tag dependBy) →
    (watched.next operation).manager = watched.manager
  returns : (∀ stage calls, operation ≠ .start stage calls) →
    ∀ message, (watched.manager.perform operation).2 ≠ .error (.panicked message)

end WatchedManager

/-! ## Which operations keep the manager consistent -/

namespace OutboundManager

variable {manager : OutboundManager} {tag : String} {outbound : ManagedOutbound}

section Consistent

variable (indexed : manager.Indexed) (consistent : manager.Consistent)
include indexed consistent

section
variable (found : manager.outboundByTag.lookup tag = some outbound)
include found

omit indexed in
theorem dependBy_self {dependency : String} (depends : dependency ∈ outbound.dependencies) :
    tag ∈ manager.dependBy dependency := by
  obtain ⟨isMember, tagged⟩ := (consistent.registered tag outbound).mp found
  exact (consistent.depended dependency tag).mpr ⟨outbound, isMember, tagged, depends⟩

theorem dependBy_without (dependency other : String) :
    other ∈ (manager.without tag outbound).dependBy dependency ↔
      (∃ holder ∈ manager.others tag, holder.tag = other ∧ dependency ∈ holder.dependencies) ∧
      ¬(1 < outbound.dependencies.count dependency ∧
        ((manager.dependBy dependency).filter (· ≠ tag)).length = 1) := by
  have dropped : (manager.without tag outbound).dependBy dependency =
      (droppedFrom tag)^[outbound.dependencies.count dependency] (manager.dependBy dependency) :=
    dependByOf_dropDependencies tag outbound.dependencies manager.dependByTag dependency
  have holders : (∃ holder ∈ manager.others tag, holder.tag = other ∧ dependency ∈ holder.dependencies) ↔
      other ∈ manager.dependBy dependency ∧ other ≠ tag := by
    rw [consistent.depended]
    constructor
    · rintro ⟨holder, isOther, rfl, depends⟩
      obtain ⟨isMember, different⟩ := mem_others.mp isOther
      exact ⟨⟨holder, isMember, rfl, depends⟩, different⟩
    · rintro ⟨⟨holder, isMember, rfl, depends⟩, different⟩
      exact ⟨holder, mem_others.mpr ⟨isMember, different⟩, rfl, depends⟩
  rw [dropped, holders]
  cases listed : outbound.dependencies.count dependency with
  | zero =>
    -- The outbound does not list the dependency, so the tag is not among its dependents.
    have unlisted : dependency ∉ outbound.dependencies := count_eq_zero.mp listed
    have notSelf : other ∈ manager.dependBy dependency → other ≠ tag := by
      rintro depends rfl
      obtain ⟨holder, isMember, tagged, lists⟩ := (consistent.depended dependency other).mp depends
      exact unlisted (indexed.eq_of_tag found isMember tagged ▸ lists)
    simpa using notSelf
  | succ turns =>
    have lists : dependency ∈ outbound.dependencies := count_pos_iff.mp (by omega)
    rw [mem_iterate_droppedFrom (dependBy_self consistent found lists)]
    have more : 0 < turns ↔ 1 < turns + 1 := by omega
    rw [more]

theorem consistent_without_iff :
    (manager.without tag outbound).Consistent ↔
      ∀ dependency, 1 < outbound.dependencies.count dependency →
        ((manager.dependBy dependency).filter (· ≠ tag)).length ≠ 1 := by
  have outbounds : (manager.without tag outbound).outbounds = manager.others tag :=
    indexed.erase_eq_others found
  constructor
  · intro removed dependency twice single
    obtain ⟨other, isOnly⟩ := length_eq_one_iff.mp single
    have isOther : other ∈ (manager.dependBy dependency).filter (· ≠ tag) := isOnly ▸ mem_singleton_self other
    obtain ⟨depends, different⟩ := mem_filter.mp isOther
    obtain ⟨holder, isMember, tagged, lists⟩ := (consistent.depended dependency other).mp depends
    have different : holder.tag ≠ tag := by simpa [tagged] using different
    have kept := (removed.depended dependency other).mpr
      ⟨holder, outbounds ▸ mem_others.mpr ⟨isMember, different⟩, tagged, lists⟩
    exact ((dependBy_without indexed consistent found dependency other).mp kept).2 ⟨twice, single⟩
  · intro kept
    have unregistered := indexed.unregister found
    refine ⟨unregistered.registered, unregistered.single, fun dependency other => ?_, fun holder isDefault => ?_⟩
    · rw [dependBy_without indexed consistent found, outbounds]
      exact and_iff_left fun lost => kept dependency lost.1 lost.2
    · have isDefault : (if manager.defaultOutbound = some (.outbound outbound) then
        (manager.outbounds.erase outbound).head?.map .outbound else manager.defaultOutbound) =
          some (.outbound holder) := isDefault
      split at isDefault
      case isTrue =>
        obtain ⟨first, isFirst, isHolder⟩ := map_eq_some_iff.mp isDefault
        cases isHolder
        exact mem_of_mem_head? isFirst
      case isFalse isNot =>
        have different : holder ≠ outbound := fun same => isNot (same ▸ isDefault)
        exact (mem_erase_of_ne different).mpr (consistent.default holder isDefault)

end

theorem consistent_withNew_iff {new : ManagedOutbound} (isNew : new.serial = manager.created)
    (closed : List ManagedOutbound) :
    (manager.withNew new closed).Consistent ↔
      ∀ outbound ∈ manager.outboundByTag.lookup new.tag, outbound.dependencies ⊆ new.dependencies ∧
        (manager.defaultOutbound = some (.outbound outbound) → new.tag = manager.defaultTag) := by
  have dependBy (dependency : String) : (manager.withNew new closed).dependBy dependency =
      manager.dependBy dependency ++ List.replicate (new.dependencies.count dependency) new.tag :=
    dependByOf_addDependencies new.tag new.dependencies manager.dependByTag dependency
  have default : (manager.withNew new closed).defaultOutbound =
      if new.tag = manager.defaultTag ∨ (manager.defaultTag = "" ∧ manager.defaultOutbound = none) then
        some (.outbound new) else manager.defaultOutbound := rfl
  constructor
  · intro installed outbound found
    obtain ⟨isMember, tagged⟩ := (consistent.registered new.tag outbound).mp found
    constructor
    · intro dependency lists
      have kept : new.tag ∈ (manager.withNew new closed).dependBy dependency := by
        rw [dependBy]
        exact mem_append_left _ (dependBy_self consistent found lists)
      obtain ⟨holder, isHolder, sameTag, listsToo⟩ := (installed.depended dependency new.tag).mp kept
      rcases mem_outbounds_withNew.mp isHolder with ⟨_, different⟩ | rfl
      · exact absurd sameTag different
      · exact listsToo
    · intro isDefault
      by_contra notDefaultTag
      have stays : (manager.withNew new closed).defaultOutbound = some (.outbound outbound) := by
        rw [default, if_neg (by simp [notDefaultTag, isDefault]), isDefault]
      rcases mem_outbounds_withNew.mp (installed.default outbound stays) with ⟨_, different⟩ | rfl
      · exact different tagged
      · exact absurd isNew (indexed.fresh outbound isMember).ne
  · intro condition
    have installed := indexed.withNew isNew closed
    refine ⟨installed.registered, installed.single, fun dependency other => ?_, fun holder isDefault => ?_⟩
    · rw [dependBy, mem_append, mem_replicate, consistent.depended]
      constructor
      · rintro (⟨holder, isMember, tagged, lists⟩ | ⟨listed, rfl⟩)
        · by_cases same : holder.tag = new.tag
          · -- The record that the replaced outbound has left behind is one of the new outbound too.
            have found := (consistent.registered new.tag holder).mpr ⟨isMember, same⟩
            exact ⟨new, mem_outbounds_withNew.mpr (.inr rfl), same.symm.trans tagged, (condition holder found).1 lists⟩
          · exact ⟨holder, mem_outbounds_withNew.mpr (.inl ⟨isMember, same⟩), tagged, lists⟩
        · exact ⟨new, mem_outbounds_withNew.mpr (.inr rfl), rfl, count_pos_iff.mp (Nat.pos_of_ne_zero listed)⟩
      · rintro ⟨holder, isHolder, rfl, lists⟩
        rcases mem_outbounds_withNew.mp isHolder with ⟨isMember, _⟩ | rfl
        · exact .inl ⟨holder, isMember, rfl, lists⟩
        · exact .inr ⟨(count_pos_iff.mpr lists).ne', rfl⟩
    · rw [mem_outbounds_withNew]
      rw [default] at isDefault
      split at isDefault
      case isTrue =>
        cases isDefault
        exact .inr rfl
      case isFalse notNew =>
        have isMember := consistent.default holder isDefault
        refine .inl ⟨isMember, fun same => notNew (.inl ?_)⟩
        exact (condition holder ((consistent.registered new.tag holder).mpr ⟨isMember, same⟩)).2 isDefault

end Consistent

end OutboundManager

/-! ## Whole runs -/

namespace WatchedManager

open OutboundManager

variable {watched : WatchedManager}

/-- What has been let go of was closed once, and does not come back. -/
def Gone (watched : WatchedManager) : Prop :=
  ∀ outbound ∈ watched.dismissed,
    outbound.serial < watched.manager.created ∧ outbound ∉ watched.manager.outbounds ∧
      watched.manager.closed.count outbound = 1

/-- What holds of a manager as long as the operations are safe. -/
structure Tidy (watched : WatchedManager) : Prop where
  indexed : watched.manager.Indexed
  consistent : watched.manager.Consistent
  gone : watched.Gone

/-- What the manager becomes, as far as the outbounds that have gone are concerned: new outbounds
are new objects, and only registered ones are closed. -/
structure Proceeds (manager next : OutboundManager) : Prop where
  grows : manager.created ≤ next.created
  older : ∀ outbound ∈ next.outbounds, outbound ∈ manager.outbounds ∨ manager.created ≤ outbound.serial
  closes : ∃ closing, next.closed = manager.closed ++ closing ∧ ∀ outbound ∈ closing, outbound ∈ manager.outbounds

variable {operation : Operation}

theorem Tidy.gone_next (tidy : watched.Tidy) (proceeds : Proceeds watched.manager (watched.next operation).manager)
    (leaves : watched.manager.started → ∀ outbound ∈ watched.manager.outbounds,
      outbound ∉ (watched.next operation).manager.outbounds →
        (watched.next operation).manager.closed.count outbound = 1) : (watched.next operation).Gone := by
  intro outbound isDismissed
  rcases mem_append.mp isDismissed with before | now
  · obtain ⟨older, absent, once⟩ := tidy.gone outbound before
    obtain ⟨closing, closed, registered⟩ := proceeds.closes
    refine ⟨lt_of_lt_of_le older proceeds.grows, fun isMember => ?_, ?_⟩
    · rcases proceeds.older outbound isMember with wasMember | isNew
      · exact absent wasMember
      · exact absurd older (not_lt.mpr isNew)
    · have notClosing : outbound ∉ closing := fun isClosing => absent (registered outbound isClosing)
      rw [closed, count_append, count_eq_zero.mpr notClosing, once]
  · split at now
    case isTrue started =>
      obtain ⟨wasMember, isGone⟩ := mem_filter.mp now
      have isGone : outbound ∉ (watched.next operation).manager.outbounds := of_decide_eq_true isGone
      exact ⟨lt_of_lt_of_le (tidy.indexed.fresh outbound wasMember) proceeds.grows, isGone,
        leaves started outbound wasMember isGone⟩
    case isFalse => cases now

/-- The operation leaves what is registered, and has a default outbound that is an endpoint at most. -/
theorem Tidy.next_of_same (tidy : watched.Tidy) {next : OutboundManager}
    (isNext : (watched.manager.perform operation).1 = next) (proceeds : Proceeds watched.manager next)
    (outbounds : next.outbounds = watched.manager.outbounds) (dependByTag : next.dependByTag = watched.manager.dependByTag)
    (default : next.defaultOutbound = watched.manager.defaultOutbound ∨ ∃ tag, next.defaultOutbound = some (.endpoint tag)) :
    (watched.next operation).Tidy := by
  have isMgr : (watched.next operation).manager = next := isNext
  rw [← isMgr] at proceeds outbounds dependByTag default
  have consistent := tidy.consistent
  have indexed := tidy.indexed.perform operation
  refine ⟨indexed, ⟨indexed.registered, indexed.single, fun dependency tag => ?_, fun outbound isDefault => ?_⟩, ?_⟩
  · rw [OutboundManager.dependBy, dependByTag, outbounds]
    exact consistent.depended dependency tag
  · rw [outbounds]
    rcases default with same | ⟨tag, endpoint⟩
    · exact consistent.default outbound (same ▸ isDefault)
    · rw [endpoint] at isDefault
      cases isDefault
  · refine tidy.gone_next proceeds fun _ outbound wasMember isGone => ?_
    rw [outbounds] at isGone
    exact absurd wasMember isGone

theorem Proceeds.of_same {manager next : OutboundManager} (outbounds : next.outbounds = manager.outbounds)
    (created : next.created = manager.created) (closed : next.closed = manager.closed) : Proceeds manager next :=
  ⟨created.ge, fun _ isMember => .inl (outbounds ▸ isMember), [], by simp [closed], by simp⟩

theorem Orderly.of_tidy (tidy : (watched.next operation).Tidy)
    (plain : ∀ error, (watched.manager.perform operation).2 = .error error → PlainError error) :
    watched.Orderly operation where
  consistent := tidy.consistent
  closedOnce outbound isDismissed := (tidy.gone outbound isDismissed).2.2
  refused _ _ fails := (plain _ fails).elim
  returns _ _ fails := plain _ fails

/-- The outbound of the tag goes, and is closed if the manager is started. -/
structure Departs (manager next : OutboundManager) (tag : String) : Prop where
  grows : manager.created ≤ next.created
  members : ∀ outbound ∈ next.outbounds,
    outbound ∈ manager.outbounds ∧ outbound.tag ≠ tag ∨ manager.created ≤ outbound.serial
  others : ∀ outbound ∈ manager.outbounds, outbound.tag ≠ tag → outbound ∈ next.outbounds
  closes : next.closed = manager.closed ++ if manager.started then (manager.outboundByTag.lookup tag).toList else []

section
variable {tag : String} (departs : Departs watched.manager (watched.next operation).manager tag) (tidy : watched.Tidy)
include departs tidy

theorem Departs.gone (unclosed : ∀ outbound ∈ watched.manager.outboundByTag.lookup tag, watched.manager.Unclosed outbound) :
    (watched.next operation).Gone := by
  have registered := tidy.consistent.registered tag
  refine tidy.gone_next ⟨departs.grows, fun outbound isMember => (departs.members outbound isMember).imp_left And.left,
    _, departs.closes, fun outbound isClosing => ?_⟩ fun started outbound wasMember isGone => ?_
  · split at isClosing
    case isTrue => exact ((registered outbound).mp (mem_toList.mp isClosing)).1
    case isFalse => cases isClosing
  · have sameTag : outbound.tag = tag := by
      by_contra different
      exact isGone (departs.others outbound wasMember different)
    have found := (registered outbound).mpr ⟨wasMember, sameTag⟩
    rw [departs.closes, if_pos started, found, toList_some, count_append, count_eq_zero.mpr (unclosed outbound found started),
      count_singleton_self]

/-- An outbound that had been closed before would be closed twice. -/
theorem Departs.unclosed (closedOnce : (watched.next operation).ClosedOnce) {outbound : ManagedOutbound}
    (found : watched.manager.outboundByTag.lookup tag = some outbound) : watched.manager.Unclosed outbound := by
  intro started wasClosed
  obtain ⟨isMember, tagged⟩ := (tidy.consistent.registered tag outbound).mp found
  have isGone : outbound ∉ (watched.next operation).manager.outbounds := by
    intro stays
    rcases departs.members outbound stays with ⟨_, different⟩ | isNew
    · exact different tagged
    · exact absurd (tidy.indexed.fresh outbound isMember) (not_lt.mpr isNew)
  have isDismissed : outbound ∈ (watched.next operation).dismissed := by
    refine mem_append_right _ ?_
    rw [if_pos started]
    exact mem_filter.mpr ⟨isMember, decide_eq_true isGone⟩
  have once := closedOnce outbound isDismissed
  have before : 0 < watched.manager.closed.count outbound := count_pos_iff.mpr wasClosed
  rw [departs.closes, if_pos started, found, toList_some, count_append, count_singleton_self] at once
  omega

end

theorem departs_of_withNew {started : Bool} {stage : StartStage} {new : ManagedOutbound} {closed : List ManagedOutbound}
    (isNext : (watched.next operation).manager = { watched.manager with started, stage }.withNew new closed)
    (isNew : new.serial = watched.manager.created)
    (closes : closed = watched.manager.closed ++
      if watched.manager.started then (watched.manager.outboundByTag.lookup new.tag).toList else []) :
    Departs watched.manager (watched.next operation).manager new.tag := by
  rw [isNext]
  refine ⟨le_succ _, fun other isMember => ?_, fun other wasMember different => ?_, closes⟩
  · rcases mem_outbounds_withNew.mp isMember with isOther | rfl
    · exact .inl isOther
    · exact .inr isNew.ge
  · exact mem_outbounds_withNew.mpr (.inl ⟨wasMember, different⟩)

/-- An operation that is safe keeps the manager tidy, and only a safe one is orderly. -/
structure Settles (watched : WatchedManager) (operation : Operation) : Prop where
  tidy : watched.manager.Safe operation → (watched.next operation).Tidy
  orderly : watched.manager.Safe operation → watched.Orderly operation
  safe : watched.Orderly operation → watched.manager.Safe operation

theorem Settles.of_plain {result : OutboundManager × Except ManagerError Unit}
    (performs : watched.manager.perform operation = result)
    (plain : ∀ error, result.2 = .error error → PlainError error)
    (tidy : watched.manager.Safe operation → (watched.next operation).Tidy)
    (safe : watched.Orderly operation → watched.manager.Safe operation) : watched.Settles operation where
  tidy := tidy
  orderly isSafe := .of_tidy (tidy isSafe) (performs ▸ plain)
  safe := safe

section
variable (tidy : watched.Tidy)
include tidy

theorem remove_settles (tag : String) (closes : Except String Unit) : watched.Settles (.remove tag closes) := by
  have consistent := tidy.consistent
  have indexed := tidy.indexed
  rcases Remove_cases indexed tag closes with
    ⟨absent, fails⟩ | ⟨outbound, found, ⟨depended, fails⟩ | ⟨undepended, result, plain, removes⟩⟩
  · refine .of_plain fails (by rintro _ ⟨⟩; trivial) (fun _ => ?_) fun _ => by simp [Safe, absent]
    exact tidy.next_of_same (congrArg fst fails) (.of_same rfl rfl rfl) rfl rfl (.inl rfl)
  · refine ⟨fun safe => absurd (safe outbound found).1 depended, fun safe => absurd (safe outbound found).1 depended,
      fun orderly => ?_⟩
    have unchanged := orderly.refused tag _ (congrArg snd fails)
    have changed : (watched.next (.remove tag closes)).manager = watched.manager.unregister tag outbound :=
      congrArg fst fails
    have erased : (watched.manager.outboundByTag.erase tag).lookup tag = watched.manager.outboundByTag.lookup tag :=
      congrArg (fun manager => manager.outboundByTag.lookup tag) (changed.symm.trans unchanged)
    rw [Table.lookup_erase, if_pos rfl, found] at erased
    cases erased
  · have isNext : (watched.next (.remove tag closes)).manager = watched.manager.without tag outbound :=
      congrArg fst removes
    have outbounds : (watched.manager.without tag outbound).outbounds = watched.manager.others tag :=
      indexed.erase_eq_others found
    have departs : Departs watched.manager (watched.next (.remove tag closes)).manager tag := by
      rw [isNext]
      refine ⟨le_refl _, ?_, ?_, ?_⟩
      · rw [outbounds]
        exact fun _ isOther => .inl (mem_others.mp isOther)
      · rw [outbounds]
        exact fun _ wasMember different => mem_others.mpr ⟨wasMember, different⟩
      · rw [found]
        unfold OutboundManager.without
        split <;> simp
    refine .of_plain removes plain (fun safe => ?_) fun orderly other isFound => ?_
    · obtain ⟨_, kept, unclosed⟩ := safe outbound found
      refine ⟨indexed.perform _, isNext ▸ (consistent_without_iff indexed consistent found).mpr kept,
        departs.gone tidy fun other isFound => ?_⟩
      cases found.symm.trans isFound
      exact unclosed
    · cases found.symm.trans isFound
      exact ⟨undepended, (consistent_without_iff indexed consistent found).mp (isNext ▸ orderly.consistent),
        departs.unclosed tidy orderly.closedOnce found⟩

/-- `Create` has put the new outbound in, and closed the outbound that was there if the manager is started. -/
theorem installed_settles {tag type : String} {calls : CreateCalls} {new : ManagedOutbound}
    {closed : List ManagedOutbound} (made : watched.manager.Made tag calls new)
    (getsThrough : (watched.manager.outboundByTag.lookup tag).isSome → watched.manager.GetsThrough tag calls)
    (closes : closed = watched.manager.closed ++
      if watched.manager.started then (watched.manager.outboundByTag.lookup tag).toList else [])
    (creates : watched.manager.Create tag type calls = (watched.manager.withNew new closed, .ok ())) :
    watched.Settles (.create tag type calls) := by
  obtain ⟨isNew, rfl, constructs⟩ := made
  have isNext : (watched.next (.create new.tag type calls)).manager = watched.manager.withNew new closed :=
    congrArg fst creates
  have installed := consistent_withNew_iff tidy.indexed tidy.consistent isNew closed
  have departs := departs_of_withNew isNext isNew closes
  refine .of_plain creates (by simp) (fun safe => ?_) fun orderly outbound found => ?_
  · have safe (outbound : ManagedOutbound) (found : watched.manager.outboundByTag.lookup new.tag = some outbound) :=
      safe outbound found new.dependencies (by simp [constructs, Except.toOption]) (getsThrough (by simp [found]))
    exact ⟨tidy.indexed.perform _,
      isNext ▸ installed.mpr fun outbound found => ⟨(safe outbound found).1, (safe outbound found).2.1⟩,
      departs.gone tidy fun outbound found => (safe outbound found).2.2⟩
  · intro listed isListed _
    cases (by simpa [constructs, Except.toOption] using isListed : new.dependencies = listed)
    obtain ⟨covered, default⟩ := installed.mp (isNext ▸ orderly.consistent) outbound found
    exact ⟨covered, default, departs.unclosed tidy orderly.closedOnce found⟩

theorem create_settles (tag type : String) (calls : CreateCalls) : watched.Settles (.create tag type calls) := by
  have creates := creates tidy.indexed tag type calls
  generalize created : watched.manager.Create tag type calls = result at creates
  cases creates with
  | refused serials error grows plain stops =>
    refine .of_plain created (by rintro _ ⟨⟩; exact plain) (fun _ => ?_) fun _ => ?_
    · exact tidy.next_of_same (congrArg fst created) ⟨grows, fun _ isMember => .inl isMember, [], by simp, by simp⟩
        rfl rfl (.inl rfl)
    · intro outbound _ dependencies isListed getsThrough
      exact absurd getsThrough (stops (isSome_of_mem isListed))
  | unclosed outbound error plain found stops =>
    refine .of_plain created (by rintro _ ⟨⟩; exact plain) (fun _ => ?_) fun _ => ?_
    · have isMember := ((tidy.consistent.registered tag outbound).mp found).1
      exact tidy.next_of_same (congrArg fst created)
        ⟨le_succ _, fun _ isMember => .inl isMember, [outbound], rfl, by simpa using isMember⟩
        rfl rfl (.inl rfl)
    · intro _ _ _ _ getsThrough
      exact absurd getsThrough stops
  | added new made absent =>
    refine installed_settles tidy made (by simp [absent]) rfl ?_
    rw [created, absent]
    simp
  | replaced new made outbound found getsThrough =>
    refine installed_settles tidy made (fun _ => getsThrough) rfl ?_
    rw [created, found]
    cases watched.manager.started <;> simp

/-- The fallback is the only outbound, and takes the place of none. -/
theorem Tidy.next_of_fallback {started : Bool} {stage : StartStage} (unset : watched.manager.defaultTag = "")
    (undecided : watched.manager.defaultOutbound = none)
    (isNext : (watched.manager.perform operation).1 = { watched.manager with started, stage }.useFallback) :
    (watched.next operation).Tidy := by
  have going : ({ watched.manager with started, stage } : OutboundManager).Indexed :=
    tidy.indexed.of_same rfl rfl (le_refl _) (.inl ⟨rfl, rfl⟩)
  have isNext : (watched.next operation).manager = _ := isNext.trans (going.useFallback_eq unset undecided)
  have none (outbound : ManagedOutbound) : watched.manager.outboundByTag.lookup "direct" ≠ some outbound := by
    rw [Ne, tidy.indexed.registered, tidy.indexed.undecided unset undecided]
    simp
  refine ⟨tidy.indexed.perform operation, ?_, ?_⟩
  · rw [isNext]
    exact (consistent_withNew_iff going { tidy.consistent with } rfl _).mpr fun outbound found => absurd found (none outbound)
  · have departs := departs_of_withNew isNext rfl (by simp [eq_none_iff_forall_ne_some.mpr none, directOutbound])
    exact departs.gone tidy fun outbound found => absurd found (none outbound)

theorem start_settles (stage : StartStage) (calls : StartCalls) : watched.Settles (.start stage calls) := by
  obtain ⟨plain, started, reached, isNext⟩ := Start_cases watched.manager stage calls
  have next : (watched.next (.start stage calls)).Tidy := by
    rcases isNext with same | endpoint | ⟨unset, undecided, fallback⟩
    · exact tidy.next_of_same same (.of_same rfl rfl rfl) rfl rfl (.inl rfl)
    · exact tidy.next_of_same endpoint (.of_same rfl rfl rfl) rfl rfl (.inr ⟨_, rfl⟩)
    · exact tidy.next_of_fallback unset undecided fallback
  exact ⟨fun _ => next, fun _ =>
    { consistent := next.consistent
      closedOnce := fun outbound isDismissed => (next.gone outbound isDismissed).2.2
      refused := fun tag dependBy fails => absurd fails (plain tag dependBy)
      returns := fun isOther => absurd rfl (isOther stage calls) }, fun _ => trivial⟩

theorem Tidy.settles : ∀ operation, watched.Settles operation
  | .create tag type calls => create_settles tidy tag type calls
  | .remove tag closes => remove_settles tidy tag closes
  | .start stage calls => start_settles tidy stage calls

end

theorem tidy_new (defaultTag : String) : (new defaultTag).Tidy where
  indexed := indexed_new defaultTag
  consistent := ⟨by simp [new], by simp [new], by simp [new, OutboundManager.dependBy, dependByOf], by simp [new]⟩
  gone := by simp [Gone, new]

/-- The manager stays consistent exactly as long as every operation is safe. -/
theorem manager_consistent_iff (defaultTag : String) (operations : List Operation) :
    EveryStep step Orderly (new defaultTag) operations ↔
      EveryStep step (fun watched operation => watched.manager.Safe operation) (new defaultTag) operations := by
  refine everyStep_iff_everyStep (fun watched operation tidy => ?_) (fun watched operation next tidy taken safe => ?_)
    (tidy_new defaultTag) operations
  · exact ⟨(tidy.settles operation).safe, (tidy.settles operation).orderly⟩
  · cases taken
    exact (tidy.settles operation).tidy safe

/-- `b` depends on `a`, and removing `a` is refused. -/
def refusedRemoval : List Operation :=
  [.create "a" "direct" { constructs := .ok [] }, .create "b" "socks" { constructs := .ok ["a"] }, .remove "a" (.ok ())]

/-- The removal returns an error, and `a` is gone. -/
theorem refused_removal_removes : ¬EveryStep step Orderly (new "") refusedRemoval := by
  intro orderly
  have removal : Orderly (((new "").next (.create "a" "direct" { constructs := .ok [] })).next
      (.create "b" "socks" { constructs := .ok ["a"] })) (.remove "a" (.ok ())) :=
    (((orderly _ rfl).2 _ rfl).2 _ rfl).1
  have unchanged := removal.refused "a" ["b"] (by decide +kernel)
  have sameTags := congrArg (fun manager => manager.outbounds.map (·.tag)) unchanged
  exact absurd sameTags (by decide +kernel)

end WatchedManager

end SingBox
