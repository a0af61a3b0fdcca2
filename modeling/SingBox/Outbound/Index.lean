import SingBox.Outbound.Manager

/-! # The indexes of the outbound manager

What each operation of the manager comes to, as long as its list and its map agree, and that
they agree after every operation, whatever its calls return.
-/

namespace SingBox

open Lib

namespace OutboundManager

variable {manager next : OutboundManager} {tag type : String} {outbound : ManagedOutbound}

/-! ## The list and the map -/

structure Indexed (manager : OutboundManager) : Prop where
  registered : ∀ tag outbound,
    manager.outboundByTag.lookup tag = some outbound ↔ outbound ∈ manager.outbounds ∧ outbound.tag = tag
  single : (manager.outbounds.map (·.tag)).Nodup
  fresh : ∀ outbound ∈ manager.outbounds, outbound.serial < manager.created
  undecided : manager.defaultTag = "" → manager.defaultOutbound = none → manager.outbounds = []

/-- The outbounds that a new outbound with the tag leaves in the list. -/
def others (manager : OutboundManager) (tag : String) : List ManagedOutbound :=
  manager.outbounds.filter (·.tag ≠ tag)

theorem mem_others : outbound ∈ manager.others tag ↔ outbound ∈ manager.outbounds ∧ outbound.tag ≠ tag := by
  simp [others]

namespace Indexed

variable (indexed : manager.Indexed)
include indexed

section
variable (found : manager.outboundByTag.lookup tag = some outbound)
include found

theorem eq_of_tag {other : ManagedOutbound}
    (isMember : other ∈ manager.outbounds) (tagged : other.tag = tag) : other = outbound := by
  have foundOther := (indexed.registered tag other).mpr ⟨isMember, tagged⟩
  exact Option.some.inj (foundOther.symm.trans found)

theorem erase_eq_others : manager.outbounds.erase outbound = manager.others tag := by
  obtain ⟨_, tagged⟩ := (indexed.registered tag outbound).mp found
  rw [indexed.single.of_map.erase_eq_filter, others]
  refine List.filter_congr fun other isMember => ?_
  have sameTag : other.tag = tag ↔ other = outbound :=
    ⟨indexed.eq_of_tag found isMember, fun same => same ▸ tagged⟩
  simp [sameTag, bne, beq_eq_decide]

end

theorem others_of_unregistered (absent : manager.outboundByTag.lookup tag = none) :
    manager.others tag = manager.outbounds := by
  refine List.filter_eq_self.mpr fun other isMember => ?_
  have different : other.tag ≠ tag := by
    intro tagged
    rw [(indexed.registered tag other).mpr ⟨isMember, tagged⟩] at absent
    cases absent
  simpa using different

end Indexed

/-! ## What the operations do -/

/-- `Create` comes to the point where it replaces the outbound with its tag. -/
def GetsThrough (manager : OutboundManager) (tag : String) (calls : CreateCalls) : Prop :=
  tag ≠ "" ∧
    (manager.started → (∀ stage ∈ StartStage.listStartStages, calls.starts stage = .ok ()) ∧ calls.closes = .ok ())

/-- An error that neither refuses a removal nor is a panic. -/
def PlainError : ManagerError → Prop
  | .dependedBy _ _ | .panicked _ => False
  | _ => True

/-- The manager once it has removed an outbound on which nothing depends. -/
def without (manager : OutboundManager) (tag : String) (outbound : ManagedOutbound) : OutboundManager :=
  { (manager.unregister tag outbound).dropDependencies tag outbound with
    closed := if manager.started then manager.closed ++ [outbound] else manager.closed }

theorem Remove_cases (indexed : manager.Indexed) (tag : String) (closes : Except String Unit) :
    (manager.outboundByTag.lookup tag = none ∧ manager.Remove tag closes = (manager, .error .invalid)) ∨
    ∃ outbound, manager.outboundByTag.lookup tag = some outbound ∧
      ((manager.dependBy tag ≠ [] ∧
        manager.Remove tag closes =
          (manager.unregister tag outbound, .error (.dependedBy tag (manager.dependBy tag)))) ∨
      (manager.dependBy tag = [] ∧ ∃ result, (∀ error, result = .error error → PlainError error) ∧
        manager.Remove tag closes = (manager.without tag outbound, result))) := by
  unfold Remove
  cases found : manager.outboundByTag.lookup tag with
  | none => exact .inl ⟨rfl, rfl⟩
  | some outbound =>
    right
    have isMember : outbound ∈ manager.outbounds := ((indexed.registered tag outbound).mp found).1
    refine ⟨outbound, rfl, ?_⟩
    simp only [isMember, not_true_eq_false, if_false]
    have same : (manager.unregister tag outbound).dependBy tag = manager.dependBy tag := rfl
    rw [same]
    by_cases depended : manager.dependBy tag = []
    · right
      refine ⟨depended, ?_⟩
      simp only [depended, ne_eq, not_true_eq_false, if_false]
      have started : ((manager.unregister tag outbound).dropDependencies tag outbound).started = manager.started := rfl
      rw [started, without]
      cases manager.started with
      | false => exact ⟨.ok (), by simp, rfl⟩
      | true =>
        refine ⟨closes.mapError .returned, fun error fails => ?_, rfl⟩
        cases closes with
        | error => cases fails; trivial
        | ok => cases fails
    · left
      simp [depended]

theorem startStages_cases (outbound : ManagedOutbound) (starts : StartStage → Except String Unit) :
    (startStages outbound starts = .ok () ∧ ∀ stage ∈ StartStage.listStartStages, starts stage = .ok ()) ∨
    (∃ error message, startStages outbound starts = .error (.cause error message)) ∧
      ¬∀ stage ∈ StartStage.listStartStages, starts stage = .ok () := by
  unfold startStages
  induction StartStage.listStartStages with
  | nil => exact .inl ⟨rfl, by simp⟩
  | cons first rest ih =>
    simp only [List.forM_eq_forM, List.forM_cons] at ih ⊢
    cases started : starts first with
    | error error => exact .inr ⟨⟨error, _, rfl⟩, by simp [started]⟩
    | ok =>
      rcases ih with ⟨succeeds, all⟩ | ⟨fails, failed⟩
      · exact .inl ⟨succeeds, by simpa [started] using all⟩
      · exact .inr ⟨fails, by simpa [started] using failed⟩

/-- The manager once it has a new outbound, which takes the place of all others with its tag. -/
def withNew (manager : OutboundManager) (new : ManagedOutbound) (closed : List ManagedOutbound) : OutboundManager :=
  { manager with created := manager.created + 1, outbounds := manager.others new.tag, closed }.register new.tag new

/-- The outbound that `Create` makes. -/
structure Made (manager : OutboundManager) (tag : String) (calls : CreateCalls) (new : ManagedOutbound) : Prop where
  serial : new.serial = manager.created
  tag : new.tag = tag
  constructs : calls.constructs = .ok new.dependencies

/-- What `Create` may come to. -/
inductive Creates (manager : OutboundManager) (tag : String) (calls : CreateCalls) :
    OutboundManager × Except ManagerError Unit → Prop
  | refused (created : Nat) (error : ManagerError) (grows : manager.created ≤ created) (plain : PlainError error)
      (stops : calls.constructs.toOption.isSome → ¬manager.GetsThrough tag calls) :
      Creates manager tag calls ({ manager with created }, .error error)
  | unclosed (outbound : ManagedOutbound) (error : ManagerError) (plain : PlainError error)
      (found : manager.outboundByTag.lookup tag = some outbound) (stops : ¬manager.GetsThrough tag calls) :
      Creates manager tag calls
        ({ manager with created := manager.created + 1, closed := manager.closed ++ [outbound] }, .error error)
  | added (new : ManagedOutbound) (made : manager.Made tag calls new)
      (absent : manager.outboundByTag.lookup tag = none) :
      Creates manager tag calls (manager.withNew new manager.closed, .ok ())
  | replaced (new : ManagedOutbound) (made : manager.Made tag calls new) (outbound : ManagedOutbound)
      (found : manager.outboundByTag.lookup tag = some outbound) (getsThrough : manager.GetsThrough tag calls) :
      Creates manager tag calls
        (manager.withNew new (if manager.started then manager.closed ++ [outbound] else manager.closed), .ok ())

theorem creates (indexed : manager.Indexed) (tag type : String) (calls : CreateCalls) :
    manager.Creates tag calls (manager.Create tag type calls) := by
  unfold Create
  by_cases empty : tag = ""
  · rw [if_pos empty]
    exact .refused manager.created .invalid (Nat.le_refl _) trivial fun _ getsThrough => getsThrough.1 empty
  rw [if_neg empty]
  cases constructs : calls.constructs with
  | error error => exact .refused manager.created _ (Nat.le_refl _) trivial (by simp [constructs, Except.toOption])
  | ok dependencies =>
    dsimp only
    generalize isNew : ({ serial := manager.created, type, tag, dependencies } : ManagedOutbound) = new
    have made : manager.Made tag calls new := by
      subst isNew
      exact ⟨rfl, rfl, constructs⟩
    have starting : (∃ error message, (if manager.started then startStages new calls.starts else .ok ()) =
        .error (.cause error message) ∧ ¬manager.GetsThrough tag calls) ∨
        (if manager.started then startStages new calls.starts else .ok ()) = .ok () ∧
        (manager.started → ∀ stage ∈ StartStage.listStartStages, calls.starts stage = .ok ()) := by
      cases started : manager.started with
      | false => simp
      | true =>
        rcases startStages_cases new calls.starts with ⟨succeeds, all⟩ | ⟨⟨error, message, fails⟩, failed⟩
        · exact .inr ⟨succeeds, fun _ => all⟩
        · exact .inl ⟨error, message, fails, fun getsThrough => failed (getsThrough.2 started).1⟩
    rcases starting with ⟨error, message, fails, stops⟩ | ⟨succeeds, all⟩
    · rw [fails]
      exact .refused (manager.created + 1) _ (Nat.le_succ _) trivial fun _ => stops
    rw [succeeds]
    unfold install
    cases found : manager.outboundByTag.lookup tag with
    | none =>
      have unchanged : manager.others tag = manager.outbounds := indexed.others_of_unregistered found
      have added := Creates.added new made found
      rw [withNew, made.tag, unchanged] at added
      exact added
    | some outbound =>
      have isMember : outbound ∈ manager.outbounds := ((indexed.registered tag outbound).mp found).1
      have replaced := Creates.replaced new made outbound found
      rw [withNew, made.tag, ← indexed.erase_eq_others found] at replaced
      cases started : manager.started with
      | false =>
        simp only [started, Bool.false_eq_true, if_false] at replaced ⊢
        simp only [isMember, not_true_eq_false, if_false]
        exact replaced ⟨empty, by simp [started]⟩
      | true =>
        simp only [started, if_true] at replaced ⊢
        cases closes : calls.closes with
        | error error =>
          have stops : ¬manager.GetsThrough tag calls := fun getsThrough => by
            have succeeds := (getsThrough.2 started).2
            rw [closes] at succeeds
            cases succeeds
          have unclosed : manager.Creates tag calls _ :=
            .unclosed outbound (.cause error ("close " ++ outbound.name)) trivial found stops
          rw [started] at unclosed
          exact unclosed
        | ok =>
          simp only [close, isMember, not_true_eq_false, if_false]
          exact replaced ⟨empty, fun _ => ⟨all started, closes⟩⟩

theorem mem_outbounds_withNew {new holder : ManagedOutbound} {closed : List ManagedOutbound} :
    holder ∈ (manager.withNew new closed).outbounds ↔
      (holder ∈ manager.outbounds ∧ holder.tag ≠ new.tag) ∨ holder = new := by
  rw [← mem_others]
  exact List.mem_append.trans (or_congr_right List.mem_singleton)

theorem Start_cases (manager : OutboundManager) (stage : StartStage) (calls : StartCalls) :
    (∀ tag dependBy, (manager.Start stage calls).2 ≠ .error (.dependedBy tag dependBy)) ∧
    ∃ started reached, let going := { manager with started, stage := reached }
      (manager.Start stage calls).1 = going ∨
      (manager.Start stage calls).1 = { going with defaultOutbound := some (.endpoint manager.defaultTag) } ∨
      (manager.defaultTag = "" ∧ manager.defaultOutbound = none ∧ (manager.Start stage calls).1 = going.useFallback) := by
  have plain (settled : Except ManagerError Unit) (isPlain : ∀ tag dependBy, settled ≠ .error (.dependedBy tag dependBy))
      (tag : String) (dependBy : List String) :
      (settled.bind fun _ => calls.starts.mapError ManagerError.returned) ≠ .error (.dependedBy tag dependBy) := by
    cases settled with
    | error error => simpa [Except.bind] using isPlain tag dependBy
    | ok =>
      cases calls.starts with
      | ok => nofun
      | error error =>
        change Except.error (ManagerError.returned error) ≠ _
        simp
  unfold Start
  split
  case isTrue => exact ⟨by simp, manager.started, manager.stage, .inl rfl⟩
  case isFalse =>
    dsimp only
    split
    case isFalse => exact ⟨plain _ (by simp), true, stage, .inl rfl⟩
    case isTrue =>
      unfold settleDefault
      by_cases decided : manager.defaultOutbound = none
      · by_cases unset : manager.defaultTag = ""
        · simp only [decided, unset, ne_eq, not_true_eq_false, if_false]
          cases calls.fallback with
          | error error => exact ⟨plain _ (by simp), true, stage, .inl rfl⟩
          | ok => exact ⟨plain _ (by simp), true, stage, .inr (.inr ⟨trivial, trivial, rfl⟩)⟩
        · simp only [decided, unset, ne_eq, not_true_eq_false, not_false_eq_true, if_false, if_true]
          cases calls.endpoint with
          | false => exact ⟨plain _ (by simp), true, stage, .inl rfl⟩
          | true => exact ⟨plain _ (by simp), true, stage, .inr (.inl rfl)⟩
      · simp only [decided, ne_eq, not_false_eq_true, if_true]
        exact ⟨plain _ (by simp), true, stage, .inl rfl⟩

/-! ## Every operation keeps the indexes in step -/

open List

theorem indexed_new (defaultTag : String) : ({ defaultTag } : OutboundManager).Indexed :=
  ⟨by simp, by simp, by simp, fun _ _ => rfl⟩

namespace Indexed

variable (indexed : manager.Indexed)
include indexed

theorem of_same (outbounds : next.outbounds = manager.outbounds) (outByTag : next.outboundByTag = manager.outboundByTag)
    (created : manager.created ≤ next.created)
    (default : next.defaultTag = manager.defaultTag ∧ next.defaultOutbound = manager.defaultOutbound ∨
      ∃ tag, next.defaultOutbound = some (.endpoint tag)) : next.Indexed := by
  refine ⟨?_, ?_, fun outbound isMember => ?_, fun unset undecided => ?_⟩
  · rw [outbounds, outByTag]
    exact indexed.registered
  · rw [outbounds]
    exact indexed.single
  · rw [outbounds] at isMember
    exact Nat.lt_of_lt_of_le (indexed.fresh outbound isMember) created
  · rw [outbounds]
    rcases default with ⟨sameTag, same⟩ | ⟨tag, endpoint⟩
    · exact indexed.undecided (sameTag ▸ unset) (same ▸ undecided)
    · rw [endpoint] at undecided
      cases undecided

theorem unregister (found : manager.outboundByTag.lookup tag = some outbound) :
    (manager.unregister tag outbound).Indexed := by
  have outbounds : (manager.unregister tag outbound).outbounds = manager.others tag := indexed.erase_eq_others found
  refine ⟨fun other holder => ?_, ?_, fun holder isMember => ?_, fun unset undecided => ?_⟩
  · have erased : (manager.unregister tag outbound).outboundByTag = manager.outboundByTag.erase tag := rfl
    rw [outbounds, mem_others, erased, Table.lookup_erase]
    by_cases same : other = tag
    · simp [same]
    · rw [if_neg same, indexed.registered]
      grind
  · rw [outbounds]
    exact indexed.single.sublist (filter_sublist.map _)
  · rw [outbounds] at isMember
    exact indexed.fresh holder (mem_others.mp isMember).1
  · have undecided : (if manager.defaultOutbound = some (.outbound outbound) then
      (manager.outbounds.erase outbound).head?.map .outbound else manager.defaultOutbound) = none := undecided
    rw [outbounds, ← indexed.erase_eq_others found]
    split at undecided
    case isTrue => simpa using undecided
    case isFalse =>
      rw [indexed.undecided unset undecided]
      rfl

theorem withNew {new : ManagedOutbound} (isNew : new.serial = manager.created) (closed : List ManagedOutbound) :
    (manager.withNew new closed).Indexed := by
  have outbounds : (manager.withNew new closed).outbounds = manager.others new.tag ++ [new] := rfl
  have byTag : (manager.withNew new closed).outboundByTag = manager.outboundByTag.put new.tag new := rfl
  refine ⟨fun other holder => ?_, ?_, fun holder isMember => ?_, fun unset undecided => ?_⟩
  · rw [byTag, Table.lookup_put, mem_outbounds_withNew]
    by_cases same : other = new.tag
    · subst same
      grind
    · rw [if_neg same, indexed.registered]
      grind
  · rw [outbounds, map_append, nodup_append]
    refine ⟨indexed.single.sublist (filter_sublist.map _), by simp, ?_⟩
    rintro _ isTag _ isNew rfl
    obtain ⟨holder, isOther, rfl⟩ := mem_map.mp isTag
    exact (mem_others.mp isOther).2 (mem_singleton.mp isNew)
  · rcases mem_outbounds_withNew.mp isMember with ⟨wasMember, _⟩ | rfl
    · exact Nat.lt_succ_of_lt (indexed.fresh holder wasMember)
    · exact isNew ▸ Nat.lt_succ_self _
  · have undecided : (if new.tag = manager.defaultTag ∨ (manager.defaultTag = "" ∧ manager.defaultOutbound = none) then
      some (.outbound new) else manager.defaultOutbound) = none := undecided
    split at undecided
    case isTrue => cases undecided
    case isFalse decided => exact absurd (.inr ⟨unset, undecided⟩) decided

/-- Where the default outbound is still undecided there is no outbound yet, and the fallback is the only one. -/
theorem useFallback_eq (unset : manager.defaultTag = "") (undecided : manager.defaultOutbound = none) :
    manager.useFallback = manager.withNew (directOutbound manager.created) manager.closed := by
  have empty := indexed.undecided unset undecided
  simp [useFallback, OutboundManager.withNew, register, others, directOutbound, unset, undecided, empty]

theorem perform : ∀ operation : Operation, (manager.perform operation).1.Indexed
  | .create tag type calls => by
    have creates := creates indexed tag type calls
    rw [OutboundManager.perform]
    generalize manager.Create tag type calls = result at creates
    cases creates with
    | refused created _ grows => exact indexed.of_same rfl rfl grows (.inl ⟨rfl, rfl⟩)
    | unclosed => exact indexed.of_same rfl rfl (Nat.le_succ _) (.inl ⟨rfl, rfl⟩)
    | added new made | replaced new made => exact indexed.withNew made.serial _
  | .remove tag closes => by
    rw [OutboundManager.perform]
    rcases Remove_cases indexed tag closes with
      ⟨_, fails⟩ | ⟨outbound, found, ⟨_, fails⟩ | ⟨_, result, _, removes⟩⟩
    · rw [fails]
      exact indexed
    · rw [fails]
      exact indexed.unregister found
    · rw [removes]
      have unregistered := indexed.unregister found
      exact unregistered.of_same rfl rfl (Nat.le_refl _) (.inl ⟨rfl, rfl⟩)
  | .start stage calls => by
    rw [OutboundManager.perform]
    obtain ⟨_, started, reached, same | endpoint | ⟨unset, undecided, fallback⟩⟩ := Start_cases manager stage calls
    · rw [same]
      exact indexed.of_same rfl rfl (Nat.le_refl _) (.inl ⟨rfl, rfl⟩)
    · rw [endpoint]
      exact indexed.of_same rfl rfl (Nat.le_refl _) (.inr ⟨_, rfl⟩)
    · have going : ({ manager with started, stage := reached } : OutboundManager).Indexed :=
        indexed.of_same rfl rfl (Nat.le_refl _) (.inl ⟨rfl, rfl⟩)
      rw [fallback, going.useFallback_eq unset undecided]
      exact going.withNew rfl _

end Indexed

end OutboundManager

end SingBox
