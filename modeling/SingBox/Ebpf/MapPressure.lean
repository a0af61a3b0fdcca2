import Mathlib.Algebra.Order.Ring.Rat
import Mathlib.Data.List.ReduceOption
import Mathlib.Tactic.NormNum

/-! # Map pressure

`common/ebpf/maintenance_pressure.go` turns fill levels into a decision with hysteresis, and
`observeMapPressure` of `protocol/ebpf/map_maintenance.go` feeds one tracker with the levels of
three tables in turn.
-/

namespace SingBox

/-- How `float64` rounds: in order, and not two fifths and a half to one number. -/
structure Rounding where
  round : ℚ → ℚ
  mono : Monotone round
  apart : round (2 / 5) < round (1 / 2)

def MapPressureEnterRatio : ℚ := 7 / 10

def MapPressureExitRatio : ℚ := 1 / 2

structure MapUsage where
  entries : UInt32
  capacity : UInt32

def MapUsage.filled (usage : MapUsage) : ℚ := usage.entries.toNat / usage.capacity.toNat

structure MapPressureTracker where
  pressured : Bool := false

variable (float : Rounding)

def MapPressureTracker.Observe (tracker : MapPressureTracker) (usage : MapUsage) : MapPressureTracker × Bool :=
  if usage.capacity = 0 then (tracker, false)
  else
    let ratio := float.round usage.filled
    let tracker : MapPressureTracker :=
      if !tracker.pressured && float.round MapPressureEnterRatio ≤ ratio then ⟨true⟩
      else if tracker.pressured && ratio < float.round MapPressureExitRatio then ⟨false⟩
      else tracker
    (tracker, tracker.pressured)

/-- What a tick reads: the usages of the tables that have a backend, of the assignments only if
that does not fail. -/
structure MapUsages where
  udpRecovery : Option MapUsage
  assignments : Option MapUsage
  knownFlows : Option MapUsage

def observeMapPressure (usages : MapUsages) (tracker : MapPressureTracker) : MapPressureTracker × Bool :=
  let tracker := [usages.udpRecovery, usages.assignments, usages.knownFlows].reduceOption.foldl
    (fun tracker usage => (tracker.Observe float usage).1) tracker
  (tracker, tracker.pressured)

/-! ## Ticks -/

structure SizedUsage extends MapUsage where
  positive : 0 < capacity

variable (table : SizedUsage)

def SizedUsage.Enters : Prop := float.round MapPressureEnterRatio ≤ float.round table.filled

def SizedUsage.Leaves : Prop := float.round table.filled < float.round MapPressureExitRatio

theorem SizedUsage.observe_pressured (tracker : MapPressureTracker) :
    (tracker.Observe float table.toMapUsage).1.pressured ↔
      table.Enters float ∨ tracker.pressured ∧ ¬table.Leaves float := by
  have sized : table.capacity ≠ 0 := (UInt32.ne_of_lt table.positive).symm
  have stays : table.Enters float → ¬table.Leaves float := by
    intro enters leaves
    have ordered : float.round MapPressureExitRatio ≤ float.round MapPressureEnterRatio :=
      float.mono (by norm_num [MapPressureExitRatio, MapPressureEnterRatio])
    exact absurd (leaves.trans_le (ordered.trans enters)) (lt_irrefl _)
  rw [MapPressureTracker.Observe, if_neg sized]
  unfold SizedUsage.Enters SizedUsage.Leaves at *
  obtain ⟨_ | _⟩ := tracker
  · simp [apply_ite MapPressureTracker.pressured]
  · by_cases leaves : float.round table.filled < float.round MapPressureExitRatio
    · simpa [leaves] using fun enters => stays enters leaves
    · simp [leaves]

/-- A tick at which all three tables are there. -/
structure Levels where
  udpRecovery : SizedUsage
  assignments : SizedUsage
  knownFlows : SizedUsage

namespace Levels

variable (earlier : List Levels) (now : Levels)

def tables : List SizedUsage := [now.udpRecovery, now.assignments, now.knownFlows]

def usages : MapUsages where
  udpRecovery := some now.udpRecovery.toMapUsage
  assignments := some now.assignments.toMapUsage
  knownFlows := some now.knownFlows.toMapUsage

/-- The tracker after ticks, from the first on. -/
def tracker : MapPressureTracker :=
  earlier.foldl (fun tracker levels => (observeMapPressure float levels.usages tracker).1) {}

/-- A table raises the pressure, and none after it clears it. -/
def Raises : Prop :=
  now.knownFlows.Enters float ∨ ¬now.knownFlows.Leaves float ∧
    (now.assignments.Enters float ∨ ¬now.assignments.Leaves float ∧ now.udpRecovery.Enters float)

def Notices (pressured : Bool) : Prop :=
  ((∃ table ∈ now.tables, 3 / 4 ≤ table.filled) → pressured) ∧
    ((∀ table ∈ now.tables, table.filled < 2 / 5) → pressured = false)

/-- Whatever the earlier ticks were, a tick goes right exactly if no table clears what a full
one raised. -/
theorem observeMapPressure_notices_iff :
    now.Notices (observeMapPressure float now.usages (tracker float earlier)).2 ↔
      ((∃ table ∈ now.tables, 3 / 4 ≤ table.filled) → now.Raises float) := by
  have pressured_iff : (observeMapPressure float now.usages (tracker float earlier)).2 ↔
      now.knownFlows.Enters float ∨ (now.assignments.Enters float ∨
        (now.udpRecovery.Enters float ∨ (tracker float earlier).pressured ∧ ¬now.udpRecovery.Leaves float) ∧
          ¬now.assignments.Leaves float) ∧ ¬now.knownFlows.Leaves float := by
    simp [observeMapPressure, usages, SizedUsage.observe_pressured]
  rw [Notices, and_iff_left]
  · refine forall_congr' fun full => ?_
    obtain ⟨table, isTable, full⟩ := full
    have enters : table.Enters float := float.mono (le_trans (by norm_num [MapPressureEnterRatio]) full)
    simp only [tables, List.mem_cons, List.not_mem_nil, or_false] at isTable
    rw [pressured_iff, Raises]
    rcases isTable with rfl | rfl | rfl <;> simp [enters, and_comm]
  · intro low
    have clears : ∀ table ∈ now.tables, ¬table.Enters float ∧ table.Leaves float := by
      intro table isTable
      have below := (float.mono (low table isTable).le).trans_lt float.apart
      refine ⟨fun enters => ?_, below⟩
      exact absurd (enters.trans_lt below) (float.mono (by norm_num [MapPressureEnterRatio])).not_gt
    simp only [tables, List.forall_mem_cons] at clears
    rw [← Bool.not_eq_true, pressured_iff]
    simp [clears]

/-- The recovery table is full, the others are empty. -/
def fullRecovery : Levels := ⟨⟨⟨4, 4⟩, by decide⟩, ⟨⟨0, 4⟩, by decide⟩, ⟨⟨0, 4⟩, by decide⟩⟩

theorem fullRecovery_unnoticed :
    let exact : Rounding := ⟨id, monotone_id, by norm_num⟩
    ¬fullRecovery.Notices (observeMapPressure exact fullRecovery.usages (tracker exact [])).2 := by
  intro exact notices
  have raised := notices.1 ⟨_, List.mem_cons_self, by decide +kernel⟩
  revert raised
  decide +kernel

end Levels

end SingBox
