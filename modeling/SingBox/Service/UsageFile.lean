import SingBox.Lib.Machine

/-! # The usage file

`service/ccm/service_usage.go` saves the usage in goroutines and timers that every call of
`AddUsageWithCycleHint` may start. All saves write one temporary file, each a snapshot of its own.
-/

namespace SingBox.UsageFile

open Lib.Machine

/-- Where a call of `Save` is once it has taken its snapshot. -/
inductive Save (Totals : Type) where
  | writes (data : Totals)
  | renames
  /-- It is to set `lastSaveTime`. -/
  | stamps
  | removes

structure AggregatedUsage (Totals : Type) where
  totals : Totals
  file : Option Totals := none
  tmpFile : Option Totals := none
  now : Nat := 0
  lastSaveTime : Option Nat := none
  /-- When `saveTimer` fires; it is set as long as `pendingSave` is. -/
  saveTimer : Option Nat := none
  /-- Goroutines before `scheduleSave`, and before the snapshot of `Save`. -/
  schedules : Nat := 0
  begins : Nat := 0
  saves : List (Save Totals) := []
  /-- Whether usage has been recorded. -/
  recorded : Bool := false

inductive Step (Call : Type) where
  | addUsage (call : Call)
  | scheduleSave
  | fire
  | snapshot
  /-- The next step of the save. -/
  | save (index : Nat)
  | passes (time : Nat)

/-- A minute, in nanoseconds. -/
def saveInterval : Nat := 60000000000

variable {Totals Call : Type} (record : Call → Totals → Option Totals)

/-- A call that is refused records nothing. -/
def step (usage : AggregatedUsage Totals) : Step Call → Option (AggregatedUsage Totals)
  | .addUsage call => match record call usage.totals with
    | none => some usage
    | some totals => some { usage with totals, recorded := true, schedules := usage.schedules + 1 }
  | .scheduleSave =>
    if usage.schedules = 0 then none
    else
      let usage := { usage with schedules := usage.schedules - 1 }
      match usage.lastSaveTime with
      | some last =>
        if saveInterval ≤ usage.now - last then some { usage with begins := usage.begins + 1 }
        else if usage.saveTimer.isSome then some usage
        else some { usage with saveTimer := some (last + saveInterval) }
      | none => some { usage with begins := usage.begins + 1 }
  | .fire => match usage.saveTimer with
    | some due => if due ≤ usage.now then some { usage with saveTimer := none, begins := usage.begins + 1 } else none
    | none => none
  | .snapshot =>
    if usage.begins = 0 then none
    else some { usage with begins := usage.begins - 1, saves := usage.saves ++ [.writes usage.totals] }
  | .save index => match usage.saves[index]? with
    | some (.writes data) => some { usage with tmpFile := some data, saves := usage.saves.set index .renames }
    | some .renames => match usage.tmpFile with
      | some data => some { usage with file := some data, tmpFile := none, saves := usage.saves.set index .stamps }
      | none => some { usage with saves := usage.saves.set index .removes }
    | some .stamps => some { usage with lastSaveTime := some usage.now, saves := usage.saves.set index .removes }
    | some .removes => some { usage with tmpFile := none, saves := usage.saves.eraseIdx index }
    | none => none
  | .passes time => some { usage with now := usage.now + time }

/-- No save is running or scheduled. -/
def Quiet (usage : AggregatedUsage Totals) : Prop :=
  usage.schedules = 0 ∧ usage.saveTimer = none ∧ usage.begins = 0 ∧ usage.saves = []

def Saved (usage : AggregatedUsage Totals) : Prop :=
  Quiet usage → usage.recorded → usage.file = some usage.totals

/-- A save begins only when no other is on its way. -/
def Alone (usage : AggregatedUsage Totals) : Step Call → Prop
  | .snapshot => usage.saves = []
  | _ => True

/-- The last save that is on its way brings the totals, or another save comes after it. -/
structure Tends (usage : AggregatedUsage Totals) : Prop where
  single : usage.saves.length ≤ 1
  written : .renames ∈ usage.saves → usage.tmpFile ≠ none
  tends : usage.recorded → usage.schedules = 0 → usage.saveTimer = none → usage.begins = 0 →
    match usage.saves with
    | [.writes data] => data = usage.totals
    | [.renames] => usage.tmpFile = some usage.totals
    | _ => usage.file = some usage.totals

variable {record} {usage next : AggregatedUsage Totals} {label : Step Call}

theorem Tends.step (tends : Tends usage) (taken : step record usage label = some next) (alone : Alone usage label) :
    Tends next := by
  obtain ⟨single, written, tends⟩ := tends
  cases label with
  | addUsage call | scheduleSave | fire | passes time =>
    simp only [UsageFile.step] at taken
    repeat' split at taken
    all_goals cases taken
    all_goals constructor <;> grind
  | snapshot =>
    simp only [UsageFile.step, Alone] at taken alone
    split at taken <;> cases taken
    constructor <;> simp [alone]
  | save index =>
    simp only [UsageFile.step] at taken
    -- the save is the only one
    match saves : usage.saves, index with
    | [], _ => simp [saves] at taken
    | [phase], 0 =>
      simp only [saves, List.getElem?_cons_zero] at taken
      repeat' split at taken
      all_goals cases taken
      all_goals constructor <;> grind
    | [phase], index + 1 => simp [saves] at taken
    | _ :: _ :: _, _ => simp [saves] at single

theorem saved_of_alone (totals : Totals) (file : Option Totals) (labels : List (Step Call))
    (alone : EveryStep (UsageFile.step record) Alone { totals, file } labels) :
    EveryState (UsageFile.step record) Saved { totals, file } labels := by
  refine everyState_of_everyStep (fun usage tends quiet recorded => ?_) (fun _ _ _ tends => tends.step)
    (⟨by simp, by simp, by simp⟩ : Tends _) alone
  obtain ⟨schedules, saveTimer, begins, saves⟩ := quiet
  simpa [saves] using tends.tends recorded schedules saveTimer begins

def countsUp (call totals : Nat) : Option Nat := some (totals + call)

/-- Two saves in turn; the second call comes too soon after the first save, and a timer starts its save. -/
def inTurn : List (Step Nat) :=
  [.addUsage 5, .scheduleSave, .snapshot, .save 0, .save 0, .save 0, .save 0, .addUsage 3, .scheduleSave,
    .passes saveInterval, .fire, .snapshot, .save 0, .save 0, .save 0, .save 0]

theorem saved_in_turn : EveryState (UsageFile.step countsUp) Saved { totals := 0 } inTurn ∧
    ∃ final, run (UsageFile.step countsUp) { totals := 0 } inTurn = some final ∧ Quiet final ∧ final.file = some 8 :=
  ⟨saved_of_alone 0 none _ (by simp [inTurn, EveryStep, UsageFile.step, Alone, countsUp, saveInterval]),
    _, rfl, ⟨rfl, rfl, rfl, rfl⟩, rfl⟩

/-- The second save is over before the first one writes its older snapshot. -/
theorem older_snapshot_last : ∃ final,
    run (UsageFile.step countsUp) { totals := 0 } [.addUsage 5, .scheduleSave, .snapshot, .addUsage 3, .scheduleSave,
      .snapshot, .save 1, .save 1, .save 1, .save 1, .save 0, .save 0, .save 0, .save 0] = some final ∧
    Quiet final ∧ final.totals = 8 ∧ final.file = some 5 :=
  ⟨_, rfl, ⟨rfl, rfl, rfl, rfl⟩, rfl, rfl⟩

end SingBox.UsageFile
