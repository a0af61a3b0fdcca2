import SingBox.Lib.Codec

/-! # Bounds of indices and slices

`slice` is a slice expression with its bounds check. A reader is `Safe` if it panics on no
input; safety is closed under the ways in which readers are put together, so that it is
proved along the reader's text. `Panics` is its opposite, on given bytes.
-/

namespace Lib.Codec

open Lib.Bytes

variable {α β σ : Type}

/-! ## Slice expressions -/

/-- `data[first:last]`. -/
def slice (data : Bytes) (first last : Nat) : Except ReadError Bytes :=
  if first ≤ last ∧ last ≤ data.length then .ok ((data.drop first).take (last - first)) else .error .outOfRange

/-- `data[first:]`. -/
def sliceFrom (data : Bytes) (first : Nat) : Except ReadError Bytes := slice data first data.length

variable {data : Bytes} {first : Nat}

theorem slice_eq {last : Nat} (ordered : first ≤ last) (inside : last ≤ data.length) :
    slice data first last = .ok ((data.drop first).take (last - first)) := if_pos ⟨ordered, inside⟩

theorem sliceFrom_eq (inside : first ≤ data.length) : sliceFrom data first = .ok (data.drop first) := by
  rw [sliceFrom, slice_eq inside (Nat.le_refl _), List.take_of_length_le (by rw [List.length_drop])]

theorem slice_eq_error {last : Nat} (outside : ¬(first ≤ last ∧ last ≤ data.length)) :
    slice data first last = .error .outOfRange := if_neg outside

/-! ## Readers that do not panic -/

/-- The result is a value or an error, but no panic. -/
def Returns (result : Except ReadError α) : Prop := ∀ err, result = .error err → err.panics = false

namespace Returns

theorem ok (value : α) : Returns (.ok value) := fun _ failed => nomatch failed

theorem error {err : ReadError} (plain : err.panics = false) : Returns (.error err : Except ReadError α) := by
  intro other isOther
  cases isOther
  exact plain

variable {result : Except ReadError α}

theorem bind {next : α → Except ReadError β} (returns : Returns result)
    (nextReturns : ∀ value, result = .ok value → Returns (next value)) : Returns (result >>= next) := by
  cases result with
  | error err => exact error (returns err rfl)
  | ok value => exact nextReturns value rfl

theorem ite {condition : Prop} [Decidable condition] {other : Except ReadError α}
    (returns : condition → Returns result) (otherReturns : ¬condition → Returns other) :
    Returns (if condition then result else other) := by
  split
  next holds => exact returns holds
  next fails => exact otherReturns fails

theorem mapError (returns : Returns result) (message : String) : Returns (result.mapError (.cause message)) := by
  cases result with
  | error err => exact error (returns err rfl)
  | ok value => exact ok value

theorem mapError_invalid (result : Except String α) : Returns (result.mapError .invalid) := by
  cases result with
  | error message => exact error rfl
  | ok value => exact ok value

end Returns

def Safe (reader : Reader α) : Prop := ∀ input, Returns (reader.run input)

variable {next : α → Reader β} {reader : Reader α} {step : σ → Reader (σ ⊕ α)}

namespace Safe

theorem pure (value : α) : Safe (Pure.pure value) := fun _ => .ok _

theorem bind (safe : Safe reader) (nextSafe : ∀ value, Safe (next value)) : Safe (reader >>= next) := by
  intro input
  exact (safe input).bind fun answer _ => nextSafe answer.1 answer.2

theorem lift {result : Except ReadError α} (returns : Returns result) : Safe (liftM result : Reader α) := by
  intro input
  cases result with
  | error err => exact .error (returns err rfl)
  | ok value => exact .ok _

theorem fail {err : ReadError} (plain : err.panics = false) : @Safe α fun _ => .error err :=
  fun _ => .error plain

theorem ite {condition : Prop} [Decidable condition] {other : Reader α} (safe : condition → Safe reader)
    (otherSafe : ¬condition → Safe other) : Safe (if condition then reader else other) := by
  split
  next holds => exact safe holds
  next fails => exact otherSafe fails

theorem readByte : Safe readByte := by
  intro input
  cases input with
  | nil => exact .error rfl
  | cons byte rest => exact .ok _

theorem readFull (count : Nat) : Safe (readFull count) := by
  intro input
  refine .ite (fun _ => .ok _) fun _ => .error ?_
  split <;> rfl

theorem readBigEndian (width : Nat) : Safe (readBigEndian width) := (readFull width).bind fun _ => .pure _

theorem readUvarint : Safe readUvarint := by
  suffices ∀ left value scale, Safe (readUvarintFrom left value scale) from this _ _ _
  intro left
  induction left with
  | zero => exact fun _ _ _ => .error rfl
  | succ left ih =>
    intro value scale input
    cases input with
    | nil =>
      refine .error ?_
      split <;> rfl
    | cons byte rest =>
      refine .ite (fun _ => ?_) fun _ => ih _ _ rest
      exact .ite (fun _ => .error rfl) fun _ => .ok _

theorem readManyFrom {reader : Nat → Reader α} (safe : ∀ index, Safe (reader index)) (index count : Nat) :
    Safe (readManyFrom reader index count) := by
  induction count generalizing index with
  | zero => exact .pure []
  | succ count ih =>
    exact (safe index).bind fun item => (ih (index + 1)).bind fun items => .pure _

theorem readCounted {reader : Nat → Reader α} (safe : ∀ index, Safe (reader index)) : Safe (readCounted reader) :=
  readUvarint.bind fun count => readManyFrom safe 0 count

theorem loop (safe : ∀ state, Safe (step state)) (state : σ) : Safe (loop step state) := by
  suffices ∀ fuel state, Safe (iterate step fuel state) from fun input => this _ _ input
  intro fuel
  induction fuel with
  | zero => exact fun _ _ => .error rfl
  | succ fuel ih =>
    intro state
    refine (safe state).bind fun outcome => ?_
    cases outcome with
    | inl next => exact ih next
    | inr result => exact .pure result

end Safe

/-! ## Readers that panic -/

/-- The reader panics on the bytes, whatever follows them. -/
def Panics (reader : Reader α) (bytes : Bytes) : Prop :=
  ∀ rest, ∃ err, reader.run (bytes ++ rest) = .error err ∧ err.panics

namespace Panics

variable {bytes : Bytes}

theorem bind (panics : Panics reader bytes) (next : α → Reader β) :
    Panics (reader >>= next) bytes := by
  intro rest
  obtain ⟨err, failed, isPanic⟩ := panics rest
  refine ⟨err, ?_, isPanic⟩
  rw [StateT.run_bind, failed]
  rfl

theorem mapError (panics : Panics reader bytes) (message : String) :
    Panics (fun input => (reader input).mapError (.cause message)) bytes := by
  intro rest
  obtain ⟨err, failed, isPanic⟩ := panics rest
  refine ⟨.cause message err, ?_, isPanic⟩
  change ((reader.run (bytes ++ rest)).mapError _) = _
  rw [failed]
  rfl

theorem loop {state : σ} (panics : Panics (step state) bytes) :
    Panics (loop step state) bytes := fun rest => panics.bind _ rest

theorem readManyFrom {reader : Nat → Reader α} {index : Nat} (panics : Panics (reader index) bytes) :
    Panics (readManyFrom reader index 1) bytes := panics.bind _

end Panics

theorem Reads.bind_panics {bytes more : Bytes} {value : α}
    (reads : Reads reader bytes value) (panics : Panics (next value) more) :
    Panics (reader >>= next) (bytes ++ more) := by
  intro rest
  obtain ⟨err, failed, isPanic⟩ := panics rest
  refine ⟨err, ?_, isPanic⟩
  rw [StateT.run_bind, List.append_assoc, reads]
  exact failed

end Lib.Codec
