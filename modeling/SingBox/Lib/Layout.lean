import SingBox.Lib.Codec

/-! # Arrays in memory

How values lie in memory, one after the other and padded to words of eight bytes. An array
that is copied out as bytes and looked at again with the same layout has the same values.
-/

open List

namespace Lib.Layout

open Lib.Bytes Lib.Codec

/-! ## Byte order -/

inductive ByteOrder where
  | little
  | big
deriving DecidableEq, Repr

namespace ByteOrder

variable (order : ByteOrder) (width value : Nat)

def put : Bytes :=
  match order with
  | .little => (toBigEndian width value).reverse
  | .big => toBigEndian width value

def get (bytes : Bytes) : Nat :=
  match order with
  | .little => ofBigEndian bytes.reverse
  | .big => ofBigEndian bytes

@[simp] theorem length_put : (order.put width value).length = width := by
  cases order <;> simp [put]

theorem get_put {width value : Nat} (bound : value < 256 ^ width) : order.get (order.put width value) = value := by
  cases order <;> simp [get, put, ofBigEndian_toBigEndian width value bound]

end ByteOrder

/-! ## Cells -/

/-- How one value of a type lies in memory. -/
structure Cell (α : Type) where
  size : Nat
  size_pos : 0 < size
  put : α → Bytes
  get : Bytes → α
  length_put : ∀ value, (put value).length = size
  get_put : ∀ value, get (put value) = value

namespace Cell

variable {α β : Type}

/-- A number of a fixed width. -/
def number (order : ByteOrder) (width : Nat) (positive : 0 < width) (toNat : α → Nat) (ofNat : Nat → α)
    (bound : ∀ value, toNat value < 256 ^ width) (inverse : ∀ value, ofNat (toNat value) = value) : Cell α where
  size := width
  size_pos := positive
  put := fun value => order.put width (toNat value)
  get := fun bytes => ofNat (order.get bytes)
  length_put := by simp
  get_put := by
    intro value
    rw [order.get_put (bound value), inverse]

/-- Two fields. -/
def pair (first second : Cell α) (join : α → α → β) (left right : β → α)
    (inverse : ∀ value, join (left value) (right value) = value) : Cell β where
  size := first.size + second.size
  size_pos := Nat.add_pos_left first.size_pos _
  put := fun value => first.put (left value) ++ second.put (right value)
  get := fun bytes => join (first.get (bytes.take first.size)) (second.get (bytes.drop first.size))
  length_put := by simp [first.length_put, second.length_put]
  get_put := by
    intro value
    rw [List.take_left' (first.length_put _), List.drop_left' (first.length_put _), first.get_put, second.get_put, inverse]

end Cell

/-! ## Arrays -/

variable (offset : Nat)

/-- The next multiple of eight. -/
def align : Nat := (offset + 7) / 8 * 8

theorem le_align : offset ≤ align offset := by
  unfold align
  omega

theorem dvd_align : 8 ∣ align offset := ⟨(offset + 7) / 8, Nat.mul_comm _ _⟩

theorem align_of_dvd {offset : Nat} (aligned : 8 ∣ offset) : align offset = offset := by
  obtain ⟨words, rfl⟩ := aligned
  unfold align
  omega

def zeros (count : Nat) : Bytes := List.replicate count 0

@[simp] theorem length_zeros (count : Nat) : (zeros count).length = count := length_replicate

section Array

variable {α : Type} (cell : Cell α)

def putArray (values : List α) : Bytes :=
  let bytes := values.flatMap cell.put
  bytes ++ zeros (align bytes.length - bytes.length)

def cells : Nat → Bytes → List α
  | 0, _ => []
  | count + 1, bytes => cell.get (bytes.take cell.size) :: cells count (bytes.drop cell.size)

/-- The array at the front and what follows it; `none` when it does not fit. -/
def getArray (data : Bytes) (count : Nat) : Option (List α × Bytes) :=
  if count > data.length / cell.size then none
  else
    let length := align (count * cell.size)
    if length > data.length then none else some (cells cell count data, data.drop length)

variable (values : List α)

theorem length_flatMap_put : (values.flatMap cell.put).length = values.length * cell.size := by
  induction values with
  | nil => simp
  | cons value values ih =>
    rw [flatMap_cons, length_append, ih, cell.length_put, length_cons]
    ring

theorem length_putArray : (putArray cell values).length = align (values.length * cell.size) := by
  have le := le_align (values.length * cell.size)
  rw [putArray, length_append, length_zeros, length_flatMap_put]
  omega

theorem cells_put (rest : Bytes) : cells cell values.length (values.flatMap cell.put ++ rest) = values := by
  induction values with
  | nil => rfl
  | cons value values ih =>
    rw [flatMap_cons, append_assoc, length_cons, cells, take_left' (cell.length_put value),
      drop_left' (cell.length_put value), cell.get_put, ih]

theorem getArray_putArray (rest : Bytes) :
    getArray cell (putArray cell values ++ rest) values.length = some (values, rest) := by
  have length := length_putArray cell values
  have le := le_align (values.length * cell.size)
  have enough : values.length ≤ (putArray cell values ++ rest).length / cell.size := by
    rw [Nat.le_div_iff_mul_le cell.size_pos, length_append, length]
    omega
  unfold getArray
  rw [if_neg (Nat.not_lt.mpr enough)]
  rw [if_neg (by rw [length_append, length]; omega), drop_left' length, putArray, append_assoc, cells_put]

end Array

end Lib.Layout
