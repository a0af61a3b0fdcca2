import Mathlib.Tactic.Ring
import SingBox.Lib.Bytes

/-! # Binary readers

A reader takes bytes from the front of its input. `Reads reader bytes value` says that the
reader turns `bytes` into `value` and leaves whatever follows them untouched; it is closed
under sequencing, counted repetition and loops that end at a marker, so that a round trip is
proved along the structure of the writer.
-/

open List UInt8

namespace Lib.Codec

open Lib.Bytes

universe v

abbrev Bytes := List UInt8

inductive ReadError where
  | eof
  | unexpectedEOF
  | overflow
  | invalid (message : String)
  | cause (message : String) (err : ReadError)
  /-- An index or a slice beyond the end of the data: the program does not return, it panics. -/
  | outOfRange
deriving DecidableEq, Repr

/-- A panic is no error value; on its way out of the readers it only collects their messages. -/
def ReadError.panics : ReadError → Bool
  | .outOfRange => true
  | .cause _ err => err.panics
  | _ => false

abbrev Reader (α : Type) := StateT Bytes (Except ReadError) α

/-- The reader turns the bytes into the value, whatever follows them. -/
def Reads {α : Type} (reader : Reader α) (bytes : Bytes) (value : α) : Prop :=
  ∀ rest, reader.run (bytes ++ rest) = .ok (value, rest)

namespace Reads

variable {α β : Type}

theorem pure (value : α) : Reads (Pure.pure value) [] value := fun _ => rfl

variable {reader : Reader α}

theorem bind {next : α → Reader β} {bytes more : Bytes} {value : α} {result : β}
    (reads : Reads reader bytes value) (nextReads : Reads (next value) more result) :
    Reads (reader >>= next) (bytes ++ more) result := by
  intro rest
  rw [StateT.run_bind, append_assoc, reads]
  exact nextReads rest

theorem map {bytes : Bytes} {value : α} (f : α → β) (reads : Reads reader bytes value) :
    Reads (do return f (← reader)) bytes (f value) := by
  have mapped := @bind _ _ reader (fun value => Pure.pure (f value)) _ _ _ _ reads (pure (f value))
  rwa [append_nil] at mapped

end Reads

/-- The reader fails on the bytes, whatever follows them. -/
def Fails {α : Type} (reader : Reader α) (bytes : Bytes) : Prop :=
  ∀ rest, ∃ err, reader.run (bytes ++ rest) = .error err

namespace Fails

variable {α β : Type}

theorem append {reader : Reader α} {bytes : Bytes} (fails : Fails reader bytes) (more : Bytes) :
    Fails reader (bytes ++ more) := by
  intro rest
  rw [append_assoc]
  exact fails (more ++ rest)

theorem bind {reader : Reader α} {bytes : Bytes} (fails : Fails reader bytes) (next : α → Reader β) :
    Fails (reader >>= next) bytes := by
  intro rest
  obtain ⟨err, failed⟩ := fails rest
  refine ⟨err, ?_⟩
  rw [StateT.run_bind, failed]
  rfl

end Fails

/-- The reader takes the bytes for the value when they are acceptable, and fails on them when they are not. -/
structure Answers {α : Type} (reader : Reader α) (bytes : Bytes) (accepted : Prop) (value : α) : Prop where
  reads : accepted → Reads reader bytes value
  fails : ¬accepted → Fails reader bytes

namespace Answers

variable {α β : Type} {reader : Reader α} {next : α → Reader β} {bytes more : Bytes} {accepted : Prop} {value : α}

theorem of_reads (reads : Reads reader bytes value) (holds : accepted) : Answers reader bytes accepted value :=
  ⟨fun _ => reads, fun refused => absurd holds refused⟩

section
variable (answers : Answers reader bytes accepted value)
include answers

theorem bind {alsoAccepted : Prop} {result : β} (nextAnswers : Answers (next value) more alsoAccepted result) :
    Answers (reader >>= next) (bytes ++ more) (accepted ∧ alsoAccepted) result where
  reads both := (answers.reads both.1).bind (nextAnswers.reads both.2)
  fails refused := by
    by_cases holds : accepted
    · intro rest
      obtain ⟨err, failed⟩ := nextAnswers.fails (fun also => refused ⟨holds, also⟩) rest
      refine ⟨err, ?_⟩
      rw [StateT.run_bind, append_assoc, answers.reads holds]
      exact failed
    · exact ((answers.fails holds).bind next).append more

theorem map (f : α → β) :
    Answers (do return f (← reader)) bytes accepted (f value) :=
  ⟨fun holds => (answers.reads holds).map f, fun refused => (answers.fails refused).bind _⟩

theorem adaptError (name : ReadError → ReadError) :
    Answers (fun input => (reader input).mapError name) bytes accepted value where
  reads holds rest := by
    change ((reader.run (bytes ++ rest)).mapError name) = _
    rw [answers.reads holds]
    rfl
  fails refused rest := by
    obtain ⟨err, failed⟩ := answers.fails refused rest
    refine ⟨name err, ?_⟩
    change ((reader.run (bytes ++ rest)).mapError name) = _
    rw [failed]
    rfl

end

end Answers

theorem Reads.bind_answers {α β : Type} {reader : Reader α} {next : α → Reader β} {bytes more : Bytes} {value : α}
    {accepted : Prop} {result : β} (reads : Reads reader bytes value)
    (answers : Answers (next value) more accepted result) :
    Answers (reader >>= next) (bytes ++ more) accepted result := by
  simpa using (Answers.of_reads reads trivial).bind answers

/-! ## Bytes and fixed-width numbers -/

def readByte : Reader UInt8 := fun
  | [] => .error .eof
  | byte :: rest => .ok (byte, rest)

def readFull (count : Nat) : Reader Bytes := fun input =>
  if count ≤ input.length then .ok (input.take count, input.drop count)
  else .error (if input = [] then .eof else .unexpectedEOF)

/-- A big-endian number of a fixed number of bytes. -/
def readBigEndian (width : Nat) : Reader Nat := do
  return ofBigEndian (← readFull width)

theorem reads_byte (byte : UInt8) : Reads readByte [byte] byte := fun _ => rfl

theorem reads_full {count : Nat} {bytes : Bytes} (length : bytes.length = count) :
    Reads (readFull count) bytes bytes := by
  intro rest
  subst length
  simp [readFull, StateT.run]

theorem reads_bigEndian {width value : Nat} (bound : value < 256 ^ width) :
    Reads (readBigEndian width) (toBigEndian width value) value := by
  have reads := (reads_full (toBigEndian_length width value)).map ofBigEndian
  rwa [ofBigEndian_toBigEndian width value bound] at reads

/-! ## Variable-length numbers -/

/-- Base 128, the low digits first, with the high bit set on all but the last byte. -/
def putUvarint : Nat → Nat → Bytes
  | 0, _ => []
  | fuel + 1, value =>
    if value < 128 then [UInt8.ofNat value]
    else UInt8.ofNat (value % 128 + 128) :: putUvarint fuel (value / 128)

/-- A 64-bit number takes at most ten bytes. -/
def maxVarintLen64 : Nat := 10

def uvarint (value : Nat) : Bytes := putUvarint maxVarintLen64 value

/-- `ReadUvarint`: `left` bytes may still follow; `value` are the digits read so far, and
`scale` is the weight of the next one. -/
def readUvarintFrom : Nat → Nat → Nat → Reader Nat
  | 0, _, _ => fun _ => .error .overflow
  | left + 1, value, scale => fun
    | [] => .error (if left + 1 = maxVarintLen64 then .eof else .unexpectedEOF)
    | byte :: rest =>
      if byte.toNat < 128 then
        if left = 0 ∧ byte.toNat > 1 then .error .overflow else .ok (value + byte.toNat * scale, rest)
      else readUvarintFrom left (value + (byte.toNat - 128) * scale) (scale * 128) rest

def readUvarint : Reader Nat := readUvarintFrom maxVarintLen64 0 1

variable (left value scale : Nat)

theorem readUvarintFrom_cons (byte : UInt8) (rest : Bytes) :
    readUvarintFrom (left + 1) value scale (byte :: rest) =
      if byte.toNat < 128 then
        if left = 0 ∧ byte.toNat > 1 then .error .overflow else .ok (value + byte.toNat * scale, rest)
      else readUvarintFrom left (value + (byte.toNat - 128) * scale) (scale * 128) rest := rfl

theorem reads_lastDigit {digit : Nat} (small : digit < 128) (fits : left = 0 → digit < 2) :
    Reads (readUvarintFrom (left + 1) value scale) [UInt8.ofNat digit] (value + digit * scale) := by
  intro rest
  have byte : (ofNat digit).toNat = digit := by rw [toNat_ofNat']; omega
  rw [StateT.run, singleton_append, readUvarintFrom_cons, byte, if_pos small, if_neg (by omega)]

theorem reads_uvarintFrom (left value scale number : Nat) (bound : number < 2 * 128 ^ left) :
    Reads (readUvarintFrom (left + 1) value scale) (putUvarint (left + 1) number) (value + number * scale) := by
  induction left generalizing value scale number with
  | zero =>
    have small : number < 2 := by simpa using bound
    rw [putUvarint, if_pos (by omega)]
    exact reads_lastDigit 0 value scale (by omega) fun _ => small
  | succ left ih =>
    by_cases small : number < 128
    · rw [putUvarint, if_pos small]
      exact reads_lastDigit (left + 1) value scale small (by omega)
    · intro rest
      have byte : (ofNat (number % 128 + 128)).toNat = number % 128 + 128 := by
        rw [toNat_ofNat']; omega
      have quotient : number / 128 < 2 * 128 ^ left := by
        omega
      have digits : value + number % 128 * scale + number / 128 * (scale * 128) = value + number * scale := by
        conv_rhs => rw [← Nat.div_add_mod number 128]
        ring
      have higher := ih (value + number % 128 * scale) (scale * 128) _ quotient rest
      rw [putUvarint, if_neg small, StateT.run, cons_append, readUvarintFrom_cons, byte, if_neg (by omega),
        Nat.add_sub_cancel, ← digits]
      exact higher

theorem reads_uvarint {number : Nat} (bound : number < 2 ^ 64) : Reads readUvarint (uvarint number) number := by
  have reads := reads_uvarintFrom 9 0 1 number (by omega)
  rwa [Nat.zero_add, Nat.mul_one] at reads

/-! ## Repetition -/

section Many

variable {α : Type}

/-- A number of items; each reader knows its position. -/
def readManyFrom (reader : Nat → Reader α) : Nat → Nat → Reader (List α)
  | _, 0 => pure []
  | index, count + 1 => do
    let item ← reader index
    let items ← readManyFrom reader (index + 1) count
    return item :: items

variable {β : Type v} {reader : Nat → Reader α} {encode : β → Bytes} {accepted : β → Prop} {result : β → α}
  {items : List β}

theorem answers_manyFrom
    (answers : ∀ index, ∀ item ∈ items, Answers (reader index) (encode item) (accepted item) (result item)) (index : Nat) :
    Answers (readManyFrom reader index items.length) (items.flatMap encode) (∀ item ∈ items, accepted item)
      (items.map result) := by
  induction items generalizing index with
  | nil => exact .of_reads (.pure []) (by simp)
  | cons item items ih =>
    have rest := ih (fun index item isMember => answers index item (by simp [isMember])) (index + 1)
    rw [forall_mem_cons]
    exact (answers index item (by simp)).bind (rest.map _)

theorem reads_manyFrom (reads : ∀ index, ∀ item ∈ items, Reads (reader index) (encode item) (result item)) (index : Nat) :
    Reads (readManyFrom reader index items.length) (items.flatMap encode) (items.map result) :=
  (answers_manyFrom (fun index item isItem => .of_reads (reads index item isItem) trivial) index).reads fun _ _ => trivial

/-- A count, then the items. -/
def readCounted (reader : Nat → Reader α) : Reader (List α) := do
  let count ← readUvarint
  readManyFrom reader 0 count

def writeCounted {β : Type v} (encode : β → Bytes) (items : List β) : Bytes :=
  uvarint items.length ++ items.flatMap encode

theorem answers_counted (bound : items.length < 2 ^ 64)
    (answers : ∀ index, ∀ item ∈ items, Answers (reader index) (encode item) (accepted item) (result item)) :
    Answers (readCounted reader) (writeCounted encode items) (∀ item ∈ items, accepted item) (items.map result) :=
  (reads_uvarint bound).bind_answers (answers_manyFrom answers 0)

theorem reads_counted {encode : α → Bytes} {items : List α} (bound : items.length < 2 ^ 64)
    (reads : ∀ index, ∀ item ∈ items, Reads (reader index) (encode item) item) :
    Reads (readCounted reader) (writeCounted encode items) items := by
  have answers := answers_counted bound fun index item isItem => Answers.of_reads (reads index item isItem) trivial
  rw [map_id'] at answers
  exact answers.reads fun _ _ => trivial

end Many

/-! ## Loops -/

section Loop

variable {σ α : Type}

/-- Steps until one yields a result. A step that goes on takes a byte, so that the length of
the input bounds their number. -/
def iterate (step : σ → Reader (σ ⊕ α)) : Nat → σ → Reader α
  | 0, _ => fun _ => .error .unexpectedEOF
  | fuel + 1, state => do
    match ← step state with
    | .inl state => iterate step fuel state
    | .inr result => return result

variable (step : σ → Reader (σ ⊕ α))

def loop (state : σ) : Reader α := fun input => iterate step (input.length + 1) state input

/-- The loop's answer to the bytes, with enough fuel for them. -/
def LoopAnswers (state : σ) (bytes : Bytes) (accepted : Prop) (result : α) : Prop :=
  ∀ fuel, bytes.length < fuel → Answers (iterate step fuel state) bytes accepted result

variable {step : σ → Reader (σ ⊕ α)} {state later : σ} {bytes more : Bytes} {accepted : Prop} {result : α}

theorem LoopAnswers.done (reads : Reads (step state) bytes (.inr result)) (holds : accepted) :
    LoopAnswers step state bytes accepted result := by
  intro fuel enough
  obtain ⟨fuel, rfl⟩ := Nat.exists_eq_add_of_lt enough
  refine .of_reads (fun rest => ?_) holds
  rw [iterate, StateT.run_bind, reads]
  rfl

theorem LoopAnswers.next {alsoAccepted : Prop} (answers : Answers (step state) bytes accepted (.inl later))
    (nonempty : bytes ≠ []) (goesOn : LoopAnswers step later more alsoAccepted result) :
    LoopAnswers step state (bytes ++ more) (accepted ∧ alsoAccepted) result := by
  intro fuel enough
  have taken : 0 < bytes.length := length_pos_of_ne_nil nonempty
  rw [length_append] at enough
  obtain ⟨fuel, rfl⟩ : ∃ less, fuel = less + 1 := ⟨fuel - 1, by omega⟩
  exact answers.bind (goesOn fuel (by omega))

theorem LoopAnswers.answers (loops : LoopAnswers step state bytes accepted result) :
    Answers (loop step state) bytes accepted result where
  reads holds rest := (loops _ (by simp only [length_append]; omega)).reads holds rest
  fails refused rest := (loops _ (by simp only [length_append]; omega)).fails refused rest

end Loop

end Lib.Codec
