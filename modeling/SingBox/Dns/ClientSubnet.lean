import SingBox.Common.Netip

/-! # The client subnet of a DNS message

`dns/extension_edns0_subnet.go`. `OPT` records are changed through pointers, so they live in a
heap and a message refers to them; the other additional records are never changed.
-/

open List Option Function

namespace SingBox.Edns

/-- `dns.EDNS0_SUBNET`. -/
structure Subnet where
  family : UInt16 := 0
  sourceNetmask : UInt8 := 0
  sourceScope : UInt8 := 0
  address : List UInt8 := []
deriving DecidableEq

/-- An option, by its type; only a client subnet has the code of one. -/
inductive EDNS0 where
  | subnet (option : Subnet)
  | other (code : UInt16) (data : List UInt8) (isOther : code ≠ 8)
deriving DecidableEq

def EDNS0.isSubnet : EDNS0 → Bool
  | .subnet _ => true
  | .other .. => false

/-- `Option()`. -/
def EDNS0.code : EDNS0 → UInt16
  | .subnet _ => 8
  | .other code _ _ => code

variable (option : Subnet)

@[simp] theorem EDNS0.isSubnet_subnet : (EDNS0.subnet option).isSubnet := rfl

@[simp] theorem EDNS0.isSubnet_other (code : UInt16) (data : List UInt8) (isOther : code ≠ 8) :
    (EDNS0.other code data isOther).isSubnet = false := rfl

@[simp] theorem EDNS0.code_eq (option : EDNS0) : option.code = 8 ↔ option.isSubnet := by
  cases option with
  | subnet option => simp [code]
  | other code data isOther => simp [EDNS0.code, isOther]

structure OPT where
  udpSize : UInt16 := 0
  ttl : UInt32 := 0
  options : List EDNS0 := []
deriving DecidableEq

abbrev Heap := List OPT

structure Message (R M : Type) where
  /-- The additional records: pointers to `OPT` records, and other records. -/
  extra : List (Nat ⊕ R)
  /-- Header, question, answers and authorities. -/
  rest : M

variable {α β R M : Type}

/-! ## The functions -/

/-- `message.Copy`, for the additional records. -/
def copyRecords (heap : Heap) : List (Nat ⊕ R) → List (Nat ⊕ R) × Heap
  | [] => ([], heap)
  | .inr record :: records => (copyRecords heap records).map (.inr record :: ·) id
  | .inl pointer :: records =>
    (copyRecords (heap ++ [heap[pointer]?.getD {}]) records).map (.inl heap.length :: ·) id

/-- The loop over the options of a record: the variable it leaves, and whether it was left early. -/
def findOption : List EDNS0 → Nat → Option Nat → Option Nat × Bool
  | [], _, subnetOption => (subnetOption, false)
  | .subnet _ :: _, position, _ => (some position, true)
  | .other .. :: options, position, _ => findOption options (position + 1) none

/-- The loop `findExists`, with its two variables; a record of another type sets the first to nil. -/
def findExists (heap : Heap) : List (Nat ⊕ R) → Option Nat → Option Nat → Option Nat × Option Nat
  | [], optRecord, subnetOption => (optRecord, subnetOption)
  | .inr _ :: records, _, subnetOption => findExists heap records none subnetOption
  | .inl pointer :: records, _, subnetOption =>
    match findOption (heap[pointer]?.getD {}).options 0 subnetOption with
    | (subnetOption, true) => (some pointer, subnetOption)
    | (subnetOption, false) => findExists heap records (some pointer) subnetOption

/-- The assignments to the option. -/
def Subnet.assign (clientSubnet : Prefix) : Subnet :=
  { option with
    family := if clientSubnet.addr.any Addr.is4 then 1 else 2
    sourceNetmask := UInt8.ofNat (clientSubnet.bits.getD 255)
    address := (clientSubnet.addr.map Addr.asSlice).getD [] }

def EDNS0.assign (clientSubnet : Prefix) : EDNS0 → EDNS0
  | .subnet option => .subnet (option.assign clientSubnet)
  | .other code data isOther => .other code data isOther

def OPT.assign (record : OPT) (clientSubnet : Prefix) : Option Nat → OPT
  | none => { record with options := record.options ++ [.subnet (({} : Subnet).assign clientSubnet)] }
  | some position => { record with options := record.options.modify position (EDNS0.assign clientSubnet) }

def setClientSubnet (heap : Heap) (message : Message R M) (clientSubnet : Prefix) (clone : Bool) : Message R M × Heap :=
  match findExists heap message.extra none none with
  | (none, subnetOption) =>
    ({ message with extra := message.extra ++ [.inl heap.length] }, heap ++ [({} : OPT).assign clientSubnet subnetOption])
  | (some pointer, subnetOption) =>
    if clone then
      setClientSubnet (copyRecords heap message.extra).2 { message with extra := (copyRecords heap message.extra).1 }
        clientSubnet false
    else (message, heap.modify pointer (·.assign clientSubnet subnetOption))
termination_by clone.toNat
decreasing_by simp_all

variable (heap : Heap) (message : Message R M)

def SetClientSubnet (clientSubnet : Prefix) : Message R M × Heap :=
  setClientSubnet heap message clientSubnet true

/-- The additional records that a message stands for. -/
def Message.read (heap : Heap) : List (OPT ⊕ R) :=
  message.extra.map (Sum.map (fun pointer => heap[pointer]?.getD {}) id)

/-- The options of the `OPT` records, in order. -/
def options (records : List (OPT ⊕ R)) : List EDNS0 := (records.filterMap Sum.getLeft?).flatMap OPT.options

/-- The loops return at the first client subnet. -/
def clientSubnetFromMessage : Prefix :=
  match (options (message.read heap)).filter (·.isSubnet) with
  | .subnet option :: _ =>
    match Addr.ofSlice option.address with
    | none => ⟨none, none⟩
    | some address => .ofAddr (some address.unmap) option.sourceNetmask.toNat
  | _ => ⟨none, none⟩

def OPT.removeSubnet (record : OPT) : OPT := { record with options := record.options.filter (·.code ≠ 8) }

/-- The body of the loop of `removeClientSubnet`. -/
def removeFrom : Nat ⊕ R → Heap
  | .inl pointer => heap.modify pointer OPT.removeSubnet
  | .inr _ => heap

def removeClientSubnet : Message R M × Heap :=
  if (options (message.read heap)).any (·.code = 8) then
    let (extra, heap) := copyRecords heap message.extra
    ({ message with extra }, extra.foldl removeFrom heap)
  else (message, heap)

/-! ## The additional section -/

/-- Other records, with an `OPT` record among them. -/
def amid (before : List R) (opt : α) (after : List R) : List (α ⊕ R) := before.map .inr ++ .inl opt :: after.map .inr

theorem lefts_map (others : List R) : (others.map .inr).filterMap (Sum.getLeft? : α ⊕ R → Option α) = [] := by
  induction others <;> simp_all

@[simp] theorem lefts_amid (before after : List R) (opt : α) :
    (amid before opt after).filterMap Sum.getLeft? = [opt] := by
  rw [amid, filterMap_append, lefts_map]
  exact congrArg (opt :: ·) (lefts_map after)

@[simp] theorem map_amid (f : α → β) (before after : List R) (opt : α) :
    (amid before opt after).map (Sum.map f id) = amid before (f opt) after := by
  simp [amid, comp_def]

theorem eq_map_or_amid (records : List (α ⊕ R)) (single : (records.filterMap Sum.getLeft?).length ≤ 1) :
    (∃ others : List R, records = others.map .inr) ∨ ∃ before opt after, records = amid before opt after := by
  induction records with
  | nil => exact .inl ⟨[], rfl⟩
  | cons record records ih =>
    cases record with
    | inr record =>
      rcases ih single with ⟨others, rfl⟩ | ⟨before, opt, after, rfl⟩
      · exact .inl ⟨record :: others, rfl⟩
      · exact .inr ⟨record :: before, opt, after, rfl⟩
    | inl opt =>
      have none : (records.filterMap Sum.getLeft?).length ≤ 0 := Nat.le_of_succ_le_succ single
      rcases ih (Nat.le_succ_of_le none) with ⟨others, rfl⟩ | ⟨before, other, after, rfl⟩
      · exact .inr ⟨[], opt, others, rfl⟩
      · simp at none

section Loops

variable (heap : Heap) (before after : List R) (pointer : Nat) (records : List (Nat ⊕ R))

variable (optRecord subnetOption : Option Nat)

theorem findExists_append :
    findExists heap (before.map .inr ++ records) optRecord subnetOption =
      findExists heap records (if before = [] then optRecord else none) subnetOption := by
  induction before generalizing optRecord with
  | nil => rfl
  | cons record before ih => simp [findExists, ih]

theorem findExists_map :
    findExists heap (before.map .inr) optRecord subnetOption =
      (if before = [] then optRecord else none, subnetOption) := by
  simpa [findExists] using findExists_append heap before [] optRecord subnetOption

theorem findOption_eq (options : List EDNS0) (position : Nat) :
    findOption options position none =
      ((options.findIdx? (·.isSubnet)).map (position + ·), (options.findIdx? (·.isSubnet)).isSome) := by
  induction options generalizing position with
  | nil => rfl
  | cons option options ih =>
    cases option with
    | subnet option => simp [findOption, findIdx?_cons]
    | other code data isOther =>
      simp [findOption, findIdx?_cons, ih, comp_def, Nat.add_comm, Nat.add_left_comm]

/-- The record is found, unless it has no subnet and another record follows. -/
theorem findExists_amid : findExists heap (amid before pointer after) none none =
    match (heap[pointer]?.getD {}).options.findIdx? (·.isSubnet) with
    | some position => (some pointer, some position)
    | none => (if after = [] then some pointer else none, none) := by
  rw [amid, findExists_append, findExists, findOption_eq]
  cases (heap[pointer]?.getD {}).options.findIdx? (·.isSubnet) <;> simp [findExists_map]

theorem copyRecords_append :
    copyRecords heap (before.map .inr ++ records) = (copyRecords heap records).map (before.map .inr ++ ·) id := by
  induction before with
  | nil => rfl
  | cons record before ih =>
    simp only [map_cons, cons_append, copyRecords, ih]
    rfl

theorem copyRecords_amid : copyRecords heap (amid before pointer after) =
    (amid before heap.length after, heap ++ [heap[pointer]?.getD {}]) := by
  have rest := copyRecords_append (heap ++ [heap[pointer]?.getD {}]) after []
  rw [append_nil] at rest
  simp [amid, copyRecords_append, copyRecords, rest]

theorem foldl_removeFrom_map : (before.map .inr).foldl removeFrom heap = heap := by
  induction before <;> simp_all [removeFrom]

end Loops

theorem modify_length (heap : Heap) (record : OPT) (f : OPT → OPT) :
    (heap ++ [record]).modify heap.length f = heap ++ [f record] := by
  induction heap <;> simp_all

/-! ## What is set and removed -/

theorem filter_modify {options : List EDNS0} {position : Nat} (clientSubnet : Prefix)
    (single : (options.filter (·.isSubnet)).length ≤ 1) (found : options.findIdx? (·.isSubnet) = some position) :
    (∃ option : Subnet, (options.modify position (EDNS0.assign clientSubnet)).filter (·.isSubnet) =
        [.subnet (option.assign clientSubnet)]) ∧
      (options.modify position (EDNS0.assign clientSubnet)).filter (·.code ≠ 8) = options.filter (·.code ≠ 8) := by
  induction options generalizing position with
  | nil => cases found
  | cons option options ih =>
    cases option with
    | subnet option =>
      -- the first subnet is the only one
      have none : options.filter (·.isSubnet) = [] := by simpa [filter_cons] using single
      obtain rfl : position = 0 := by simpa [findIdx?_cons] using found.symm
      exact ⟨⟨option, by simp [EDNS0.assign, filter_cons, none]⟩, by simp [EDNS0.assign]⟩
    | other code data isOther =>
      rw [findIdx?_cons] at found
      obtain ⟨later, isLater, rfl⟩ := map_eq_some_iff.mp found
      obtain ⟨⟨option, isOption⟩, same⟩ := ih single isLater
      exact ⟨⟨option, isOption⟩, by simpa using same⟩

theorem OPT.assign_spec (record : OPT) (clientSubnet : Prefix)
    (single : (record.options.filter (·.isSubnet)).length ≤ 1) :
    let assigned := record.assign clientSubnet (record.options.findIdx? (·.isSubnet))
    (∃ option : Subnet, assigned.options.filter (·.isSubnet) = [.subnet (option.assign clientSubnet)]) ∧
      assigned.removeSubnet = record.removeSubnet := by
  cases found : record.options.findIdx? (·.isSubnet) with
  | none =>
    have none : record.options.filter (·.isSubnet) = [] := by simpa using found
    exact ⟨⟨{}, by simp [assign, none]⟩, by simp [assign, removeSubnet]⟩
  | some position =>
    obtain ⟨option, same⟩ := filter_modify clientSubnet single found
    exact ⟨option, by simpa [assign, removeSubnet] using same⟩

variable {clientSubnet : Prefix} {message : Message R M}

theorem ofAddr_assign (isValid : clientSubnet.isValid) (proper : clientSubnet.Proper)
    (unmapped : clientSubnet.addr.all (!·.is4In6)) :
    (match Addr.ofSlice (option.assign clientSubnet).address with
      | none => ⟨none, none⟩
      | some address => Prefix.ofAddr (some address.unmap) (option.assign clientSubnet).sourceNetmask.toNat) =
    clientSubnet := by
  obtain ⟨addr, bits⟩ := clientSubnet
  obtain ⟨bits, rfl⟩ := isSome_iff_exists.mp isValid
  obtain ⟨ip, rfl, fits⟩ := proper bits rfl
  have small : bits % 256 = bits := by
    cases ip <;> simp only [Addr.bitLen] at fits <;> omega
  have plain : ip.unmap = ip := Addr.unmap_of_not_is4In6 (by simpa using unmapped)
  simp [Subnet.assign, Addr.ofSlice_asSlice, plain, Prefix.ofAddr, small, fits]

/-! ## The result -/

section Result

variable (heap : Heap) (before after : List R) (rest : M) (clientSubnet : Prefix)

/-- The message has an `OPT` record of its own, at the end of the heap. -/
def written (record : OPT) : Message R M × Heap :=
  (⟨amid before heap.length after, rest⟩, heap ++ [record.assign clientSubnet (record.options.findIdx? (·.isSubnet))])

theorem setClientSubnet_map :
    SetClientSubnet heap ⟨before.map .inr, rest⟩ clientSubnet = written heap before [] rest clientSubnet {} := by
  rw [SetClientSubnet, setClientSubnet]
  simp [findExists_map, written, amid]

theorem setClientSubnet_amid {pointer : Nat}
    (found : after = [] ∨ (heap[pointer]?.getD {}).options.findIdx? (·.isSubnet) ≠ none) :
    SetClientSubnet heap ⟨amid before pointer after, rest⟩ clientSubnet =
      written heap before after rest clientSubnet (heap[pointer]?.getD {}) := by
  -- the copy has the same record, so the search of the copy has the same result
  have finds (heap : Heap) (pointer : Nat) {record : OPT} (isRecord : heap[pointer]?.getD {} = record)
      (found : after = [] ∨ record.options.findIdx? (·.isSubnet) ≠ none) :
      findExists heap (amid before pointer after) none none = (some pointer, record.options.findIdx? (·.isSubnet)) := by
    rw [findExists_amid, isRecord]
    cases isFound : record.options.findIdx? (·.isSubnet) <;> simp_all
  rw [SetClientSubnet, setClientSubnet]
  simp only [finds heap pointer rfl found, if_true, copyRecords_amid]
  rw [setClientSubnet]
  simp [finds (heap ++ [heap[pointer]?.getD {}]) heap.length (by simp) found, written, modify_length]

theorem read_concat (allocated : ∀ pointer, .inl pointer ∈ message.extra → pointer < heap.length)
    (record : OPT) : message.read (heap ++ [record]) = message.read heap := by
  refine map_congr_left fun extra isExtra => ?_
  cases extra with
  | inr other => rfl
  | inl pointer => simp [getElem?_append_left (allocated pointer isExtra)]

theorem removeClientSubnet_amid (pointer : Nat) (has : ∃ option ∈ (heap[pointer]?.getD {}).options, option.isSubnet) :
    removeClientSubnet heap ⟨amid before pointer after, rest⟩ =
      (⟨amid before heap.length after, rest⟩, heap ++ [(heap[pointer]?.getD {}).removeSubnet]) := by
  rw [removeClientSubnet, if_pos (by simpa [Message.read, options] using has), copyRecords_amid]
  simp [amid, foldl_removeFrom_map, removeFrom, modify_length]

end Result

/-- The record without its client subnets. -/
def strip : OPT ⊕ R → OPT ⊕ R := Sum.map OPT.removeSubnet id

/-- The messages and prefixes that the function is for. -/
structure Proper (heap : Heap) (message : Message R M) (clientSubnet : Prefix) : Prop where
  single : (message.extra.filterMap Sum.getLeft?).length ≤ 1
  allocated : ∀ pointer, .inl pointer ∈ message.extra → pointer < heap.length
  singleSubnet : ((options (message.read heap)).filter (·.isSubnet)).length ≤ 1
  isValid : clientSubnet.isValid
  proper : clientSubnet.Proper
  unmapped : clientSubnet.addr.all (!·.is4In6)

/-- The subnet is set in the result, and nothing else has changed. -/
structure Sets (heap : Heap) (message : Message R M) (clientSubnet : Prefix) (result : Message R M × Heap) : Prop where
  single : ∃ record option, (result.1.read result.2).filterMap Sum.getLeft? = [record] ∧
    record.options.filter (·.isSubnet) = [.subnet option]
  reads : clientSubnetFromMessage result.2 result.1 = clientSubnet
  rest : result.1.rest = message.rest
  others : (result.1.read result.2).map strip = (message.read heap).map strip ++
    if message.extra.any Sum.isLeft then [] else [.inl {}]
  original : message.read result.2 = message.read heap
  removed : ∀ final heap', removeClientSubnet result.2 result.1 = (final, heap') →
    (∀ option ∈ options (final.read heap'), ¬option.isSubnet) ∧
      final.read heap' = (result.1.read result.2).map strip ∧ final.rest = message.rest

theorem sets_written {heap : Heap} {before after : List R} {record : OPT}
    (proper : Proper heap message clientSubnet) (single : (record.options.filter (·.isSubnet)).length ≤ 1)
    (others : amid before record.removeSubnet after = (message.read heap).map strip ++
      if message.extra.any Sum.isLeft then [] else [.inl {}]) :
    Sets heap message clientSubnet (written heap before after message.rest clientSubnet record) := by
  obtain ⟨⟨option, isOption⟩, same⟩ := record.assign_spec clientSubnet single
  have view : (written heap before after message.rest clientSubnet record).1.read
      (written heap before after message.rest clientSubnet record).2 =
        amid before (record.assign clientSubnet (record.options.findIdx? (·.isSubnet))) after := by
    simp [written, Message.read]
  have has : ∃ option ∈ (record.assign clientSubnet (record.options.findIdx? (·.isSubnet))).options, option.isSubnet :=
    ⟨_, mem_filter.mp (isOption ▸ mem_singleton_self _)⟩
  constructor
  case single => exact ⟨_, _, by rw [view, lefts_amid], isOption⟩
  case reads =>
    simp only [clientSubnetFromMessage, view, options, lefts_amid, flatMap_singleton, isOption]
    exact ofAddr_assign option proper.isValid proper.proper proper.unmapped
  case rest => rfl
  case others => rw [view, ← others, ← same, strip, map_amid]
  case original => exact read_concat heap proper.allocated _
  case removed =>
    have isRemoved := removeClientSubnet_amid (written heap before after message.rest clientSubnet record).2 before after
      message.rest heap.length (by simpa [written] using has)
    rintro _ _ removes
    cases isRemoved.symm.trans removes
    simp [Message.read, written, options, strip, OPT.removeSubnet]

/-- No record of another type hides the `OPT` record: there is none, or it is the last record, or
the loop ends at its subnet. -/
def Visible (heap : Heap) (message : Message R M) : Prop :=
  ¬message.extra.any Sum.isLeft ∨ message.extra.getLast?.any Sum.isLeft ∨ (options (message.read heap)).any (·.isSubnet)

theorem setClientSubnet_sets_iff (heap : Heap) (message : Message R M) (clientSubnet : Prefix)
    (proper : Proper heap message clientSubnet) :
    Sets heap message clientSubnet (SetClientSubnet heap message clientSubnet) ↔ Visible heap message := by
  obtain ⟨extra, rest⟩ := message
  obtain ⟨others, rfl⟩ | ⟨before, pointer, after, rfl⟩ := eq_map_or_amid extra proper.single
  · -- a new record is added
    rw [setClientSubnet_map]
    refine iff_of_true (sets_written proper (by simp) ?_) (.inl (by simp))
    simp [Message.read, amid, strip, OPT.removeSubnet, comp_def]
  · have isLeft : (amid before pointer after).any Sum.isLeft := by simp [amid]
    have single := proper.singleSubnet
    simp only [Message.read, map_amid, options, lefts_amid, flatMap_singleton] at single
    by_cases found : after = [] ∨ (heap[pointer]?.getD {}).options.findIdx? (·.isSubnet) ≠ none
    · rw [setClientSubnet_amid heap before after rest clientSubnet found]
      refine iff_of_true (sets_written proper single (by simp [isLeft, Message.read, strip])) (.inr ?_)
      rcases found with rfl | found
      · exact .inl (by simp [amid])
      · exact .inr (by simpa [Message.read, options] using found)
    · -- the record is forgotten, and a second one is added
      simp only [not_or, not_not] at found
      refine iff_of_false (fun sets => ?_) ?_
      · obtain ⟨record, option, isSingle, -⟩ := sets.single
        rw [SetClientSubnet, setClientSubnet] at isSingle
        simp [findExists_amid, found, Message.read] at isSingle
      · have last : (amid before pointer after).getLast?.any Sum.isLeft = false := by
          obtain ⟨other, isOther⟩ := ne_none_iff_exists'.mp (getLast?_eq_none_iff.not.mpr found.1)
          simp [amid, getLast?_append, getLast?_cons, isOther]
        simpa [Visible, isLeft, last, Message.read, options] using found.2

/-- A message that is signed: its `OPT` record has no subnet, and is not the last. -/
def signed : Message String Unit := ⟨[.inl 0, .inr "TSIG"], ()⟩

def subnet24 : Prefix := ⟨some (.v4 0xc0000200), some 24⟩

theorem proper_signed : Proper [{ udpSize := 1232 }] signed subnet24 where
  single := by decide
  allocated := by simp [signed]
  singleSubnet := by decide
  isValid := rfl
  proper := by simp [Prefix.Proper, subnet24, Addr.bitLen]
  unmapped := by decide

theorem setClientSubnet_sets_iff_signed : Proper [{ udpSize := 1232 }] signed subnet24 ∧
    (Sets [{ udpSize := 1232 }] signed subnet24 (SetClientSubnet [{ udpSize := 1232 }] signed subnet24) ↔
      Visible [{ udpSize := 1232 }] signed) :=
  ⟨proper_signed, setClientSubnet_sets_iff _ _ _ proper_signed⟩

/-- The signed message gets a second `OPT` record. -/
theorem signed_gets_second_opt : Proper [{ udpSize := 1232 }] signed subnet24 ∧
    ¬Sets [{ udpSize := 1232 }] signed subnet24 (SetClientSubnet [{ udpSize := 1232 }] signed subnet24) := by
  refine ⟨proper_signed, fun sets => ?_⟩
  obtain ⟨record, option, isSingle, -⟩ := sets.single
  rw [SetClientSubnet, setClientSubnet] at isSingle
  simp [signed, findExists, findOption, Message.read] at isSingle

end SingBox.Edns
