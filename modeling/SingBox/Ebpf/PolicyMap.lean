import SingBox.Lib.FaultyMap

/-! # Updates of policy maps

`common/ebpf/policy_runtime.go` and `map.go`: the difference between two policies is applied to a
kernel map, in batches where the kernel has them and entry by entry where it has not, and undone
when an operation fails.
-/

namespace SingBox.Ebpf

open Lib.FaultyMap

/-- Where in an update an operation stands. `fallback` is the loop for kernels without batches,
`entry` the loop over single entries: the only one for host addresses, and for prefixes the one
after a batch that has met an entry that was there already, or was gone. -/
inductive Phase where
  | batch
  | fallback
  | entry
  | rollback
deriving DecidableEq, Repr

inductive BatchMode where
  | unknown
  | supported
  | unsupported
deriving DecidableEq, Repr

/-- `bypassCIDRUpdateBatchSupport` and `bypassCIDRDeleteBatchSupport`. -/
abbrev BatchSupport := Operation → BatchMode

variable {Key : Type} [DecidableEq Key]

abbrev MapCommand (Key : Type) := Command Phase Key BatchSupport

abbrev MapState (Key : Type) := State Key BatchSupport

abbrev MapOutcome (Key : Type) := Outcome Phase Key BatchSupport

/-! ## Batches -/

def mapBatchMaxEntries : Nat := 1024

def mapBatchUnsupportedError : Errno → Bool
  | .ENOTSUPP | .ENOSYS | .EINVAL | .EOPNOTSUPP => true
  | _ => false

def setBatchMode (operation : Operation) (mode : BatchMode) : MapCommand Key Unit := do
  let support ← getContext
  setContext (Function.update support operation mode)

def mapBatchFallback (operation : Operation) : List Key → MapCommand Key (Nat × Option Errno)
  | [] => return (0, none)
  | key :: keys => do
    match ← perform .fallback operation key with
    | some errno => return (0, some errno)
    | none =>
      let (processed, errno) ← mapBatchFallback operation keys
      return (processed + 1, errno)

/-- `updateMapBatchChunk` and `deleteMapBatchChunk`. -/
def mapBatchChunk (operation : Operation) (keys : List Key) : MapCommand Key (Nat × Option Errno) := do
  let support ← getContext
  if support operation ≠ .unsupported then
    let (processed, errno) ← batch .batch operation keys
    match errno with
    | none =>
      if processed ≠ keys.length then
        return (processed, some .inputOutput)
      if support operation = .unknown then
        setBatchMode operation .supported
      return (processed, none)
    | some errno =>
      if ¬mapBatchUnsupportedError errno then
        return (processed, some errno)
      setBatchMode operation .unsupported
      mapBatchFallback operation keys
  else mapBatchFallback operation keys

/-- The loop of `updateMapBatch` and `deleteMapBatch`, with a bound on the number of chunks. -/
def mapBatchChunks (operation : Operation) : Nat → List Key → MapCommand Key (Nat × Option Errno)
  | _, [] => return (0, none)
  | 0, _ :: _ => return (0, none)
  | chunks + 1, key :: keys => do
    let (processed, errno) ← mapBatchChunk operation ((key :: keys).take mapBatchMaxEntries)
    if errno.isSome then return (processed, errno)
    let (later, errno) ← mapBatchChunks operation chunks ((key :: keys).drop mapBatchMaxEntries)
    return (processed + later, errno)

/-- `updateMapBatch`, with entries that must not exist, and `deleteMapBatch`. -/
def mapBatch (operation : Operation) (keys : List Key) : MapCommand Key (Nat × Option Errno) :=
  mapBatchChunks operation keys.length keys

/-! ## Errors -/

inductive PolicyError where
  | errno (errno : Errno)
  | errors (errors : List Errno)
  | cause (message : String) (error : PolicyError)
  | policyRollbackError (updateErr rollbackErr : PolicyError)
deriving Repr

/-- `errors.As` looks at the error itself and then at what it wraps. -/
def policyRollbackFailed : PolicyError → Bool
  | .errno _ | .errors _ => false
  | .cause _ error => policyRollbackFailed error
  | .policyRollbackError _ _ => true

variable (updateErr : PolicyError)

def policyUpdateError : Option PolicyError → PolicyError
  | none => updateErr
  | some rollbackErr => .policyRollbackError updateErr rollbackErr

/-- `E.Errors`: no error if there is none. -/
def joinErrors : List Errno → Option PolicyError
  | [] => none
  | errnos => some (.errors errnos)

/-! ## Maps of prefixes -/

/-- The error that an operation of an update is allowed to end with. -/
def tolerated : Operation → Option Errno
  | .create => some .EEXIST
  | .delete => some .ENOENT
  | .put => none

/-- Entry by entry: the keys that have been processed, and the error that ends the loop. -/
def retryEntries (operation : Operation) : List Key → MapCommand Key (List Key × Option Errno)
  | [] => return ([], none)
  | key :: keys => do
    match ← perform .entry operation key with
    | none =>
      let (processed, errno) ← retryEntries operation keys
      return (key :: processed, errno)
    | some errno =>
      if tolerated operation = some errno then retryEntries operation keys
      else return ([], some errno)

/-- One half of `replaceCIDRPolicyMap`: the additions or the removals. A batch does not process more
keys than it has, so the check for that is left out. -/
def applyEntries (operation : Operation) (keys : List Key) : MapCommand Key (List Key × Option Errno) := do
  let (processed, errno) ← mapBatch operation keys
  match errno with
  | none => return (keys.take processed, none)
  | some errno =>
    if tolerated operation ≠ some errno then return (keys.take processed, some errno)
    let (retried, errno) ← retryEntries operation (keys.drop processed)
    return (keys.take processed ++ retried, errno)

/-- A loop of a rollback, which goes on after an error and may ignore one. -/
def undoEntries (operation : Operation) (ignored : Option Errno) : List Key → MapCommand Key (List Errno)
  | [] => return []
  | key :: keys => do
    let errno ← perform .rollback operation key
    let errnos ← undoEntries operation ignored keys
    return (errno.filter fun errno => ignored ≠ some errno).toList ++ errnos

def rollbackCIDRPolicyMap (added removed : List Key) : MapCommand Key (Option PolicyError) := do
  let updateErrs ← undoEntries .put none removed
  let deleteErrs ← undoEntries .delete (some .ENOENT) added
  return joinErrors (updateErrs ++ deleteErrs)

def bypassCIDRPolicyDelta (currentPrefixes nextPrefixes : List Key) : List Key × List Key :=
  (nextPrefixes.filter (· ∉ currentPrefixes), currentPrefixes.filter (· ∉ nextPrefixes))

variable (current next : List Key)

def replaceCIDRPolicyMap : MapCommand Key (Option PolicyError) := do
  let (additions, removals) := bypassCIDRPolicyDelta current next
  let (added, errno) ← applyEntries .create additions
  match errno with
  | some errno =>
    let rollbackErr ← rollbackCIDRPolicyMap added []
    return some (policyUpdateError (.errno errno) rollbackErr)
  | none =>
    let (removed, errno) ← applyEntries .delete removals
    match errno with
    | some errno =>
      let rollbackErr ← rollbackCIDRPolicyMap added removed
      return some (policyUpdateError (.errno errno) rollbackErr)
    | none => return none

/-! ## Maps of host addresses -/

/-- What a function that may panic comes to. -/
inductive Reply where
  | ok
  | failed (error : PolicyError)
  | panicked
deriving Repr

/-- `policyUpdateError` of an error and `E.Cause` of what the rollback has come to: `E.Cause` panics
when there is no error. -/
def policyUpdateCause (rollbackErr : Option PolicyError) (message : String) : Reply :=
  match rollbackErr with
  | none => .panicked
  | some rollbackErr => .failed (policyUpdateError updateErr (some (.cause message rollbackErr)))

/-- The number of keys that the loop has gone through, and the error that ends it. -/
def hostEntries (operation : Operation) : List Key → MapCommand Key (Nat × Option Errno)
  | [] => return (0, none)
  | key :: keys => do
    let errno ← perform .entry operation key
    match errno.filter fun errno => tolerated operation ≠ some errno with
    | some errno => return (0, some errno)
    | none =>
      let (index, errno) ← hostEntries operation keys
      return (index + 1, errno)

def replaceHostAddressMap : MapCommand Key Reply := do
  let added := next.filter (· ∉ current)
  let removed := current.filter (· ∉ next)
  let (index, errno) ← hostEntries .put added
  match errno with
  | some errno =>
    let rollbackErrs ← undoEntries .delete none (added.take index)
    return policyUpdateCause (.errno errno) (joinErrors rollbackErrs) "rollback added host addresses"
  | none =>
    let (index, errno) ← hostEntries .delete removed
    match errno with
    | some errno =>
      let updateErrs ← undoEntries .put none (removed.take index)
      let deleteErrs ← undoEntries .delete none added
      return policyUpdateCause (.errno errno) (joinErrors (updateErrs ++ deleteErrs)) "rollback host address update"
    | none => return .ok

/-! ## Both families -/

inductive Family where
  | ipv4
  | ipv6
deriving DecidableEq, Repr

structure DualStack (α : Type) where
  ipv4 : α
  ipv6 : α

def DualStack.of {α : Type} (stack : DualStack α) : Family → α
  | .ipv4 => stack.ipv4
  | .ipv6 => stack.ipv6

/-- The operations of one replacement, on the map of one family. -/
structure Run (Key : Type) where
  family : Family
  answers : List (Answer Phase Key)

/-- What an update of both maps comes to, with its replacements: that of the family that comes
first, that of the other one, and the one that takes the first back. -/
structure Update (Key : Type) where
  reply : Reply
  changed : Bool := true
  maps : DualStack (Key → Bool)
  first : Run Key
  second : Run Key
  restore : Run Key

variable (maps : DualStack (Key → Bool)) (faults : List Fault) (support : BatchSupport)

def replaceDualStackCIDRPolicy (current next : DualStack (List Key)) (scope policyName : String) : Update Key :=
  let replaceIPv4 : MapCommand Key (Option PolicyError) :=
    if current.ipv4 = next.ipv4 then pure none else replaceCIDRPolicyMap current.ipv4 next.ipv4
  let replaceIPv6 : MapCommand Key (Option PolicyError) :=
    if current.ipv6 = next.ipv6 then pure none else replaceCIDRPolicyMap current.ipv6 next.ipv6
  let restoreIPv6 : MapCommand Key (Option PolicyError) :=
    if current.ipv6 = next.ipv6 then pure none else replaceCIDRPolicyMap next.ipv6 current.ipv6
  let changed := ¬(current.ipv4 = next.ipv4 ∧ current.ipv6 = next.ipv6)
  let first := replaceIPv6 { contents := maps.ipv6, faults, context := support }
  match first.value with
  | some error =>
    { reply := .failed (.cause ("update " ++ scope ++ "IPv6 " ++ policyName ++ " map") error), changed := false
      maps := { ipv4 := maps.ipv4, ipv6 := first.state.contents }
      first := ⟨.ipv6, first.answers⟩, second := ⟨.ipv4, []⟩, restore := ⟨.ipv6, []⟩ }
  | none =>
    let second := replaceIPv4 { first.state with contents := maps.ipv4 }
    match second.value with
    | none =>
      { reply := .ok, changed
        maps := { ipv4 := second.state.contents, ipv6 := first.state.contents }
        first := ⟨.ipv6, first.answers⟩, second := ⟨.ipv4, second.answers⟩, restore := ⟨.ipv6, []⟩ }
    | some error =>
      let updateErr : PolicyError := .cause ("update " ++ scope ++ "IPv4 " ++ policyName ++ " map") error
      let restore := restoreIPv6 { second.state with contents := first.state.contents }
      let rollbackErr := restore.value.map (.cause ("rollback " ++ scope ++ "IPv6 " ++ policyName ++ " map"))
      { reply := .failed (policyUpdateError updateErr rollbackErr), changed := false
        maps := { ipv4 := second.state.contents, ipv6 := restore.state.contents }
        first := ⟨.ipv6, first.answers⟩, second := ⟨.ipv4, second.answers⟩, restore := ⟨.ipv6, restore.answers⟩ }

def replaceHostAddressPolicy (current next : DualStack (List Key)) : Update Key :=
  let first := replaceHostAddressMap current.ipv4 next.ipv4 { contents := maps.ipv4, faults, context := support }
  let ended (reply : Reply) : Update Key :=
    { reply, maps := { ipv4 := first.state.contents, ipv6 := maps.ipv6 }
      first := ⟨.ipv4, first.answers⟩, second := ⟨.ipv6, []⟩, restore := ⟨.ipv4, []⟩ }
  match first.value with
  | .panicked => ended .panicked
  | .failed error => ended (.failed (.cause "update TC eBPF IPv4 host addresses" error))
  | .ok =>
    let second := replaceHostAddressMap current.ipv6 next.ipv6 { first.state with contents := maps.ipv6 }
    let ended (reply : Reply) : Update Key :=
      { reply, maps := { ipv4 := first.state.contents, ipv6 := second.state.contents }
        first := ⟨.ipv4, first.answers⟩, second := ⟨.ipv6, second.answers⟩, restore := ⟨.ipv4, []⟩ }
    match second.value with
    | .panicked => ended .panicked
    | .ok => ended .ok
    | .failed error =>
      let updateErr : PolicyError := .cause "update TC eBPF IPv6 host addresses" error
      let restore := replaceHostAddressMap next.ipv4 current.ipv4 { second.state with contents := first.state.contents }
      let reply : Reply := match restore.value with
        | .panicked => .panicked
        | .ok => .failed updateErr
        | .failed error =>
          .failed (policyUpdateError updateErr (some (.cause "rollback TC eBPF IPv4 host addresses" error)))
      { reply, maps := { ipv4 := restore.state.contents, ipv6 := second.state.contents }
        first := ⟨.ipv4, first.answers⟩, second := ⟨.ipv6, second.answers⟩, restore := ⟨.ipv4, restore.answers⟩ }

end SingBox.Ebpf
