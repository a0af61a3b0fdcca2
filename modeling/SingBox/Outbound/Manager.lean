import SingBox.Lib.Table

/-! # The outbound manager

`adapter/outbound/manager.go` keeps the outbounds in a list and in a map by tag, the tags
that depend on an outbound in a second map, and a pointer to the default outbound. What the
manager calls (the registry, the outbounds, the endpoint manager) answers through arguments:
an operation is given what each of its calls returned.
-/

namespace SingBox

open Lib

/-! ## Outbounds and errors -/

inductive StartStage where
  | stateInitialize
  | stateStart
  | statePostStart
  | stateStarted
deriving DecidableEq, Repr

namespace StartStage

def text : StartStage → String
  | .stateInitialize => "initialize"
  | .stateStart => "start"
  | .statePostStart => "post-start"
  | .stateStarted => "finish-start"

def level : StartStage → Nat
  | .stateInitialize => 0
  | .stateStart => 1
  | .statePostStart => 2
  | .stateStarted => 3

def listStartStages : List StartStage := [.stateInitialize, .stateStart, .statePostStart, .stateStarted]

end StartStage

/-- An outbound that has been created. The manager compares outbounds by identity, and `serial`
is the identity of the object. -/
structure ManagedOutbound where
  serial : Nat
  type : String
  tag : String
  dependencies : List String
deriving DecidableEq, Repr

def ManagedOutbound.name (outbound : ManagedOutbound) : String :=
  "outbound/" ++ outbound.type ++ "[" ++ outbound.tag ++ "]"

inductive DefaultOutbound where
  | outbound (outbound : ManagedOutbound)
  | endpoint (tag : String)
deriving DecidableEq, Repr

def DefaultOutbound.tag : DefaultOutbound → String
  | .outbound managed => managed.tag
  | .endpoint tag => tag

inductive ManagerError where
  /-- `os.ErrInvalid`. -/
  | invalid
  /-- What a call of the manager returned, handed on as it is. -/
  | returned (error : String)
  | cause (error : String) (message : String)
  | defaultNotFound (tag : String)
  | dependedBy (tag : String) (dependBy : List String)
  | panicked (message : String)
deriving DecidableEq, Repr

def ManagerError.message : ManagerError → String
  | .invalid => "invalid argument"
  | .returned error => error
  | .cause error message => message ++ ": " ++ error
  | .defaultNotFound tag => "default outbound not found: " ++ tag
  | .dependedBy tag dependBy => "outbound[" ++ tag ++ "] is depended by " ++ ", ".intercalate dependBy
  | .panicked message => message

/-! ## The manager -/

structure OutboundManager where
  defaultTag : String
  started : Bool := false
  stage : StartStage := .stateInitialize
  outbounds : List ManagedOutbound := []
  outboundByTag : Table String ManagedOutbound := .empty
  dependByTag : Table String (List String) := .empty
  defaultOutbound : Option DefaultOutbound := none
  /-- The number of outbounds that have been created, registered or not. -/
  created : Nat := 0
  /-- The outbounds on which `Close` has been called, in the order of the calls. -/
  closed : List ManagedOutbound := []

/-- The entry of a map of lists: a key that is absent has the empty list. -/
def dependByOf (dependByTag : Table String (List String)) (tag : String) : List String :=
  (dependByTag.lookup tag).getD []

variable (tag : String)

/-- One turn of the loop of `Remove` over the dependencies of the outbound. -/
def dropDependency (dependByTag : Table String (List String)) (dependency : String) : Table String (List String) :=
  if (dependByOf dependByTag dependency).length = 1 then dependByTag.erase dependency
  else dependByTag.put dependency ((dependByOf dependByTag dependency).filter (· ≠ tag))

/-- One turn of the loop of `Create` over the dependencies of the outbound. -/
def addDependency (dependByTag : Table String (List String)) (dependency : String) : Table String (List String) :=
  dependByTag.put dependency (dependByOf dependByTag dependency ++ [tag])

namespace OutboundManager

variable (manager : OutboundManager)

/-- `endpoint` tells which tags the endpoint manager has. -/
def Outbound (endpoint : String → Bool) (tag : String) : Option DefaultOutbound :=
  match manager.outboundByTag.lookup tag with
  | some outbound => some (.outbound outbound)
  | none => if endpoint tag then some (.endpoint tag) else none

def dependBy (manager : OutboundManager) (tag : String) : List String := dependByOf manager.dependByTag tag

variable (outbound : ManagedOutbound)

/-- What `Remove` does before it looks at who depends on the outbound. -/
def unregister (manager : OutboundManager) (tag : String) (outbound : ManagedOutbound) : OutboundManager :=
  let outbounds := manager.outbounds.erase outbound
  { manager with
    outboundByTag := manager.outboundByTag.erase tag
    outbounds
    defaultOutbound :=
      if manager.defaultOutbound = some (.outbound outbound) then outbounds.head?.map .outbound
      else manager.defaultOutbound }

def dropDependencies (manager : OutboundManager) (tag : String) (outbound : ManagedOutbound) : OutboundManager :=
  { manager with dependByTag := outbound.dependencies.foldl (dropDependency tag) manager.dependByTag }

def close : OutboundManager :=
  { manager with closed := manager.closed ++ [outbound] }

variable (closes : Except String Unit)

/-- `closes` is what `Close` returns for the outbound. -/
def Remove (manager : OutboundManager) (tag : String) (closes : Except String Unit) :
    OutboundManager × Except ManagerError Unit :=
  match manager.outboundByTag.lookup tag with
  | none => (manager, .error .invalid)
  | some outbound =>
    if outbound ∉ manager.outbounds then
      ({ manager with outboundByTag := manager.outboundByTag.erase tag }, .error (.panicked "invalid inbound index"))
    else
      let removed := manager.unregister tag outbound
      -- The outbound is out of the list, of the map and of the default by now.
      let dependBy := removed.dependBy tag
      if dependBy ≠ [] then (removed, .error (.dependedBy tag dependBy))
      else
        let removed := removed.dropDependencies tag outbound
        if removed.started then (removed.close outbound, closes.mapError .returned)
        else (removed, .ok ())

/-- The end of `Create`, where the list has no outbound with the tag any more. -/
def register (manager : OutboundManager) (tag : String) (outbound : ManagedOutbound) : OutboundManager :=
  { manager with
    outbounds := manager.outbounds ++ [outbound]
    outboundByTag := manager.outboundByTag.put tag outbound
    dependByTag := outbound.dependencies.foldl (addDependency tag) manager.dependByTag
    defaultOutbound :=
      if tag = manager.defaultTag ∨ (manager.defaultTag = "" ∧ manager.defaultOutbound = none) then
        some (.outbound outbound)
      else manager.defaultOutbound }

/-- A started manager takes a new outbound through all stages. -/
def startStages (starts : StartStage → Except String Unit) : Except ManagerError Unit :=
  StartStage.listStartStages.forM fun stage =>
    (starts stage).mapError fun error => .cause error (stage.text ++ " " ++ outbound.name)

/-- The part of `Create` under the lock. -/
def install (manager : OutboundManager) (tag : String) (outbound : ManagedOutbound) (closes : Except String Unit) :
    OutboundManager × Except ManagerError Unit :=
  match manager.outboundByTag.lookup tag with
  | none => (manager.register tag outbound, .ok ())
  | some existsOutbound =>
    let replace (manager : OutboundManager) : OutboundManager × Except ManagerError Unit :=
      if existsOutbound ∉ manager.outbounds then (manager, .error (.panicked "invalid inbound index"))
      else
        let manager := { manager with outbounds := manager.outbounds.erase existsOutbound }
        (manager.register tag outbound, .ok ())
    if manager.started then
      match closes with
      | .error error => (manager.close existsOutbound, .error (.cause error ("close " ++ existsOutbound.name)))
      | .ok _ => replace (manager.close existsOutbound)
    else replace manager

/-- What the calls of one `Create` return: the dependencies of the new outbound or the error of
the registry, the result of each start stage, and that of `Close` for the outbound to replace. -/
structure CreateCalls where
  constructs : Except String (List String)
  starts : StartStage → Except String Unit := fun _ => .ok ()
  closes : Except String Unit := .ok ()

def Create (tag type : String) (calls : CreateCalls) : OutboundManager × Except ManagerError Unit :=
  if tag = "" then (manager, .error .invalid)
  else match calls.constructs with
    | .error error => (manager, .error (.returned error))
    | .ok dependencies =>
      let outbound : ManagedOutbound := { serial := manager.created, type, tag, dependencies }
      let manager := { manager with created := manager.created + 1 }
      match (if manager.started then startStages outbound calls.starts else .ok ()) with
      | .error error => (manager, .error error)
      | .ok _ => manager.install tag outbound calls.closes

/-- What the calls of one `Start` return: whether there is an endpoint with the default tag, the
error of the fallback, and that of the outbounds that are started. -/
structure StartCalls where
  endpoint : Bool := false
  fallback : Except String Unit := .ok ()
  starts : Except String Unit := .ok ()

/-- The outbound that `box.go` creates where there is no default one: it has no dependencies. -/
def directOutbound (serial : Nat) : ManagedOutbound :=
  { serial, type := "direct", tag := "direct", dependencies := [] }

def useFallback : OutboundManager :=
  let outbound := directOutbound manager.created
  { manager with
    created := manager.created + 1
    outbounds := manager.outbounds ++ [outbound]
    outboundByTag := manager.outboundByTag.put outbound.tag outbound
    defaultOutbound := some (.outbound outbound) }

/-- The stage at which the default outbound is settled. -/
def settleDefault (calls : StartCalls) : OutboundManager × Except ManagerError Unit :=
  if manager.defaultOutbound ≠ none then (manager, .ok ())
  else if manager.defaultTag ≠ "" then
    if calls.endpoint then
      ({ manager with defaultOutbound := some (.endpoint manager.defaultTag) }, .ok ())
    else (manager, .error (.defaultNotFound manager.defaultTag))
  else match calls.fallback with
    | .error error => (manager, .error (.cause error "create direct outbound for fallback"))
    | .ok _ => (manager.useFallback, .ok ())

def Start (stage : StartStage) (calls : StartCalls) : OutboundManager × Except ManagerError Unit :=
  if manager.started ∧ stage.level ≤ manager.stage.level then (manager, .error (.panicked "already started"))
  else
    let manager := { manager with started := true, stage }
    let (manager, settled) := if stage = .stateInitialize then manager.settleDefault calls else (manager, .ok ())
    (manager, settled.bind fun _ => calls.starts.mapError .returned)

inductive Operation where
  | create (tag type : String) (calls : CreateCalls)
  | remove (tag : String) (closes : Except String Unit)
  | start (stage : StartStage) (calls : StartCalls)

def perform : Operation → OutboundManager × Except ManagerError Unit
  | .create tag type calls => manager.Create tag type calls
  | .remove tag closes => manager.Remove tag closes
  | .start stage calls => manager.Start stage calls

end OutboundManager

end SingBox
