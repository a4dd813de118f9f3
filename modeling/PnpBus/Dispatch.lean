import PnpBus.Removal

/-!
# How a request travels down a stack

`deliver` gives a request to a stack: the top device takes a reference, its
layer answers or asks the rest of the stack, and the answer travels back up.
`dispatch` does the same for the stack under a device and completes the
request unless somebody has taken charge of it (`pending`). Only the removal
of a device waits on the way.
-/

namespace PnpBus

/-! ## Routing -/

inductive Route where
  | physical
  | functional
  | refuse
  deriving DecidableEq

/-- Deleted devices get nothing; the rest goes by role. -/
def Route.of (role : Role) (state : PnpState) : Route :=
  match state, role with
  | .deleted, _ => .refuse
  | _, .physical => .physical
  | _, .functional => .functional

def Device.route (v : Device) : Route := .of v.role v.state

/-- Takes a reference on `d` for the request, or refuses. -/
def enter (d : DeviceId) (r : RequestId) (k : Kind) : ExceptT Status Act Unit := do
  let v ← device d
  if v.route = .refuse then
    notify (.sentToDeleted k v.identity.deviceId)
    throw .noSuchDevice
  try acquireLock (.device d) catch _ => throw .noSuchDevice
  holdLock r d

/-- Runs the handler once the request has entered the device. -/
def admitted (d : DeviceId) (r : RequestId) (k : Kind) (handler : Call Status) : Call Status := do
  match ← (enter d r k).run with
  | .ok () =>
    Call.checkpoint
    handler
  | .error e => return e

/-! ## Shared steps -/

/-- Takes back a query; a cancel without a query is accepted and does nothing. -/
def cancel (d : DeviceId) (queried : PnpState) : ExceptT Status Act Unit := do
  if (← device d).state = queried then restoreDevice d

/-! ## Physical devices -/

def answerId (identity : Identity) : IdType → Information
  | .deviceId => .id identity.deviceId
  | .instanceId => .id identity.instanceId
  | .hardwareIds | .compatibleIds => .ids [identity.deviceId]

def physicalMinor (b : DriverId) (d : DeviceId) (r : RequestId) : Minor → ExceptT Status Call Unit
  | .startDevice => do
    moveDevice d .startPending
    moveDevice d .started
  | .queryStopDevice => moveDevice d .stopPending
  | .cancelStopDevice => cancel d .stopPending
  | .stopDevice => moveDevice d .stopped
  | .queryRemoveDevice => moveDevice d .removePending
  | .cancelRemoveDevice => cancel d .removePending
  | .surpriseRemoval => moveDevice d .surpriseRemovePending
  | .removeDevice => do
    giveBack r d
    enterRemoval d
    drainAndDelete b d
  | .queryId t => do inform r (answerId (← device d).identity t)
  | .queryRelations .target => inform r (.relations [d])
  | .queryRelations t => throw (Minor.queryRelations t).unhandled

def physical (b : DriverId) (d : DeviceId) (r : RequestId) : Kind → Call Status
  | .pnp m => do
    let deviceId := (← device d).identity.deviceId
    notify (.physicalAsked deviceId m)
    let outcome ← (physicalMinor b d r m).run
    match outcome with
    | .ok () => pure ()
    | .error e => notify (.physicalRefused deviceId m e)
    return .ofResult outcome
  | .power c => return .ofResult (← (changePower d c).run)
  | _ => return .notSupported

/-! ## Functional devices

`below` is the rest of the stack, asked for the same request. -/

/-- Asks below after a move of our own, which is taken back if the rest of the stack refuses. -/
def forwardOrRollBack (d : DeviceId) (below : Call Status) : Call Status := do
  let status ← below
  unless status.isSuccess do
    let v ← device d
    notify (.lowerRefused v.identity.deviceId status v.state)
    let _ ← (restoreDevice d).run
  return status

/-- Moves, then hands the request on. -/
def moveThen (d : DeviceId) (target : PnpState) (next : Call Status) : Call Status := do
  match ← (moveDevice d target).run with
  | .ok () => next
  | .error e => return e

def forwardThenCancel (d : DeviceId) (queried : PnpState) (below : Call Status) : Call Status := do
  let status ← below
  match ← (cancel d queried).run with
  | .ok () => return status
  | .error e => return e

/-- Children first, then this device, then the rest of the stack; this device is deleted last. -/
def removeFunctional (b : DriverId) (d : DeviceId) (r : RequestId) (below : Call Status) : Call Status := do
  match ← (enterRemoval d).run with
  | .error e => return e
  | .ok () =>
    (← takeChildren d).forM (tearDownChild b)
    giveBack r d
    drain (.device d)
    let status ← below
    unless status.isSuccess do notify (.lowerRefusedRemoval status)
    match ← (finishRemoval b d).run with
    | .error e => return e
    | .ok () =>
      notify (.functionalRemoved (← device d).identity.deviceId)
      return .success

def functionalMinor (b : DriverId) (d : DeviceId) (r : RequestId) (below : Call Status) : Minor → Call Status
  | .startDevice => moveThen d .startPending do
    let status ← forwardOrRollBack d below
    if status = .success then return .ofResult (← (moveDevice d .started).run) else return status
  | .queryStopDevice => moveThen d .stopPending (forwardOrRollBack d below)
  | .cancelStopDevice => forwardThenCancel d .stopPending below
  | .stopDevice => moveThen d .stopped below
  | .queryRemoveDevice => moveThen d .removePending (forwardOrRollBack d below)
  | .cancelRemoveDevice => forwardThenCancel d .removePending below
  | .surpriseRemoval => moveThen d .surpriseRemovePending below
  | .removeDevice => removeFunctional b d r below
  | .queryRelations .bus => do
    let v ← device d
    let children := if v.layer?.any (·.active) then v.children else []
    notify (.childrenListed children.length)
    inform r (.relations children)
    return .success
  | _ => below

/-- The request is complete unless the answer is that somebody will complete it later. -/
def settle (r : RequestId) (s : Status) : Act Status := do
  unless s = .pending do complete r s
  return s

def divert (i : Interceptor) (d : DeviceId) (r : RequestId) (below : Call Status) : Call Status := do
  noteDiverted d
  match i.bytes with
  | some n => inform r (.bytes n)
  | none => pure ()
  match i.diversion with
  | .park => return .pending
  | .answer s => return s
  | .complete s returned => do
    complete r s
    return returned
  | .forward => do settle r (← below)

/-- Plain I/O goes to the interceptor if there is one and the gate gives out a ticket. -/
def transfer (b : DriverId) (d : DeviceId) (r : RequestId) (below : Call Status) : Call Status := do
  match (← driver b).interceptor with
  | none => below
  | some i =>
    if ← issueTicket (.device d) then
      holdTicket r (.device d)
      divert i d r below
    else below

def functional (b : DriverId) (d : DeviceId) (r : RequestId) (below : Call Status) : Kind → Call Status
  | .pnp m => do
    notify (.functionalAsked (← device d).identity.deviceId m)
    functionalMinor b d r below m
  | .power c => do
    match ← (changePower d c).run with
    | .ok () => below
    | .error e => return e
  | _ => transfer b d r below

/-! ## The whole stack -/

def deliver (b : DriverId) (r : RequestId) (k : Kind) : Stack → Call Status
  | .physical d => admitted d r k (physical b d r k)
  | .functional d lower => admitted d r k (functional b d r (deliver b r k lower) k)

def dispatch (b : DriverId) (d : DeviceId) (r : RequestId) : Call Status := do
  let status ← deliver b r (← request r).kind ((← get).stack d)
  settle r status

end PnpBus
