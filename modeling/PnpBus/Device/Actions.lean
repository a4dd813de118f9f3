import PnpBus.Call

/-!
# Acting on one device

Locks, gates, PnP moves, power and flags. A refused action reports why it was
refused and leaves the object as it was; only draining a lock can wait.
-/

namespace PnpBus

def device (d : DeviceId) : Act Device := return (← get).device d

/-! ## Devices in hand

What a call works on stays within reach for as long as the call waits.
-/

def takeInHand (ds : List DeviceId) : Act Unit := modify fun w => { w with inHand := ds ++ w.inHand }

def letGo (d : DeviceId) : Act Unit := modify fun w => { w with inHand := w.inHand.erase d }

/-! ## Remove locks -/

def acquireLock (l : LockRef) : ExceptT Status Act Unit := do
  match ((← get).lock l).acquire? with
  | some lock => modify (·.setLock l lock)
  | none => throw .deletePending

def releaseLock (l : LockRef) : Act Unit := do
  match ((← get).lock l).release? with
  | some lock => modify (·.setLock l lock)
  | none => notify .surplusRelease

/-- Closes the lock and gives back its own reference; a lock is closed once. -/
def closeLock (l : LockRef) : Act Unit := do
  let lock := (← get).lock l
  unless lock.draining do
    modify (·.setLock l lock.close)
    releaseLock l

/-- Waits until every reference is gone. The caller must not hold one itself. -/
def drain (l : LockRef) : Call Unit := do
  closeLock l
  Call.await (.drained l)

/-! ## Filter gates -/

def requestGate (g : GateRef) (wanted : FilterState) : ExceptT Status Act Unit := do
  match ((← get).gate g).request? wanted with
  | some gate =>
    modify (·.setGate g gate)
    notify (.gateSettled gate.state)
  | none =>
    notify .pendingRequested
    throw .invalidParameter

/-- Takes a ticket out, if the gate lets any through. -/
def issueTicket (g : GateRef) : Act Bool := do
  match ((← get).gate g).issue? with
  | some gate =>
    modify (·.setGate g gate)
    return true
  | none => return false

def redeemTicket (g : GateRef) : Act Unit := do
  match ((← get).gate g).redeem? with
  | some gate => modify (·.setGate g gate)
  | none => notify .surplusTicket

/-! ## PnP state -/

def setLifecycle (d : DeviceId) (m : Lifecycle) : Act Unit :=
  modify (·.updateDevice d fun v => { v with lifecycle := m })

/-- The new lifecycle of a move, or the report of an illegal one. -/
def settleMove (outcome : Except IllegalMove Lifecycle) : ExceptT Status Act Lifecycle :=
  match outcome with
  | .ok m => return m
  | .error e => do
    notify (.illegalMove e)
    throw .invalidState

def moveDevice (d : DeviceId) (target : PnpState) : ExceptT Status Act Unit := do
  setLifecycle d (← settleMove ((← device d).lifecycle.move target))

def restoreDevice (d : DeviceId) : ExceptT Status Act Unit := do
  setLifecycle d (← settleMove (← device d).lifecycle.restore)

/-! ## Power and flags -/

/-- Power is frozen once the device is deleted. -/
def changePower (d : DeviceId) (c : PowerChange) : ExceptT Status Act Unit := do
  if (← device d).state = .deleted then throw .invalidState
  modify (·.updateDevice d fun v => { v with power := v.power.apply c })

def setFlags (d : DeviceId) (bits : UInt32) : Act Unit :=
  modify (·.updateDevice d fun v => { v with flags := v.flags ||| bits })

def clearFlags (d : DeviceId) (bits : UInt32) : Act Unit :=
  modify (·.updateDevice d fun v => { v with flags := v.flags &&& ~~~bits })

end PnpBus
