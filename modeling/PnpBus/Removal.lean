import PnpBus.Device.Membership
import PnpBus.Request.Completion

/-!
# Removing devices

A device is removed in three steps: it enters a removal state, its lock is
drained, and it is deleted, taken off its parent's list and unregistered. The
second step waits; whatever runs meanwhile can still look at the device but
gets no new reference to it.
-/

namespace PnpBus

/-- Enters `removePending` unless the device is on its way out already. -/
def enterRemoval (d : DeviceId) : ExceptT Status Act Unit := do
  match (← device d).state with
  | .removePending | .surpriseRemovePending => pure ()
  | _ => moveDevice d .removePending

/-- Takes `d` off the list of the functional device that enumerated it. -/
def leaveParent (d : DeviceId) : Act Unit := do
  match (← device d).parent? with
  | some p =>
    modify (·.updateDevice p fun v =>
      v.updateLayer fun layer => { layer with children := layer.children.filter (· ≠ d) })
  | none => pure ()

def finishRemoval (b : DriverId) (d : DeviceId) : ExceptT Status Act Unit := do
  if (← device d).state = .removePending then moveDevice d .removed
  moveDevice d .deleted
  leaveParent d
  let v ← device d
  try unregister b d
  catch e =>
    notify (.notUnregistered v.identity.deviceId e)
    throw e
  notify (.recordDeleted v.role v.identity.deviceId)

/-- The caller must have given back its own reference. -/
def drainAndDelete (b : DriverId) (d : DeviceId) : ExceptT Status Call Unit := do
  drain (.device d)
  finishRemoval b d

/-! ## Children of a device that is removed -/

/-- A child caught between a query and its confirmation falls back to where it was. -/
def abandonQuery (d : DeviceId) : ExceptT Status Act Unit := do
  let v ← device d
  match v.state with
  | .startPending | .stopPending =>
    notify (.queryAbandoned v.identity.deviceId v.state)
    restoreDevice d
  | _ => pure ()

def tearDown (b : DriverId) (d : DeviceId) : ExceptT Status Call Unit := do
  abandonQuery d
  enterRemoval d
  drainAndDelete b d

/-- Tears down a child in hand and lets go of it; a failure is reported and otherwise ignored. -/
def tearDownChild (b : DriverId) (d : DeviceId) : Call Unit := do
  match ← (tearDown b d).run with
  | .ok () => pure ()
  | .error e => notify (.childNotTornDown (← device d).identity.deviceId e)
  letGo d

/-- Empties the child list of `d`, takes in hand what was in it and answers that. -/
def takeChildren (d : DeviceId) : Act (List DeviceId) := do
  let children := (← device d).children
  modify (·.updateDevice d fun v => v.updateLayer fun layer => { layer with children := [] })
  takeInHand children
  return children

end PnpBus
