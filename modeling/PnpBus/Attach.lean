import PnpBus.Selection

/-!
# Bringing a driver up and attaching it to devices

`startDriver` decides the mode of a driver from the flags, the configuration
and the version of its peer. An operational driver attaches a functional
device over a physical one, active at most once in its life, and an active
functional device can have children.
-/

namespace PnpBus

/-! ## The reboot flag -/

def requestReboot (key : String) : Act Unit := do
  match (← get).store.setValue key needReboot (.u32 1) with
  | .ok store => modify fun w => { w with store }
  | .error e => notify (.rebootNotFlagged key e)

/-- Refuses a peer of another version and asks for a reboot. -/
def checkPeer (module : String) (peer : Version) (key : String) : ExceptT Status Act Unit := do
  unless peer = Version.current do
    notify (.incompatible module peer)
    requestReboot key
    throw .incompatibleVersion

/-! ## Drivers -/

def addDriver (v : Driver) : Act DriverId :=
  modifyGet fun w => (w.drivers.size, { w with drivers := w.drivers.push v })

/-- In safe mode a driver stays inert and does not look at the configuration. -/
def isSafeBoot (flags : UInt32) : Bool := flags &&& 1 = 1

def createKey (path : String) : ExceptT Status Act Unit := do
  match (← get).store.createKey path with
  | .ok store => modify fun w => { w with store }
  | .error e => throw e.status

def startDriver (service : String) (flags : UInt32) (peer : Version) : ExceptT Status Act DriverId := do
  notify .entered
  if isSafeBoot flags then
    notify (.safeBoot service)
    notify .left
    return ← addDriver { service, mode := .safeBoot }
  notify (.starting service)
  unless (← get).store.keyExists (parametersKey service) do
    notify (.missingKey service (parametersKey service))
    throw .notFound
  unless (← get).store.keyExists (statusKey service) do
    createKey (statusKey service)
  let mode ←
    try
      checkPeer service peer (statusKey service)
      pure Mode.operational
    catch e =>
      notify (.runningDegraded service e)
      pure Mode.degraded
  notify .left
  addDriver { service, mode }

/-! ## Devices of a driver -/

def finishCreation (d : DeviceId) : Act Unit := clearFlags d Flags.initializing

/-- A physical device that the parent bus hands over. -/
def createPhysical (b : DriverId) (identity : Identity) : ExceptT Status Act DeviceId := do
  let d ← register b identity (.physical none)
  finishCreation d
  return d

/-- A functional device over `lower`, whatever the driver's mode. -/
def registerOver (b : DriverId) (identity : Identity) (lower : DeviceId) (active : Bool) :
    ExceptT Status Act DeviceId := do
  register b identity (.functional { lower := (← get).stack lower, active })

def setClaim (b : DriverId) (claimed : Bool) : Act Unit :=
  modify (·.updateDriver b fun v => { v with activeClaimed := claimed })

/-- Takes the claim to the active device for a device that matches, if it is free. -/
def claimActive (b : DriverId) (identity : Identity) (matched : Bool) : Act Bool := do
  let active := matched && !(← driver b).activeClaimed
  if matched then
    setClaim b true
    unless active do notify (.alreadyActive identity.deviceId)
  return active

/-- Registers the functional device over `d`. A claim that was taken for it is given back if that fails. -/
def attachOver (b : DriverId) (identity : Identity) (d : DeviceId) (matched : Bool) :
    ExceptT Status Act DeviceId := do
  let active ← claimActive b identity matched
  let f ←
    try registerOver b identity d active
    catch e =>
      if active then setClaim b false
      throw e
  finishCreation f
  notify (.attached identity active)
  return f

/-- Attaches a functional device over `d`, or none if the driver does not attach to anything. -/
def attachDevice (b : DriverId) (d : DeviceId) : ExceptT Status Call (Option DeviceId) := do
  notify .entered
  let v ← device d
  let owner ← driver b
  unless owner.mode = .operational do
    notify (.notAttaching owner.service owner.mode v.identity.deviceId)
    return none
  unless v.role = .physical do throw .invalidParameter
  let selection ← readSelection (parametersKey owner.service)
  let matched ← arbitrate selection (queryId b d)
  let f ← attachOver b v.identity d matched
  notify .left
  return some f

/-- A child of an active functional device, listed after its elder siblings. -/
def addChild (b : DriverId) (f : DeviceId) (identity : Identity) : ExceptT Status Act DeviceId := do
  match (← device f).layer? with
  | none => throw .invalidParameter
  | some layer =>
    unless layer.active do throw .notSupported
    let d ← register b identity (.physical (some f))
    finishCreation d
    modify (·.updateDevice f fun v => v.updateLayer fun layer => { layer with children := layer.children ++ [d] })
    return d

end PnpBus
