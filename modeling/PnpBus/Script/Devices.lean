import PnpBus.Script.Reference
import PnpBus.Script.Reply

/-! # Commands about devices -/

namespace PnpBus

inductive DeviceCommand where
  | create (deviceId instanceId : String) (b : Option DriverId)
  | attach (d : DeviceId) (b : Option DriverId)
  | addChild (d : DeviceId) (deviceId instanceId : String) (b : Option DriverId)
  /-- Registers a layer over `lower`, or else a physical device. -/
  | register (deviceId instanceId : String) (lower : Option DeviceId) (active : Bool) (parent : Option DeviceId)
    (b : Option DriverId)
  | unregister (d : DeviceId) (b : Option DriverId)
  | find (deviceId instanceId : String) (role : Option Role) (b : Option DriverId)
  | records (b : Option DriverId)
  | forget (d : DeviceId)
  | move (d : DeviceId) (target : PnpState)
  | restore (d : DeviceId)
  | setPower (d : DeviceId) (c : PowerChange)
  | setFlags (d : DeviceId) (bits : UInt32)
  | clearFlags (d : DeviceId) (bits : UInt32)
  | acquire (d : DeviceId)
  | dropToken (n : Nat)
  | route (d : DeviceId)

def created (r : Except Status DeviceId) : Reply := .device (r.map some)

/-- Makes the identity first; without one nothing is created. -/
def createNamed (deviceId instanceId : String) (make : Identity → ExceptT Status Act DeviceId) : Act Reply :=
  created <$> (do make (← Identity.make deviceId instanceId) : ExceptT Status Act DeviceId).run

def registerNamed (b : DriverId) (deviceId instanceId : String) (lower : Option DeviceId) (active : Bool)
    (parent : Option DeviceId) : Act Reply :=
  createNamed deviceId instanceId fun identity =>
    match lower with
    | some lower => registerOver b identity lower active
    | none => register b identity (.physical parent)

/-- The devices of a registry: first those that clients know, by number. -/
def viewRegistry (b : DriverId) : Act Reply := do
  let w ← get
  let ds := (w.driver b).registry.devices
  let known := w.devices.numbers.filter fun d => ds.contains d && w.isKnown d
  let others := ds.filter fun d => !w.isKnown d
  return .devices ((known ++ others).map w.shown)

def viewFlags (d : DeviceId) : Act Reply := return .number (← device d).knownFlags.toNat

def acquireToken (d : DeviceId) : ExceptT Status Act Nat := do
  acquireLock (.device d)
  modifyGet fun w => (w.clients.tokens.size, w.updateClients fun c => { c with tokens := c.tokens.push (some d) })

/-- Gives a client's reference back, unless that was done before. -/
def dropToken (n : Nat) : Act Bool := do
  match (← get).clients.tokens.get n with
  | none => return false
  | some d =>
    modify (·.updateClients fun c => { c with tokens := c.tokens.modify n fun _ => none })
    releaseLock (.device d)
    return true

def performDevice : DeviceCommand → Call Reply
  | .create deviceId instanceId b => do
    let b ← chooseDriver b
    createNamed deviceId instanceId (createPhysical b)
  | .attach d b => do
    needDevice d
    return .device (← (attachDevice (← chooseDriver b) d).run)
  | .addChild d deviceId instanceId b => do
    needDevice d
    let b ← chooseDriver b
    createNamed deviceId instanceId (addChild b d)
  | .register deviceId instanceId lower active parent b => do
    lower.forM needDevice
    parent.forM needDevice
    let b ← chooseDriver b
    registerNamed b deviceId instanceId lower active parent
  | .unregister d b => do
    needDevice d
    return .outcome (← (unregister (← chooseDriver b) d).run)
  | .find deviceId instanceId role b => do
    let registry := (← driver (← chooseDriver b)).registry
    let w ← get
    return .found <| (Identity.make deviceId instanceId).map fun identity =>
      (match role with
        | some role => registry.findRole? identity role
        | none => registry.find? identity).map w.shown
  | .records b => do viewRegistry (← chooseDriver b)
  | .forget d => do
    needDevice d
    modify (·.updateClients fun c => { c with forgotten := c.forgotten ++ [d] })
    return .done
  | .move d target => do
    needDevice d
    return .outcome (← (moveDevice d target).run)
  | .restore d => do
    needDevice d
    return .outcome (← (restoreDevice d).run)
  | .setPower d c => do
    needDevice d
    return .outcome (← (changePower d c).run)
  | .setFlags d bits => do
    needDevice d
    setFlags d bits
    viewFlags d
  | .clearFlags d bits => do
    needDevice d
    clearFlags d bits
    viewFlags d
  | .acquire d => do
    needDevice d
    let r ← (acquireToken d).run
    Call.checkpoint
    let w ← get
    return .token (r.map fun n => (n, w.shown d))
  | .dropToken n => do
    ensure (n < (← get).clients.tokens.size)
    return .flag (← dropToken n)
  | .route d => do
    needDevice d
    return .route (← device d).route

end PnpBus
