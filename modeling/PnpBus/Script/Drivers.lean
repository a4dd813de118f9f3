import PnpBus.Script.Reference
import PnpBus.Script.Reply

/-!
# Commands about drivers and the selected device

Where no driver is named, the newest one is meant.
-/

namespace PnpBus

inductive DriverCommand where
  | start (service : String) (flags : UInt32) (peer : Option Version)
  | view (b : Option DriverId)
  | unload (b : Option DriverId)
  | attachTopology (entries : ProcessorTable) (online : UInt32) (b : Option DriverId)
  | change (index : UInt32) (c : ProcessorChange) (b : Option DriverId)
  | setInterceptor (i : Interceptor) (b : Option DriverId)
  | readSelection (path : String)
  /-- Compares a selection with answers that are given beforehand. -/
  | compare (selection : Option Selection) (deviceId instanceId : Except Status String)
  | arbitrate (selection : Option Selection) (d : DeviceId) (b : Option DriverId)
  | queryId (d : DeviceId) (t : IdType) (b : Option DriverId)

/-- The topology in the slot of a driver, if it has one. -/
def viewSlot (b : DriverId) : Call (Option Topology) := do
  match ← openSlot b with
  | none => return none
  | some t => return some (← topology t)

def viewDriver (b : DriverId) : Call DriverView := do
  let v ← driver b
  let store := (← get).store
  return {
    service := v.service
    mode := v.mode
    needsReboot := store.needsReboot (statusKey v.service)
    devices := v.registry.size
    isEmpty := v.registry.isEmpty
    hasParameters := store.keyExists (parametersKey v.service)
    processor := bootProcessor
    topology := ← viewSlot b
    hasInterceptor := v.interceptor.isSome }

/-- An identity query that remembers what it was asked. -/
def cannedAnswer (deviceId instanceId : Except Status String) (t : IdType) :
    ExceptT Status (StateM (List IdType)) String := do
  modify (· ++ [t])
  if t = .deviceId then deviceId else instanceId

def performDriver : DriverCommand → Call Reply
  | .start service flags peer => do
    match ← (startDriver service flags (peer.getD Version.current)).run with
    | .ok b => return .driver (.ok (b, (← driver b).mode))
    | .error e => return .driver (.error e)
  | .view b => do return .driverFacts (← viewDriver (← chooseDriver b))
  | .unload b => do return .outcome (← (unload (← chooseDriver b)).run)
  | .attachTopology entries online b => do
    let b ← chooseDriver b
    describeProcessors entries
    match ← (attachTopology b entries online).run with
    | .ok t => return .attachedTopology (.ok (← topology t))
    | .error e => return .attachedTopology (.error e)
  | .change index c b => do
    let b ← chooseDriver b
    let r ← (driverProcessorChange b index c).run
    return .topologyChange r (← viewSlot b)
  | .setInterceptor i b => do
    let b ← chooseDriver b
    modify (·.updateDriver b fun v => { v with interceptor := some (v.interceptor.getD i) })
    return .done
  | .readSelection path => do return .selection (← (readSelection path).run)
  | .compare selection deviceId instanceId => do
    let (r, types) := (arbitrate selection (cannedAnswer deviceId instanceId)).run.run []
    return .asked r types
  | .arbitrate selection d b => do
    needDevice d
    let b ← chooseDriver b
    return .arbitrated (← (arbitrate selection (queryId b d)).run)
  | .queryId d t b => do
    needDevice d
    let b ← chooseDriver b
    return .text (← (queryId b d t).run)

end PnpBus
