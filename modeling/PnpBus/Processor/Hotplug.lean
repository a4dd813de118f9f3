import PnpBus.Device.Membership
import PnpBus.Processor.Probe

/-!
# Processors that come online

A topology grows when the arrival of a processor begins and is probed when it
ends. A driver has at most one topology. The slot for it is locked for the
whole of an attachment, probes included: a caller that comes upon the locked
slot spins and can never go on.
-/

namespace PnpBus

/-! ## Topologies -/

def describeProcessors (entries : ProcessorTable) : Act Unit := notify (.processorsDescribed entries.length)

def newTopology (firmware : ProcessorTable) : Act TopologyId :=
  modifyGet fun w => (w.topologies.size, { w with topologies := w.topologies.push { firmware } })

def applyChange (t : TopologyId) (index : UInt32) : ProcessorChange → ExceptT Status Call Unit
  | .addStart => modify (·.updateTopology t fun v => v.grow index)
  | .addComplete => populate t index
  | .addFailed => notify (.processorFailed index)

def changeProcessor (t : TopologyId) (index : UInt32) (c : ProcessorChange) : ExceptT Status Call Unit :=
  ExceptT.mk do
    notify (.changeEntered index c)
    let outcome ← (applyChange t index c).run
    notify (.changeLeft index c)
    return outcome

/-- Both halves of an arrival, for that many processors from `index` on. -/
def registerFrom (t : TopologyId) (index : UInt32) : Nat → ExceptT Status Call Unit
  | 0 => pure ()
  | n + 1 => do
    changeProcessor t index .addStart
    changeProcessor t index .addComplete
    registerFrom t (index + 1) n

/-- Registers the first `count` processors, in order, as if they arrived now. -/
def registerExisting (t : TopologyId) (count : UInt32) : ExceptT Status Call Unit := registerFrom t 0 count.toNat

/-! ## The topology of a driver -/

def setSlot (b : DriverId) (slot : TopologySlot) : Act Unit :=
  modify (·.updateDriver b fun v => { v with slot })

/-- The content of the slot, for a caller that finds it unlocked. -/
def openSlot (b : DriverId) : Call (Option TopologyId) := do
  let slot := (← driver b).slot
  if slot.held then Call.halt .deadlock else return slot.installed

def attachTopology (b : DriverId) (firmware : ProcessorTable) (online : UInt32) :
    ExceptT Status Call TopologyId := do
  if (← driver b).mode = .safeBoot then throw .notSupported
  if (← openSlot b).isSome then throw .alreadyExists
  let t ← newTopology firmware
  setSlot b { held := true }
  try registerExisting t online
  catch e =>
    setSlot b {}
    throw e
  setSlot b { installed := some t }
  return t

def driverProcessorChange (b : DriverId) (index : UInt32) (c : ProcessorChange) : ExceptT Status Call Unit := do
  match ← openSlot b with
  | some t => changeProcessor t index c
  | none => throw .invalidState

/-- Refuses while the registry still holds a device; then the topology goes. -/
def unload (b : DriverId) : ExceptT Status Call Unit := do
  notify .entered
  let v ← driver b
  unless v.registry.isEmpty do
    notify (.devicesPresent v.service v.registry.size)
    throw .busy
  let _ ← openSlot b
  setSlot b {}
  notify .left

end PnpBus
