import PnpBus.Call
import PnpBus.Device.Snapshot

/-!
# Numbers that clients use

Clients name things by number. A number that was not given out, or that
belongs to a forgotten device, ends the script.
-/

namespace PnpBus

def ensure (valid : Bool) : Call Unit := if valid then pure () else Call.halt .unknownReference

def need {α : Type} : Option α → Call α
  | some a => pure a
  | none => Call.halt .unknownReference

def needDevice (d : DeviceId) : Call Unit := do ensure ((← get).isKnown d)

/-- The driver of that number, or the newest one. -/
def chooseDriver (b : Option DriverId) : Call DriverId := do
  let n := (← get).drivers.size
  let b := b.getD (n - 1)
  ensure (b < n)
  return b

def needRequest (n : Nat) : Call RequestId := do need (← get).clients.requests[n]?

def needTopology (n : Nat) : Call TopologyId := do need (← get).clients.topologies[n]?

def needLock : LockRef → Call Unit
  | .device d => needDevice d
  | .free n => do ensure (n < (← get).bench.locks.size)

/-- Only functional devices have a gate. -/
def needGate : GateRef → Call Unit
  | .device d => do
    needDevice d
    ensure ((← get).device d).layer?.isSome
  | .free n => do ensure (n < (← get).bench.gates.size)

end PnpBus
