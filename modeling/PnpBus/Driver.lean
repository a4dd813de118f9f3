import PnpBus.Device.Registry
import PnpBus.Notice
import PnpBus.Request.Basic

/-!
# Bus drivers

A driver has a registry of the devices it created, a slot for the processor
topology, at most one interceptor, and a claim that is taken when its one
active functional device is attached.
-/

namespace PnpBus

abbrev DriverId := Nat

/-- What an interceptor does with a request that was diverted to it. -/
inductive Diversion where
  /-- Keeps the request and completes it some time later. -/
  | park
  | answer (s : Status)
  /-- Completes the request itself before it answers. -/
  | complete (s returned : Status)
  /-- Sends the request on to the device below. -/
  | forward
  deriving DecidableEq

structure Interceptor where
  bytes : Option UInt64 := none
  diversion : Diversion
  deriving DecidableEq

abbrev TopologyId := Nat

/-- The slot is locked while an attachment fills it, waits included. -/
structure TopologySlot where
  installed : Option TopologyId := none
  held : Bool := false
  deriving DecidableEq

structure Driver where
  service : String
  mode : Mode := .operational
  registry : DeviceRegistry := {}
  slot : TopologySlot := {}
  interceptor : Option Interceptor := none
  activeClaimed : Bool := false

instance : Inhabited Driver := ⟨{ service := "" }⟩

end PnpBus
