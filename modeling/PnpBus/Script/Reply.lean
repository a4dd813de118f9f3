import PnpBus.Attach
import PnpBus.Device.Snapshot
import PnpBus.Processor.Hotplug

/-!
# Answers to commands

`Reply` has one form per kind of answer. Devices in an answer are shown by
number while clients know them.
-/

namespace PnpBus

/-- What a client sees of a request. -/
structure RequestView where
  number : Nat
  serial : Nat
  status : Status
  completed : Bool
  signaled : Bool
  held : Nat
  information : Information
  /-- The devices of a relation list, as far as clients know them. -/
  related : List Shown

structure DriverView where
  service : String
  mode : Mode
  needsReboot : Bool
  devices : Nat
  isEmpty : Bool
  hasParameters : Bool
  processor : UInt32
  topology : Option Topology
  hasInterceptor : Bool

inductive Reply where
  | done
  | flag (b : Bool)
  | number (n : Nat)
  | name (s : String)
  | names (ss : List String)
  | outcome (r : Except Status Unit)
  -- values
  | statusFacts (s : Status)
  | dataFacts (asString : Except StoreError String) (asU32 : Except StoreError UInt32) (text : String)
  | versionFacts (text : String) (isCurrent : Bool)
  | stateFacts (s : PnpState) (routes : List Route)
  | minorFacts (m : Minor)
  | identity (r : Except Status Identity)
  -- configuration
  | stored (r : Except StoreError Unit)
  | value (r : Except StoreError Data)
  | erased (r : Except StoreError Bool)
  | subtree (k : Option Key)
  -- single objects
  | lifecycle (r : Except Status Unit) (m : Lifecycle)
  | lock (r : Except Status Unit) (l : RemoveLock)
  | gate (r : Except Status Unit) (g : FilterGate)
  | ticket (number : Option Nat) (g : FilterGate)
  -- processors
  | cpu (r : Except Status CpuIdentity)
  | table (t : ProcessorTable) (found : List (Except Status UInt32))
  | topology (t : Topology)
  | topologyChange (r : Except Status Unit) (t : Option Topology)
  | attachedTopology (r : Except Status Topology)
  | slot (isFilled : Bool) (processorId : Option UInt32)
  -- selection
  | selection (r : Except Status (Option Selection))
  | arbitrated (r : Except Status Bool)
  | asked (r : Except Status Bool) (types : List IdType)
  | text (r : Except Status String)
  -- drivers
  | driver (r : Except Status (DriverId × Mode))
  | driverFacts (v : DriverView)
  -- devices
  | device (r : Except Status (Option DeviceId))
  | found (r : Except Status (Option Shown))
  | devices (ds : List Shown)
  | token (r : Except Status (Nat × Shown))
  | route (r : Route)
  -- requests
  | request (v : RequestView)
  | answered (s : Status) (v : RequestView)

end PnpBus
