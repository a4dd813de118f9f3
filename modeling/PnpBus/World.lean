import PnpBus.Config.Store
import PnpBus.Driver
import PnpBus.Table

/-!
# The world that bus operations change

Configuration, platform, drivers, devices and requests, the jobs that wait for
a processor, and what the clients of the bus hold. The journal tells what
happened since it was last emptied. `World.isSet` says which of the signals
that a caller may wait for are up.
-/

namespace PnpBus

/-! ## Jobs and signals -/

abbrev ProbeId := Nat

/-- A probe on its way to a processor; there it reads who the processor is and fills its slot. -/
structure Job where
  processor : UInt32
  topology : TopologyId
  probe : ProbeId
  deriving DecidableEq

inductive Signal where
  | drained (l : LockRef)
  | completed (r : RequestId)
  | probed (p : ProbeId)
  | raised (e : Nat)
  deriving DecidableEq

structure Journal where
  notices : List Notice := []
  /-- Devices whose requests were diverted. -/
  diverted : List DeviceId := []
  /-- Processors that jobs were sent to. -/
  runs : List UInt32 := []

/-- Objects that belong to no device, no request and no driver. -/
structure Bench where
  locks : Table RemoveLock := {}
  gates : Table FilterGate := {}
  lifecycles : Table Lifecycle := {}
  events : Table Bool := {}

/-- What the clients of the bus hold, numbered per kind in the order in which they got it. -/
structure Clients where
  /-- Remove-lock references, empty once dropped. -/
  tokens : Table (Option DeviceId) := {}
  /-- Gate tickets, empty once dropped. -/
  tickets : Table (Option GateRef) := {}
  requests : List RequestId := []
  topologies : List TopologyId := []
  /-- Devices whose handle was given up; every other device is known by its number. -/
  forgotten : List DeviceId := []

/-! ## Worlds -/

structure World where
  store : Store := {}
  platform : Platform := {}
  drivers : Table Driver := {}
  devices : Table Device := {}
  requests : Table Request := {}
  topologies : Table Topology := {}
  /-- What a probe found, once it has run. -/
  probes : Table (Option (Except Status Unit)) := {}
  /-- The oldest job comes first. -/
  jobs : List Job := []
  /-- Devices that the calls under way have in hand, those of the innermost call first. -/
  inHand : List DeviceId := []
  clients : Clients := {}
  bench : Bench := {}
  journal : Journal := {}

namespace World

/-! ## Reading -/

def driver (w : World) (b : DriverId) : Driver := w.drivers.get b

def device (w : World) (d : DeviceId) : Device := w.devices.get d

def request (w : World) (r : RequestId) : Request := w.requests.get r

def lock (w : World) : LockRef → RemoveLock
  | .device d => (w.device d).lock
  | .free n => w.bench.locks.get n

def gate (w : World) : GateRef → FilterGate
  | .device d => ((w.device d).layer?.map (·.gate)).getD default
  | .free n => w.bench.gates.get n

/-- The devices a request for `d` passes, from `d` downwards. -/
def stack (w : World) (d : DeviceId) : Stack :=
  match (w.device d).extension with
  | .physical _ => .physical d
  | .functional layer => .functional d layer.lower

def isSet (w : World) : Signal → Bool
  | .drained l => (w.lock l).latch
  | .completed r => (w.request r).signaled
  | .probed p => (w.probes.get p).isSome
  | .raised e => w.bench.events.get e

/-! ## Changing -/

def updateDriver (w : World) (b : DriverId) (f : Driver → Driver) : World :=
  { w with drivers := w.drivers.modify b f }

def updateDevice (w : World) (d : DeviceId) (f : Device → Device) : World :=
  { w with devices := w.devices.modify d f }

def updateRequest (w : World) (r : RequestId) (f : Request → Request) : World :=
  { w with requests := w.requests.modify r f }

def updateTopology (w : World) (t : TopologyId) (f : Topology → Topology) : World :=
  { w with topologies := w.topologies.modify t f }

def updateClients (w : World) (f : Clients → Clients) : World := { w with clients := f w.clients }

def updateBench (w : World) (f : Bench → Bench) : World := { w with bench := f w.bench }

def updateJournal (w : World) (f : Journal → Journal) : World := { w with journal := f w.journal }

def setLock (w : World) (l : LockRef) (lock : RemoveLock) : World :=
  match l with
  | .device d => w.updateDevice d fun v => { v with lock }
  | .free n => w.updateBench fun b => { b with locks := b.locks.modify n fun _ => lock }

def setGate (w : World) (g : GateRef) (gate : FilterGate) : World :=
  match g with
  | .device d => w.updateDevice d fun v => v.updateLayer fun layer => { layer with gate }
  | .free n => w.updateBench fun b => { b with gates := b.gates.modify n fun _ => gate }

/-! ## Reading after a change

Each change leaves alone what it is not about. -/

variable (w : World)

theorem device_updateDevice (d x : DeviceId) (f : Device → Device) :
    (w.updateDevice d f).device x = if x = d ∧ d < w.devices.size then f (w.device d) else w.device x :=
  Table.get_modify ..

@[simp] theorem size_updateDevice (d : DeviceId) (f : Device → Device) :
    (w.updateDevice d f).devices.size = w.devices.size := Table.size_modify ..

@[simp] theorem requests_updateDevice (d : DeviceId) (f : Device → Device) :
    (w.updateDevice d f).requests = w.requests := rfl

@[simp] theorem request_updateDevice (d : DeviceId) (f : Device → Device) (r : RequestId) :
    (w.updateDevice d f).request r = w.request r := rfl

@[simp] theorem drivers_updateDevice (d : DeviceId) (f : Device → Device) :
    (w.updateDevice d f).drivers = w.drivers := rfl

@[simp] theorem driver_updateDevice (d : DeviceId) (f : Device → Device) (b : DriverId) :
    (w.updateDevice d f).driver b = w.driver b := rfl

@[simp] theorem clients_updateDevice (d : DeviceId) (f : Device → Device) :
    (w.updateDevice d f).clients = w.clients := rfl

@[simp] theorem bench_updateDevice (d : DeviceId) (f : Device → Device) :
    (w.updateDevice d f).bench = w.bench := rfl

@[simp] theorem journal_updateDevice (d : DeviceId) (f : Device → Device) :
    (w.updateDevice d f).journal = w.journal := rfl

@[simp] theorem lock_device (d : DeviceId) : w.lock (.device d) = (w.device d).lock := rfl

theorem request_updateRequest (r x : RequestId) (f : Request → Request) :
    (w.updateRequest r f).request x = if x = r ∧ r < w.requests.size then f (w.request r) else w.request x :=
  Table.get_modify ..

@[simp] theorem requests_size_updateRequest (r : RequestId) (f : Request → Request) :
    (w.updateRequest r f).requests.size = w.requests.size := Table.size_modify ..

@[simp] theorem devices_updateRequest (r : RequestId) (f : Request → Request) :
    (w.updateRequest r f).devices = w.devices := rfl

@[simp] theorem device_updateRequest (r : RequestId) (f : Request → Request) (d : DeviceId) :
    (w.updateRequest r f).device d = w.device d := rfl

@[simp] theorem drivers_updateRequest (r : RequestId) (f : Request → Request) :
    (w.updateRequest r f).drivers = w.drivers := rfl

@[simp] theorem driver_updateRequest (r : RequestId) (f : Request → Request) (b : DriverId) :
    (w.updateRequest r f).driver b = w.driver b := rfl

@[simp] theorem clients_updateRequest (r : RequestId) (f : Request → Request) :
    (w.updateRequest r f).clients = w.clients := rfl

@[simp] theorem bench_updateRequest (r : RequestId) (f : Request → Request) :
    (w.updateRequest r f).bench = w.bench := rfl

@[simp] theorem journal_updateRequest (r : RequestId) (f : Request → Request) :
    (w.updateRequest r f).journal = w.journal := rfl

theorem driver_updateDriver (b x : DriverId) (f : Driver → Driver) :
    (w.updateDriver b f).driver x = if x = b ∧ b < w.drivers.size then f (w.driver b) else w.driver x :=
  Table.get_modify ..

@[simp] theorem size_updateDriver (b : DriverId) (f : Driver → Driver) :
    (w.updateDriver b f).drivers.size = w.drivers.size := Table.size_modify ..

@[simp] theorem devices_updateDriver (b : DriverId) (f : Driver → Driver) :
    (w.updateDriver b f).devices = w.devices := rfl

@[simp] theorem device_updateDriver (b : DriverId) (f : Driver → Driver) (d : DeviceId) :
    (w.updateDriver b f).device d = w.device d := rfl

@[simp] theorem requests_updateDriver (b : DriverId) (f : Driver → Driver) :
    (w.updateDriver b f).requests = w.requests := rfl

@[simp] theorem request_updateDriver (b : DriverId) (f : Driver → Driver) (r : RequestId) :
    (w.updateDriver b f).request r = w.request r := rfl

@[simp] theorem clients_updateDriver (b : DriverId) (f : Driver → Driver) :
    (w.updateDriver b f).clients = w.clients := rfl

@[simp] theorem bench_updateDriver (b : DriverId) (f : Driver → Driver) :
    (w.updateDriver b f).bench = w.bench := rfl

@[simp] theorem journal_updateDriver (b : DriverId) (f : Driver → Driver) :
    (w.updateDriver b f).journal = w.journal := rfl

end World

end PnpBus
