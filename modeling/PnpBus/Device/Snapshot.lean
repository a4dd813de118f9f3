import PnpBus.World

/-!
# What a device looks like from outside

`World.snapshot` is one line per device, in the order of creation. Devices are
shown by number while a client knows them. A parent is held weakly: it is
shown as gone when nothing reaches it any more from a client, a driver, a
request or a call under way.
-/

namespace PnpBus

/-- How a device appears in an answer. -/
inductive Shown where
  | number (d : DeviceId)
  | unknown
  deriving DecidableEq

def Shown.text : Shown → String
  | number d => toString d
  | unknown => "\"?\""

namespace World

def isKnown (w : World) (d : DeviceId) : Bool := d < w.devices.size && !w.clients.forgotten.contains d

def shown (w : World) (d : DeviceId) : Shown := if w.isKnown d then .number d else .unknown

/-! ## Reachability -/

/-- Devices that something holds directly. -/
def held (w : World) : List DeviceId :=
  w.devices.numbers.filter w.isKnown
    ++ w.drivers.items.flatMap (·.registry.devices)
    ++ w.clients.tokens.items.filterMap id
    ++ w.inHand
    ++ w.requests.items.flatMap fun q => q.locks ++ q.information.devices

/-- Devices that a device holds: those below it and its children. -/
def holds (w : World) (d : DeviceId) : List DeviceId := (w.stack d).members ++ (w.device d).children

def reach (w : World) : Nat → List DeviceId → List DeviceId
  | 0, ds => ds
  | n + 1, ds => w.reach n ((ds ++ ds.flatMap w.holds).eraseDups)

/-- Whether the device still exists for those who hold it only weakly. -/
def isAlive (w : World) (d : DeviceId) : Bool := (w.reach w.devices.size w.held).contains d

/-! ## Lines -/

/-- Whether a driver's registry holds this very device under its identity and role. -/
def isRegistered (w : World) (d : DeviceId) : Bool :=
  let v := w.device d
  w.drivers.items.any fun b => b.registry.findRole? v.identity v.role == some d

def drainText (l : RemoveLock) : String :=
  if !l.draining then "no" else if l.isDrained then "done" else "waiting"

def extensionText (w : World) : Extension → String
  | .physical none => ""
  | .physical (some p) => " parent=" ++ if w.isAlive p then (w.shown p).text else "\"gone\""
  | .functional layer =>
    " lower=" ++ (w.shown layer.lower.top).text ++ " active=" ++ (if layer.active then "true" else "false")
      ++ " filter=" ++ layer.gate.state.name ++ ":" ++ toString layer.gate.inFlight.toNat
      ++ " children=[" ++ ",".intercalate (layer.children.map fun c => (w.shown c).text) ++ "]"

def deviceText (w : World) (d : DeviceId) : String :=
  if w.isKnown d then
    let v := w.device d
    v.role.name ++ " " ++ v.lifecycle.current.name ++ "<" ++ v.lifecycle.previous.name
      ++ " " ++ v.power.system.name ++ "/" ++ v.power.device.name
      ++ " flags=" ++ toString v.knownFlags.toNat
      ++ " refs=" ++ toString v.lock.outstanding.toNat
      ++ " drain=" ++ drainText v.lock
      ++ " reg=" ++ (if w.isRegistered d then "yes" else "no")
      ++ w.extensionText v.extension
  else "forgotten"

def snapshot (w : World) : List String := w.devices.numbers.map w.deviceText

end World

end PnpBus
