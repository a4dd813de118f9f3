import PnpBus.Device.Actions

/-!
# Joining and leaving a driver's registry

Registration is the only way a device comes into being. A device leaves the
registry when its lock is drained, and only the very device that stands under
its key can leave.
-/

namespace PnpBus

def driver (b : DriverId) : Act Driver := return (← get).driver b

def Device.key (v : Device) : DeviceKey := ⟨v.identity, v.role⟩

def register (b : DriverId) (identity : Identity) (extension : Extension) : ExceptT Status Act DeviceId := do
  let registry := (← driver b).registry
  if (registry.findRole? identity extension.role).isSome then throw .alreadyExists
  let d ← modifyGet fun w => (w.devices.size, { w with devices := w.devices.push { identity, extension } })
  notify (.registered extension.role identity)
  modify (·.updateDriver b fun v => { v with registry := v.registry.insert ⟨identity, extension.role⟩ d })
  return d

def unregister (b : DriverId) (d : DeviceId) : ExceptT Status Act Unit := do
  let v ← device d
  unless v.lock.isDrained do
    notify (.unregisterHeld v.identity.deviceId)
    throw .busy
  if (← driver b).registry.findRole? v.identity v.role = some d then
    modify (·.updateDriver b fun v' => { v' with registry := v'.registry.erase v.key })
  else throw .notFound

end PnpBus
