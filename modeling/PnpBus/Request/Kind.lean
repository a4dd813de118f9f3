import PnpBus.Power
import PnpBus.Status

/-!
# What a request asks for

A request is a PnP minor function, a power change or plain I/O. `name` is the
bare name of a minor function and `text` the form with its arguments that log
lines show.
-/

namespace PnpBus

inductive IdType where
  | deviceId
  | hardwareIds
  | compatibleIds
  | instanceId
  deriving DecidableEq

namespace IdType

def all : List IdType := [.deviceId, .hardwareIds, .compatibleIds, .instanceId]

def name : IdType → String
  | deviceId => "DeviceId"
  | hardwareIds => "HardwareIds"
  | compatibleIds => "CompatibleIds"
  | instanceId => "InstanceId"

end IdType

inductive RelationType where
  | bus
  | ejection
  | removal
  | target
  | power
  deriving DecidableEq

namespace RelationType

def all : List RelationType := [.bus, .ejection, .removal, .target, .power]

def name : RelationType → String
  | bus => "BusRelations"
  | ejection => "EjectionRelations"
  | removal => "RemovalRelations"
  | target => "TargetDeviceRelation"
  | power => "PowerRelations"

end RelationType

inductive Minor where
  | startDevice
  | queryStopDevice
  | cancelStopDevice
  | stopDevice
  | queryRemoveDevice
  | cancelRemoveDevice
  | removeDevice
  | surpriseRemoval
  | queryId (t : IdType)
  | queryRelations (t : RelationType)
  deriving DecidableEq

namespace Minor

def name : Minor → String
  | startDevice => "StartDevice"
  | queryStopDevice => "QueryStopDevice"
  | cancelStopDevice => "CancelStopDevice"
  | stopDevice => "StopDevice"
  | queryRemoveDevice => "QueryRemoveDevice"
  | cancelRemoveDevice => "CancelRemoveDevice"
  | removeDevice => "RemoveDevice"
  | surpriseRemoval => "SurpriseRemoval"
  | queryId _ => "QueryId"
  | queryRelations _ => "QueryDeviceRelations"

def text : Minor → String
  | queryId t => "QueryId(" ++ t.name ++ ")"
  | queryRelations t => "QueryDeviceRelations(" ++ t.name ++ ")"
  | m => m.name

/-- What a device answers to a minor function it does not handle: queries are not supported, the rest succeeds. -/
def unhandled : Minor → Status
  | queryId _ | queryRelations _ => .notSupported
  | _ => .success

end Minor

def PowerChange.text : PowerChange → String
  | .system value => "SetSystem(" ++ value.name ++ ")"
  | .device value => "SetDevice(" ++ value.name ++ ")"

inductive Kind where
  | pnp (m : Minor)
  | power (c : PowerChange)
  | create
  | close
  | read (offset len : UInt64)
  | write (offset len : UInt64)
  | deviceControl (code : UInt32)
  deriving DecidableEq

namespace Kind

def transferText (verb : String) (offset len : UInt64) : String :=
  verb ++ " \x7b offset: " ++ toString offset.toNat ++ ", len: " ++ toString len.toNat ++ " \x7d"

def text : Kind → String
  | pnp m => "Pnp(" ++ m.text ++ ")"
  | power c => "Power(" ++ c.text ++ ")"
  | create => "Create"
  | close => "Close"
  | read offset len => transferText "Read" offset len
  | write offset len => transferText "Write" offset len
  | deviceControl code => "DeviceControl(" ++ toString code.toNat ++ ")"

/-- Whether the kind is plain I/O, which an interceptor may divert. -/
def isIo : Kind → Bool
  | pnp _ | power _ => false
  | _ => true

end Kind

end PnpBus
