/-!
# Power states

System and device power are kept beside the PnP state of a device, not inside
it: any state may follow any other.
-/

namespace PnpBus

inductive SystemPower where
  | unspecified
  | working
  | sleeping1
  | sleeping2
  | sleeping3
  | hibernate
  | shutdown
  deriving DecidableEq, Inhabited

namespace SystemPower

def all : List SystemPower :=
  [.unspecified, .working, .sleeping1, .sleeping2, .sleeping3, .hibernate, .shutdown]

def name : SystemPower → String
  | unspecified => "Unspecified"
  | working => "Working"
  | sleeping1 => "Sleeping1"
  | sleeping2 => "Sleeping2"
  | sleeping3 => "Sleeping3"
  | hibernate => "Hibernate"
  | shutdown => "Shutdown"

end SystemPower

inductive DevicePower where
  | unspecified
  | d0
  | d1
  | d2
  | d3
  deriving DecidableEq, Inhabited

namespace DevicePower

def all : List DevicePower := [.unspecified, .d0, .d1, .d2, .d3]

def name : DevicePower → String
  | unspecified => "Unspecified"
  | d0 => "D0"
  | d1 => "D1"
  | d2 => "D2"
  | d3 => "D3"

end DevicePower

structure Power where
  system : SystemPower := .working
  device : DevicePower := .d0
  deriving DecidableEq, Inhabited

/-- A power request names one of the two states and its new value. -/
inductive PowerChange where
  | system (value : SystemPower)
  | device (value : DevicePower)
  deriving DecidableEq

def Power.apply (p : Power) : PowerChange → Power
  | .system value => { p with system := value }
  | .device value => { p with device := value }

end PnpBus
