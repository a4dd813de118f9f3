import PnpBus.Status

/-!
# Device identities

A device is named by a device id and an instance id. The device id is not
empty, and both are shorter than `Identity.maxLength` bytes; `Identity.make`
refuses anything else.
-/

namespace PnpBus

structure Identity where
  deviceId : String
  instanceId : String
  deriving DecidableEq

namespace Identity

def maxLength : Nat := 200

def make (deviceId instanceId : String) : Except Status Identity :=
  if deviceId = "" ∨ maxLength ≤ deviceId.utf8ByteSize ∨ maxLength ≤ instanceId.utf8ByteSize then
    .error .invalidParameter
  else .ok ⟨deviceId, instanceId⟩

end Identity

/-- A physical device is one on a bus; a functional one is a driver's layer over another device. -/
inductive Role where
  | physical
  | functional
  deriving DecidableEq

namespace Role

def all : List Role := [.physical, .functional]

def name : Role → String
  | physical => "Physical"
  | functional => "Functional"

end Role

end PnpBus
