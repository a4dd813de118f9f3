import PnpBus.Device.Record
import PnpBus.Request.Kind

/-!
# Requests

A request carries what it asks for and what has been answered so far. While it
is under way it pins devices with references to their remove locks and gates
with their tickets; completion gives all of them back.
-/

namespace PnpBus

/-- Requests are numbered in the order of their creation. -/
abbrev RequestId := Nat

/-- A gate of a functional device, or one that stands by itself. -/
inductive GateRef where
  | device (d : DeviceId)
  | free (n : Nat)
  deriving DecidableEq

/-- A remove lock of a device, or one that stands by itself. -/
inductive LockRef where
  | device (d : DeviceId)
  | free (n : Nat)
  deriving DecidableEq

inductive Information where
  | none
  | id (s : String)
  | ids (ss : List String)
  | relations (ds : List DeviceId)
  | bytes (n : UInt64)
  deriving DecidableEq

/-- The devices that an answer names. -/
def Information.devices : Information → List DeviceId
  | .relations ds => ds
  | _ => []

structure Request where
  kind : Kind
  status : Status := .notSupported
  information : Information := .none
  completed : Bool := false
  /-- The completion event; set last, when everything has been given back. -/
  signaled : Bool := false
  locks : List DeviceId := []
  tickets : List GateRef := []

instance : Inhabited Request := ⟨{ kind := .create }⟩

end PnpBus
