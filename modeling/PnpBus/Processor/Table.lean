import PnpBus.Status

/-!
# The firmware's list of processors

Entries are looked up by local APIC id, and the first entry with that id
counts. Disabled entries can be looked up as well.
-/

namespace PnpBus

inductive ProcessorState where
  | disabled
  | waitingForSipi
  | running
  deriving DecidableEq

namespace ProcessorState

def all : List ProcessorState := [.disabled, .waitingForSipi, .running]

def name : ProcessorState → String
  | disabled => "Disabled"
  | waitingForSipi => "WaitingForSipi"
  | running => "Running"

end ProcessorState

structure ProcessorEntry where
  uid : UInt32
  apicId : UInt32
  state : ProcessorState
  isApplication : Bool
  deriving DecidableEq

/-- The boot processor comes first, the others follow in firmware order. -/
abbrev ProcessorTable := List ProcessorEntry

namespace ProcessorTable

def usable (t : ProcessorTable) : List ProcessorEntry := t.filter (·.state ≠ .disabled)

def uidOfApic (t : ProcessorTable) (apicId : UInt32) : Except Status UInt32 :=
  match t.find? (·.apicId = apicId) with
  | some e => .ok e.uid
  | none => .error .notFound

end ProcessorTable

end PnpBus
