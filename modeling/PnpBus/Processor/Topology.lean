import PnpBus.Processor.Platform
import PnpBus.Processor.Table

/-!
# The processor table of the running system

One slot per processor index, empty until a probe that runs on the processor
itself has filled it. The table only grows.
-/

namespace PnpBus

inductive ProcessorChange where
  | addStart
  | addComplete
  | addFailed
  deriving DecidableEq

namespace ProcessorChange

def all : List ProcessorChange := [.addStart, .addComplete, .addFailed]

def name : ProcessorChange → String
  | addStart => "AddStart"
  | addComplete => "AddComplete"
  | addFailed => "AddFailed"

end ProcessorChange

structure ProcessorRecord where
  manufacturer : String
  apicId : UInt32
  processorId : UInt32
  deriving DecidableEq

structure Topology where
  firmware : ProcessorTable
  slots : List (Option ProcessorRecord) := []
  deriving Inhabited

namespace Topology

def count (t : Topology) : Nat := t.slots.length

/-- Room for the processor of that index; what is there already stays. -/
def grow (t : Topology) (index : UInt32) : Topology :=
  { t with slots := t.slots ++ List.replicate (index.toNat + 1 - t.slots.length) none }

def processor? (t : Topology) (index : UInt32) : Option ProcessorRecord := (t.slots[index.toNat]?).join

def processorId? (t : Topology) (index : UInt32) : Option UInt32 := (t.processor? index).map (·.processorId)

def fill (t : Topology) (index : UInt32) (r : ProcessorRecord) : Topology :=
  { t with slots := t.slots.set index.toNat (some r) }

theorem count_grow (t : Topology) (index : UInt32) : (t.grow index).count = max t.count (index.toNat + 1) := by
  simp only [count, grow, List.length_append, List.length_replicate]; omega

theorem count_fill (t : Topology) (index : UInt32) (r : ProcessorRecord) : (t.fill index r).count = t.count := by
  simp [count, fill]

end Topology

end PnpBus
