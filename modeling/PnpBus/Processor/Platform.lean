import PnpBus.Processor.Decoder

/-!
# What the machine does with processors

A platform answers CPUID row by row, per processor or for all of them, and
may refuse a job, lose it, or run it on another processor than the one asked
for. The answers are read with its decoder, whichever that is.
-/

namespace PnpBus

structure CpuidRow where
  leaf : UInt32
  subLeaf : UInt32
  registers : Registers
  deriving DecidableEq

structure Platform where
  /-- Rows of one processor. -/
  rows : List (UInt32 × List CpuidRow) := []
  /-- Rows of every processor, looked at after its own. -/
  sharedRows : List CpuidRow := []
  refused : List (UInt32 × Status) := []
  landsOn : List (UInt32 × UInt32) := []
  lost : List UInt32 := []
  decoder : CpuDecoder := .documented

namespace Platform

def cpuid (p : Platform) (processor leaf subLeaf : UInt32) : Registers :=
  let rows := (p.rows.lookup processor).getD [] ++ p.sharedRows
  match rows.find? fun r => r.leaf = leaf ∧ r.subLeaf = subLeaf with
  | some r => r.registers
  | none => {}

def identify (p : Platform) (processor : UInt32) : Except CpuFault CpuIdentity :=
  Cpu.identify p.decoder (p.cpuid processor)

inductive Placement where
  | refused (s : Status)
  | lost
  | on (processor : UInt32)
  deriving DecidableEq

/-- What becomes of a job aimed at a processor. -/
def place (p : Platform) (processor : UInt32) : Placement :=
  match p.refused.lookup processor with
  | some s => .refused s
  | none =>
    if processor ∈ p.lost then .lost else .on ((p.landsOn.lookup processor).getD processor)

end Platform

/-- Outside jobs the caller runs on the first processor. -/
def bootProcessor : UInt32 := 0

end PnpBus
