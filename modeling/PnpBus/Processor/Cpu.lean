import PnpBus.Status

/-!
# Who a processor says it is

The CPUID instruction answers four registers for a leaf and a sub-leaf. What
the registers of a leaf mean is left to a decoder. `Cpu.identify` asks it for
the vendor, and for the wide APIC id or, where there is none, the initial one.
-/

namespace PnpBus

structure Registers where
  eax : UInt32 := 0
  ebx : UInt32 := 0
  ecx : UInt32 := 0
  edx : UInt32 := 0
  deriving DecidableEq, Inhabited

/-- The answers of one processor, by leaf and sub-leaf. -/
abbrev CpuidReader := UInt32 → UInt32 → Registers

structure CpuIdentity where
  manufacturer : String
  apicId : UInt32
  deriving DecidableEq

inductive CpuFault where
  | refused (s : Status)
  | undecodable
  deriving DecidableEq

/-- Reads leaves 0, 0xB and 1: the fields are empty where a leaf is missing, and fail where it cannot be decoded. -/
structure CpuDecoder where
  vendor? : CpuidReader → Except CpuFault (Option String)
  wideApicId? : CpuidReader → Except CpuFault (Option UInt32)
  apicId? : CpuidReader → Except CpuFault (Option UInt8)

namespace Cpu

def identify (decoder : CpuDecoder) (cpuid : CpuidReader) : Except CpuFault CpuIdentity := do
  let some manufacturer ← decoder.vendor? cpuid | throw (.refused .notSupported)
  match ← decoder.wideApicId? cpuid with
  | some apicId => return ⟨manufacturer, apicId⟩
  | none =>
    let some apicId ← decoder.apicId? cpuid | throw (.refused .notSupported)
    return ⟨manufacturer, apicId.toUInt32⟩

end Cpu

end PnpBus
